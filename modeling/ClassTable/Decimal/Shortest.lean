set_option autoImplicit false

namespace ClassTable.Decimal

/-- Powers of two with a natural exponent; a negative one counts as zero. -/
def twoTo (e : Int) : Nat := Nat.pow 2 e.toNat

def tenTo (e : Int) : Nat := Nat.pow 10 e.toNat

/-- The finite value `m * 2 ^ q`.  `narrowBelow` says that the gap to the next value below is half of the
gap above. -/
structure Binary where
  m : Nat
  q : Int
  narrowBelow : Bool

def Binary.ofBits (b : UInt64) : Binary :=
  let exponent := ((b >>> 52) &&& 0x7FF).toNat
  let fraction := (b &&& 0xFFFFFFFFFFFFF).toNat
  if exponent = 0 then ⟨fraction, -1074, false⟩
  else ⟨twoTo 52 + fraction, (exponent : Int) - 1075, fraction == 0 && exponent > 1⟩

structure Scientific where
  digits : Nat
  exponent : Int
deriving DecidableEq, Repr

def compareScaled (a : Nat) (i : Int) (n : Nat) (j : Int) : Ordering :=
  compare (a * tenTo i * twoTo (-j)) (n * twoTo j * tenTo (-i))

/-- Holds of the decimals that round to `x`: those between the midpoints to its neighbours, the midpoints
included when the mantissa is even. -/
def Binary.readsBack (x : Binary) (d : Scientific) : Bool :=
  let low := if x.narrowBelow then 4 * x.m - 1 else 4 * x.m - 2
  let even := x.m % 2 == 0
  let atLow := compareScaled d.digits d.exponent low (x.q - 2)
  let atHigh := compareScaled d.digits d.exponent (4 * x.m + 2) (x.q - 2)
  (atLow == .gt || (even && atLow == .eq)) && (atHigh == .lt || (even && atHigh == .eq))

/-- The least `k` with `x < 10 ^ k`, found upwards from `k`. -/
def Binary.scaleFrom (x : Binary) : Nat → Int → Int
  | 0, k => k
  | fuel + 1, k => if compareScaled 1 k x.m x.q == .gt then k else x.scaleFrom fuel (k + 1)

def Binary.scale (x : Binary) : Int := x.scaleFrom 700 (-330)

def Binary.floorDiv (x : Binary) (e : Int) : Nat :=
  (x.m * twoTo x.q * tenTo (-e)) / (twoTo (-x.q) * tenTo e)

/-- The nearer of two adjacent grid points; `up` decides a tie, else the even one wins. -/
def Binary.nearer (x : Binary) (up : Bool) (below : Scientific) : Scientific :=
  let above : Scientific := ⟨below.digits + 1, below.exponent⟩
  match compareScaled (2 * below.digits + 1) below.exponent (2 * x.m) x.q with
  | .gt => below
  | .lt => above
  | .eq => if up || below.digits % 2 == 1 then above else below

def Binary.onGrid? (x : Binary) (up : Bool) (e : Int) : Option Scientific :=
  let below : Scientific := ⟨x.floorDiv e, e⟩
  let above : Scientific := ⟨below.digits + 1, e⟩
  match x.readsBack below, x.readsBack above with
  | true, true => some (x.nearer up below)
  | true, false => some below
  | false, true => some above
  | false, false => none

def Scientific.strip : Nat → Scientific → Scientific
  | 0, d => d
  | fuel + 1, d =>
    if d.digits % 10 = 0 ∧ d.digits ≠ 0 then strip fuel ⟨d.digits / 10, d.exponent + 1⟩ else d

/-- The shortest decimal that reads back as the magnitude of a finite number.  `up` says that of two
equally near ones the larger wins. -/
def shortest (up : Bool) (x : Float) : Scientific :=
  let b := Binary.ofBits x.toBits
  if b.m = 0 then ⟨0, 0⟩
  else
    let k := b.scale
    match (List.range 17).findSome? fun n => b.onGrid? up (k - (n + 1 : Nat)) with
    | some d => d.strip 20
    | none => ⟨b.floorDiv (k - 17), k - 17⟩

def digitChars (n : Nat) : List Char := Nat.toDigits 10 n

def zeros (n : Nat) : List Char := List.replicate n '0'

/-- Positional text of a decimal: no exponent, and no point when there is nothing after it. -/
def Scientific.positional (d : Scientific) : List Char :=
  let ds := digitChars d.digits
  if d.exponent ≥ 0 then ds ++ (if d.digits = 0 then [] else zeros d.exponent.toNat)
  else
    let places := (-d.exponent).toNat
    if ds.length ≤ places then '0' :: '.' :: zeros (places - ds.length) ++ ds
    else ds.take (ds.length - places) ++ '.' :: ds.drop (ds.length - places)

def intChars (n : Int) : List Char :=
  if n < 0 then '-' :: digitChars n.natAbs else digitChars n.natAbs

/-- Text of a decimal with a point or an exponent always there: positional from five zeros after the point
up to sixteen places before it. -/
def Scientific.pointed (d : Scientific) : List Char :=
  let ds := digitChars d.digits
  let point : Int := ds.length + d.exponent
  if 0 ≤ d.exponent ∧ point ≤ 16 then d.positional ++ ['.', '0']
  else if -5 < point ∧ point ≤ 16 then d.positional
  else
    let fraction := if ds.length = 1 then [] else '.' :: ds.drop 1
    ds.take 1 ++ fraction ++ 'e' :: intChars (point - 1)

def isNegative (x : Float) : Bool := x.toBits >>> 63 == 1

def withSign (x : Float) (magnitude : List Char) : List Char :=
  if isNegative x then '-' :: magnitude else magnitude

def positionalText (x : Float) : String :=
  if x.isNaN then "NaN"
  else if x.isInf then String.ofList (withSign x ['i', 'n', 'f'])
  else String.ofList (withSign x (shortest true x).positional)

def pointedText (x : Float) : String := String.ofList (withSign x (shortest false x).pointed)

/-- The number nearest to `mantissa * 10 ^ exponent`; far beyond the range the power is not computed. -/
def toFloat (negative : Bool) (mantissa : Nat) (exponent : Int) : Float :=
  let places := exponent + (digitChars mantissa).length
  let magnitude :=
    if mantissa = 0 ∨ places < -400 then 0.0
    else if 400 < places then 1.0 / 0.0
    else if exponent < 0 then Float.ofScientific mantissa true exponent.natAbs
    else Float.ofScientific mantissa false exponent.natAbs
  if negative then -magnitude else magnitude

end ClassTable.Decimal
