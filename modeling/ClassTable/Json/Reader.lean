import ClassTable.Json
import ClassTable.Text.Numeral

set_option autoImplicit false

namespace ClassTable.Json

def isSpace (c : Char) : Bool := c = ' ' || c = '\t' || c = '\n' || c = '\r'

def skipSpace (cs : List Char) : List Char := cs.dropWhile isSpace

def hexValue? (c : Char) : Option Nat :=
  if c.isDigit then some (c.toNat - '0'.toNat)
  else if 'a' ≤ c ∧ c ≤ 'f' then some (c.toNat - 'a'.toNat + 10)
  else if 'A' ≤ c ∧ c ≤ 'F' then some (c.toNat - 'A'.toNat + 10)
  else none

def hexNumber? (digits : List Char) : Option Nat := do
  let values ← digits.mapM hexValue?
  pure (values.foldl (fun n h => 16 * n + h) 0)

def isHighSurrogate (n : Nat) : Bool := 0xD800 ≤ n && n ≤ 0xDBFF

def isLowSurrogate (n : Nat) : Bool := 0xDC00 ≤ n && n ≤ 0xDFFF

def pairChar? (high low : Nat) : Option Char :=
  if isHighSurrogate high && isLowSurrogate low then
    some (Char.ofNat (0x10000 + (high - 0xD800) * 0x400 + (low - 0xDC00)))
  else none

/-- The character of one code unit; a surrogate alone stands for none. -/
def unitChar? (unit : Nat) : Option Char :=
  if isHighSurrogate unit || isLowSurrogate unit then none else some (Char.ofNat unit)

def simpleEscape? : Char → Option Char
  | '"' => some '"'
  | '\\' => some '\\'
  | '/' => some '/'
  | 'b' => some '\x08'
  | 'f' => some '\x0c'
  | 'n' => some '\n'
  | 'r' => some '\r'
  | 't' => some '\t'
  | _ => none

def consText (c : Char) (text : List Char × List Char) : List Char × List Char := (c :: text.1, text.2)

def readText? : List Char → Option (List Char × List Char)
  | [] => none
  | '"' :: rest => some ([], rest)
  | '\\' :: 'u' :: a :: b :: c :: d :: rest => do
    let unit ← hexNumber? [a, b, c, d]
    if isHighSurrogate unit then
      match rest with
      | '\\' :: 'u' :: e :: f :: g :: h :: more => do
        let char ← pairChar? unit (← hexNumber? [e, f, g, h])
        consText char <$> readText? more
      | _ => none
    else do
      let char ← unitChar? unit
      consText char <$> readText? rest
  | '\\' :: e :: rest => do
    let char ← simpleEscape? e
    consText char <$> readText? rest
  | c :: rest =>
    if 0x20 ≤ c.toNat ∧ c ≠ '\\' then consText c <$> readText? rest else none

def readWhole? (cs : List Char) : Option (List Char × List Char) :=
  match cs.takeWhile Char.isDigit with
  | [] => none
  | ['0'] => some (['0'], cs.drop 1)
  | '0' :: _ => none
  | ds => some (ds, cs.drop ds.length)

def readFraction? : List Char → Option (List Char × List Char)
  | '.' :: rest =>
    match rest.takeWhile Char.isDigit with
    | [] => none
    | ds => some (ds, rest.drop ds.length)
  | cs => some ([], cs)

def readExponent? (cs : List Char) : Option (Option Int × List Char) :=
  match cs with
  | e :: rest =>
    if e = 'e' ∨ e = 'E' then
      let (negative, rest) := match rest with
        | '-' :: more => (true, more)
        | '+' :: more => (false, more)
        | _ => (false, rest)
      match rest.takeWhile Char.isDigit with
      | [] => none
      | ds =>
        let n : Int := Text.digitsValue ds
        some (some (if negative then -n else n), rest.drop ds.length)
    else some (none, cs)
  | [] => some (none, cs)

/-- A whole number in range stays exact; minus zero and all others become floating-point numbers, which
must be finite. -/
def numberOf? (negative : Bool) (whole fraction : List Char) (exponent : Option Int) : Option Number :=
  let n := Text.digitsValue whole
  let exact : Int := if negative then -(n : Int) else n
  if fraction.isEmpty && exponent.isNone && Number.minInt ≤ exact && exact ≤ Number.maxInt
      && !(negative && n == 0) then
    some (.int exact)
  else
    let x := Decimal.toFloat negative (Text.digitsValue (whole ++ fraction))
      (exponent.getD 0 - fraction.length)
    if x.isInf then none else some (.float x)

def readNumber? (cs : List Char) : Option (Number × List Char) := do
  let (negative, rest) := match cs with
    | '-' :: more => (true, more)
    | _ => (false, cs)
  let (whole, rest) ← readWhole? rest
  let (fraction, rest) ← readFraction? rest
  let (exponent, rest) ← readExponent? rest
  let n ← numberOf? negative whole fraction exponent
  pure (n, rest)

mutual

/-- Reads one value.  The fuel bounds the nesting and the length of what is read. -/
def readValue? : Nat → List Char → Option (Json × List Char)
  | 0, _ => none
  | fuel + 1, cs =>
    match skipSpace cs with
    | 'n' :: 'u' :: 'l' :: 'l' :: rest => some (null, rest)
    | 't' :: 'r' :: 'u' :: 'e' :: rest => some (bool true, rest)
    | 'f' :: 'a' :: 'l' :: 's' :: 'e' :: rest => some (bool false, rest)
    | '"' :: rest => do
      let (s, rest) ← readText? rest
      pure (str (String.ofList s), rest)
    | '[' :: rest =>
      match skipSpace rest with
      | ']' :: rest => some (arr [], rest)
      | rest => do
        let (items, rest) ← readItems? fuel rest
        pure (arr items, rest)
    | '\x7b' :: rest =>
      match skipSpace rest with
      | '\x7d' :: rest => some (obj [], rest)
      | rest => do
        let (members, rest) ← readMembers? fuel rest
        pure (ofMembers members, rest)
    | cs => do
      let (n, rest) ← readNumber? cs
      pure (num n, rest)

def readItems? : Nat → List Char → Option (List Json × List Char)
  | 0, _ => none
  | fuel + 1, cs => do
    let (item, rest) ← readValue? fuel cs
    match skipSpace rest with
    | ',' :: rest => do
      let (items, rest) ← readItems? fuel rest
      pure (item :: items, rest)
    | ']' :: rest => pure ([item], rest)
    | _ => none

def readMembers? : Nat → List Char → Option (List (String × Json) × List Char)
  | 0, _ => none
  | fuel + 1, cs =>
    match skipSpace cs with
    | '"' :: rest => do
      let (key, rest) ← readText? rest
      match skipSpace rest with
      | ':' :: rest => do
        let (value, rest) ← readValue? fuel rest
        match skipSpace rest with
        | ',' :: rest => do
          let (members, rest) ← readMembers? fuel rest
          pure ((String.ofList key, value) :: members, rest)
        | '\x7d' :: rest => pure ([(String.ofList key, value)], rest)
        | _ => none
      | _ => none
    | _ => none

end

/-- The value that a text holds, with nothing but white space around it.  Arrays and objects may nest to any
depth: the limit of 128 levels, at which readers usually give up, is left out. -/
def read? (cs : List Char) : Option Json := do
  let (value, rest) ← readValue? (cs.length + 1) cs
  if (skipSpace rest).isEmpty then pure value else none

end ClassTable.Json
