import ClassTable.Date
import ClassTable.Decimal.Reader
import ClassTable.Setting

set_option autoImplicit false

namespace ClassTable.Toml

/-- Digits with single underscores between them, the underscores left out, and what follows. -/
def digitsAfter (isDigit : Char → Bool) : List Char → List Char × List Char
  | [] => ([], [])
  | '_' :: d :: rest =>
    if isDigit d then
      let (digits, rest) := digitsAfter isDigit rest
      (d :: digits, rest)
    else ([], '_' :: d :: rest)
  | c :: rest =>
    if isDigit c then
      let (digits, rest) := digitsAfter isDigit rest
      (c :: digits, rest)
    else ([], c :: rest)

def digits? (isDigit : Char → Bool) : List Char → Option (List Char × List Char)
  | c :: rest =>
    if isDigit c then
      let (digits, rest) := digitsAfter isDigit rest
      some (c :: digits, rest)
    else none
  | [] => none

def fixedDigits? (count : Nat) (cs : List Char) : Option (Nat × List Char) :=
  let digits := cs.take count
  if digits.length = count && digits.all Char.isDigit then
    some (Text.digitsValue digits, cs.drop count)
  else none

def after? (mark : Char) : List Char → Option (List Char)
  | c :: rest => if c = mark then some rest else none
  | [] => none

def afterDate? (cs : List Char) : Option (List Char) := do
  let (year, rest) ← fixedDigits? 4 cs
  let (month, rest) ← fixedDigits? 2 (← after? '-' rest)
  let (day, rest) ← fixedDigits? 2 (← after? '-' rest)
  guard (1 ≤ month ∧ month ≤ 12 ∧ 1 ≤ day ∧ day ≤ Calendar.daysIn year month)
  pure rest

def afterFraction (cs : List Char) : List Char :=
  match cs with
  | '.' :: d :: rest => if d.isDigit then rest.dropWhile Char.isDigit else cs
  | _ => cs

def afterTime? (cs : List Char) : Option (List Char) := do
  let (hour, rest) ← fixedDigits? 2 cs
  let (minute, rest) ← fixedDigits? 2 (← after? ':' rest)
  let (second, rest) ← fixedDigits? 2 (← after? ':' rest)
  guard (hour ≤ 23 ∧ minute ≤ 59 ∧ second ≤ 60)
  pure (afterFraction rest)

def afterOffset? (cs : List Char) : Option (List Char) :=
  match cs with
  | c :: rest =>
    if c = 'Z' || c = 'z' then some rest
    else if c = '+' || c = '-' then do
      let (hour, rest) ← fixedDigits? 2 rest
      let (minute, rest) ← fixedDigits? 2 (← after? ':' rest)
      guard (hour ≤ 23 ∧ minute ≤ 59)
      pure rest
    else none
  | [] => none

def afterDayTime? (cs : List Char) : Option (List Char) :=
  match cs with
  | c :: rest =>
    if c = 'T' || c = 't' || c = ' ' then
      (afterTime? rest).map fun rest => (afterOffset? rest).getD rest
    else none
  | [] => none

def afterMoment? (cs : List Char) : Option (List Char) :=
  match afterDate? cs with
  | some rest => some ((afterDayTime? rest).getD rest)
  | none => afterTime? cs

def momentKey : String := "$__toml_private_datetime"

def moment? (cs : List Char) : Option (Setting × List Char) := do
  let rest ← afterMoment? cs
  let written := String.ofList (cs.take (cs.length - rest.length))
  pure (.table [(momentKey, .text written)], rest)

def sign (cs : List Char) : List Char × List Char :=
  match cs with
  | '+' :: rest => (['+'], rest)
  | '-' :: rest => (['-'], rest)
  | _ => ([], cs)

def wholeDigits? (cs : List Char) : Option (List Char × List Char) :=
  match cs with
  | '0' :: rest => some (['0'], rest)
  | _ => digits? Char.isDigit cs

def exponent? (cs : List Char) : Option (List Char × List Char) :=
  match cs with
  | c :: rest =>
    if c = 'e' || c = 'E' then do
      let (mark, rest) := sign rest
      let (digits, rest) ← digits? Char.isDigit rest
      pure ('e' :: mark ++ digits, rest)
    else none
  | [] => none

/-- What makes a number no whole one: a fraction, an exponent, or both. -/
def fraction? (cs : List Char) : Option (List Char × List Char) :=
  match cs with
  | '.' :: more => do
    let (digits, rest) ← digits? Char.isDigit more
    let (exponent, rest) := (exponent? rest).getD ([], rest)
    pure ('.' :: digits ++ exponent, rest)
  | _ => exponent? cs

/-- Infinity is no value of a number that is written with digits and without a minus sign. -/
def decimal? (cs : List Char) : Option (Setting × List Char) := do
  let (mark, rest) := sign cs
  let (whole, rest) ← wholeDigits? rest
  let (fraction, rest) ← fraction? rest
  let x ← Decimal.float? (mark ++ whole ++ fraction)
  guard !(x.isInf && !Decimal.isNegative x)
  pure (.decimal x, rest)

def word? (word : String) (value : Setting) (cs : List Char) : Option (Setting × List Char) :=
  if word.toList.isPrefixOf cs then some (value, cs.drop word.length) else none

def specialDecimal? (cs : List Char) : Option (Setting × List Char) :=
  let (mark, rest) := sign cs
  let signed (x : Float) : Setting := .decimal (if mark == ['-'] then -x else x)
  word? "inf" (signed (1.0 / 0.0)) rest <|> word? "nan" (signed (0.0 / 0.0)) rest

def minWhole : Int := -9223372036854775808

def maxWhole : Int := 9223372036854775807

def ofInt? (n : Int) : Option Setting :=
  if minWhole ≤ n ∧ n ≤ maxWhole then some (.signed n) else none

def ofRadix? (radix : Nat) (isDigit : Char → Bool) (cs : List Char) : Option (Setting × List Char) := do
  let (digits, rest) ← digits? isDigit cs
  let value (d : Char) : Nat := if d.isDigit then d.toNat - '0'.toNat else d.toLower.toNat - 'a'.toNat + 10
  pure (← ofInt? (digits.foldl (fun n d => radix * n + value d) 0 : Nat), rest)

def whole? (cs : List Char) : Option (Setting × List Char) :=
  match cs with
  | '0' :: 'x' :: rest => ofRadix? 16 (fun c => c.isDigit || ('a' ≤ c.toLower && c.toLower ≤ 'f')) rest
  | '0' :: 'o' :: rest => ofRadix? 8 (fun c => '0' ≤ c && c ≤ '7') rest
  | '0' :: 'b' :: rest => ofRadix? 2 (fun c => c = '0' || c = '1') rest
  | _ => do
    let (mark, rest) := sign cs
    let (digits, rest) ← wholeDigits? rest
    let n : Int := Text.digitsValue digits
    pure (← ofInt? (if mark == ['-'] then -n else n), rest)

def scalar? (cs : List Char) : Option (Setting × List Char) :=
  moment? cs <|> decimal? cs <|> specialDecimal? cs <|> whole? cs
    <|> word? "true" (.flag true) cs <|> word? "false" (.flag false) cs

end ClassTable.Toml
