import ClassTable.Decimal.Shortest
import ClassTable.Text.Numeral

set_option autoImplicit false

namespace ClassTable.Decimal

def splitSign : List Char → Bool × List Char
  | '-' :: rest => (true, rest)
  | '+' :: rest => (false, rest)
  | cs => (false, cs)

def exponentOf? : List Char → Option Int
  | [] => some 0
  | e :: rest =>
    if e = 'e' ∨ e = 'E' then
      let (negative, digits) := splitSign rest
      (Text.natOfDigits? digits).map fun n => if negative then -(n : Int) else n
    else none

def wordOf? (cs : List Char) : Option Float :=
  match String.ofList (cs.map Char.toLower) with
  | "inf" | "infinity" => some (1.0 / 0.0)
  | "nan" => some (0.0 / 0.0)
  | _ => none

/-- A fraction may lack the digits on one side of the point, never on both. -/
def fractionOf? (negative : Bool) (cs : List Char) : Option Float := do
  let whole := cs.takeWhile Char.isDigit
  let rest := cs.drop whole.length
  let (fraction, rest) := match rest with
    | '.' :: more => (more.takeWhile Char.isDigit, more.dropWhile Char.isDigit)
    | _ => ([], rest)
  guard !(whole.isEmpty && fraction.isEmpty)
  let exponent ← exponentOf? rest
  pure (toFloat negative (Text.digitsValue (whole ++ fraction)) (exponent - fraction.length))

def float? (cs : List Char) : Option Float :=
  let (negative, rest) := splitSign cs
  match wordOf? rest with
  | some x => some (if negative then -x else x)
  | none => fractionOf? negative rest

end ClassTable.Decimal
