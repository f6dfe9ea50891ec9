import ClassTable.Text.Blank
import ClassTable.Text.Numeral

set_option autoImplicit false

namespace ClassTable

namespace Calendar

def isLeap (year : Int) : Bool := year % 4 == 0 && (year % 100 != 0 || year % 400 == 0)

def daysIn (year : Int) (month : Nat) : Nat :=
  if month = 2 then (if isLeap year then 29 else 28)
  else if month = 4 ∨ month = 6 ∨ month = 9 ∨ month = 11 then 30
  else 31

def firstYear : Int := -262143

def lastYear : Int := 262142

def exists? (year : Int) (month day : Nat) : Bool :=
  firstYear ≤ year && year ≤ lastYear && 1 ≤ month && month ≤ 12 && 1 ≤ day && day ≤ daysIn year month

end Calendar

structure Date where
  year : Int
  month : Nat
  day : Nat
  real : Calendar.exists? year month day = true
deriving DecidableEq, Repr

namespace Date

inductive Fault where
  | tooShort
  | badCharacter
  | trailing
  | outOfRange
deriving DecidableEq, Repr

namespace Fault

def message : Fault → String
  | tooShort => "premature end of input"
  | badCharacter => "input contains invalid characters"
  | trailing => "trailing input"
  | outOfRange => "input is out of range"

end Fault

def ofParts? (year : Int) (month day : Nat) : Option Date :=
  if h : Calendar.exists? year month day = true then some ⟨year, month, day, h⟩ else none

/-- The largest magnitude of a number in a date before it counts as out of range. -/
def largestNumber : Nat := 9223372036854775807

def readDigits (width : Option Nat) (cs : List Char) : Except Fault (Nat × List Char) :=
  let all := cs.takeWhile Char.isDigit
  let digits := match width with
    | some w => all.take w
    | none => all
  if cs.isEmpty then .error .tooShort
  else if digits.isEmpty then .error .badCharacter
  else
    let n := Text.digitsValue digits
    if n ≤ largestNumber then .ok (n, cs.drop digits.length) else .error .outOfRange

/-- A year is four digits at most, or any number of digits after a sign. -/
def readYear (cs : List Char) : Except Fault (Int × List Char) :=
  match Text.dropBlank cs with
  | '-' :: rest => do
    let (n, rest) ← readDigits none rest
    pure (-(n : Int), rest)
  | '+' :: rest => do
    let (n, rest) ← readDigits none rest
    pure ((n : Int), rest)
  | cs => do
    let (n, rest) ← readDigits (some 4) cs
    pure ((n : Int), rest)

def readPart (last : Nat) (cs : List Char) : Except Fault (Nat × List Char) := do
  let (n, rest) ← readDigits (some 2) (Text.dropBlank cs)
  if 1 ≤ n ∧ n ≤ last then pure (n, rest) else .error .outOfRange

def readDash (cs : List Char) : Except Fault (List Char) :=
  match Text.dropBlank cs with
  | '-' :: rest => .ok rest
  | [] => .error .tooShort
  | _ => .error .badCharacter

/-- Years beyond 32 bits are refused before the rest is read. -/
def yearFits (year : Int) : Bool := -2147483648 ≤ year && year ≤ 2147483647

/-- Reads year, month and day between dashes; blanks may stand around each part. -/
def ofChars (cs : List Char) : Except Fault Date := do
  let (year, cs) ← readYear cs
  if !yearFits year then .error .outOfRange
  let cs ← readDash cs
  let (month, cs) ← readPart 12 cs
  let cs ← readDash cs
  let (day, cs) ← readPart 31 cs
  if !(Text.dropBlank cs).isEmpty then .error .trailing
  match ofParts? year month day with
  | some date => pure date
  | none => .error .outOfRange

def ofText (s : String) : Except Fault Date := ofChars s.toList

def padded (width n : Nat) : String :=
  let ds := Nat.toDigits 10 n
  String.ofList (List.replicate (width - ds.length) '0' ++ ds)

/-- The text of a date; years of other than four digits are signed. -/
def text (d : Date) : String :=
  let year :=
    if 0 ≤ d.year ∧ d.year ≤ 9999 then padded 4 d.year.toNat
    else (if d.year < 0 then "-" else "+") ++ padded 4 d.year.natAbs
  year ++ "-" ++ padded 2 d.month ++ "-" ++ padded 2 d.day

end Date

end ClassTable
