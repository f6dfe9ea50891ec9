import ClassTable.Decimal.Shortest
import ClassTable.Keyed

/-!
Structured data: null, booleans, numbers, texts, arrays and objects.  Objects that were read keep their
members in the order of the keys, and of two members with one key the later stays.
-/

set_option autoImplicit false

namespace ClassTable

/-- Whole numbers up to 64 bits are kept exactly, all others in binary floating point. -/
inductive Number where
  | int (n : Int)
  | float (x : Float)
deriving BEq, Repr, Inhabited

namespace Number

def minInt : Int := -9223372036854775808

def maxInt : Int := 18446744073709551615

def toFloat : Number → Float
  | int n => if n < 0 then -(Float.ofNat n.natAbs) else Float.ofNat n.natAbs
  | float x => x

def text : Number → String
  | int n => String.ofList (Decimal.intChars n)
  | float x => Decimal.pointedText x

end Number

inductive Json where
  | null
  | bool (b : Bool)
  | num (n : Number)
  | str (s : String)
  | arr (items : List Json)
  | obj (members : List (String × Json))
deriving BEq, Repr, Inhabited

namespace Json

def ofMembers (members : List (String × Json)) : Json :=
  obj (Keyed.ofList members)

def nat (n : Nat) : Json := num (.int n)

def get? (key : String) : Json → Option Json
  | obj members => members.lookup key
  | _ => none

def str? : Json → Option String
  | str s => some s
  | _ => none

def bool? : Json → Option Bool
  | bool b => some b
  | _ => none

def arr? : Json → Option (List Json)
  | arr items => some items
  | _ => none

def obj? : Json → Option (List (String × Json))
  | obj members => some members
  | _ => none

def natUpTo? (bound : Nat) : Json → Option Nat
  | num (.int n) => if 0 ≤ n ∧ n ≤ bound then some n.toNat else none
  | _ => none

end Json

end ClassTable
