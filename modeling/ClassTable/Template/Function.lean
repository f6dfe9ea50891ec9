import ClassTable.Decimal.Reader
import ClassTable.Template.Fault
import ClassTable.Json
import ClassTable.Text.Naming

set_option autoImplicit false

namespace ClassTable.Template

mutual

def textOf : Json → String
  | .null => ""
  | .bool b => if b then "true" else "false"
  | .num n => n.text
  | .str s => s
  | .arr items => "[" ++ textOfItems "" items ++ "]"
  | .obj _ => "[object]"

def textOfItems (separator : String) : List Json → String
  | [] => ""
  | item :: rest => separator ++ textOf item ++ textOfItems ", " rest

end

/-- Holds of floating-point numbers other than zero, the tiniest and the infinite ones. -/
def isNormal (x : Float) : Bool :=
  let exponent := (x.toBits >>> 52) &&& 0x7FF
  exponent != 0 && exponent != 0x7FF

/-- Zero, null and everything empty count as false; zero can be told to count as true. -/
def isTruthy (includeZero : Bool) : Json → Bool
  | .null => false
  | .bool b => b
  | .num (.int n) => includeZero || n != 0
  | .num (.float x) => if includeZero then !x.isNaN else isNormal x
  | .str s => !s.isEmpty
  | .arr items => !items.isEmpty
  | .obj members => !members.isEmpty

/-- An argument: its value, if there is one, and the path it was written as. -/
structure Argument where
  value? : Option Json
  path : Option String

def Argument.value (a : Argument) : Json := a.value?.getD .null

def compareFloats (x y : Float) : Option Ordering :=
  if x < y then some .lt else if x == y then some .eq else if y < x then some .gt else none

def compareNumbers : Number → Number → Option Ordering
  | .int m, .int n => some (compare m n)
  | m, n => compareFloats m.toFloat n.toFloat

def compareTexts (s t : String) : Ordering :=
  if s < t then .lt else if s = t then .eq else .gt

/-- Numbers, texts and booleans compare among themselves, and a number with a text that holds one. -/
def compareValues : Json → Json → Option Ordering
  | .num m, .num n => compareNumbers m n
  | .str s, .str t => some (compareTexts s t)
  | .bool a, .bool b => some (compare a b)
  | .num n, .str s => (Decimal.float? s.toList).bind fun x => compareFloats n.toFloat x
  | .str s, .num n => (Decimal.float? s.toList).bind fun x => compareFloats x n.toFloat
  | _, _ => none

def lengthOf : Json → Nat
  | .arr items => items.length
  | .obj members => members.length
  | .str s => s.utf8ByteSize
  | _ => 0

section Parameters

variable (function : String) (args : List Argument)

def parameter (index : Nat) (name : String) : Except Fault Json :=
  match args[index]?.bind Argument.value? with
  | some value => .ok value
  | none => .error (.parameterMissing function name)

def textParameter (index : Nat) (name : String) : Except Fault String := do
  match ← parameter function args index name with
  | .str s => pure s
  | _ => .error (.parameterType function name "str")

def argument (index : Nat) : Except Fault Argument :=
  match args[index]? with
  | some a => .ok a
  | none => .error (.argumentMissing function index)

def relation (holds : Json → Json → Bool) : Except Fault Json := do
  let x ← parameter function args 0 "x"
  let y ← parameter function args 1 "y"
  pure (.bool (holds x y))

end Parameters

def lookupValue : Json → Json → Option Json
  | .arr items, .num (.int n) => if 0 ≤ n then items[n.toNat]? else none
  | .obj members, .str key => members.lookup key
  | _, _ => none

inductive Function where
  | upperFirst
  | getter
  | lookup
  | eq
  | ne
  | gt
  | gte
  | lt
  | lte
  | and
  | or
  | not
  | len
deriving DecidableEq, Repr

namespace Function

def name : Function → String
  | upperFirst => "upper_first"
  | getter => "getter"
  | lookup => "lookup"
  | eq => "eq"
  | ne => "ne"
  | gt => "gt"
  | gte => "gte"
  | lt => "lt"
  | lte => "lte"
  | and => "and"
  | or => "or"
  | not => "not"
  | len => "len"

def all : List Function :=
  [upperFirst, getter, lookup, eq, ne, gt, gte, lt, lte, and, or, not, len]

def ofName? (name : String) : Option Function := all.find? (·.name == name)

def apply (f : Function) (args : List Argument) : Except Fault Json :=
  match f with
  | upperFirst => do pure (.str (Text.upperFirst (← textParameter f.name args 0 "s")))
  | getter => do pure (.str (Text.getterName (← textParameter f.name args 0 "s")))
  | lookup => do
    let collection ← argument f.name args 0
    let index ← argument f.name args 1
    match lookupValue collection.value index.value with
    | some value => pure value
    | none => .error (.valueMissing none)
  | eq => relation f.name args fun x y => x == y
  | ne => relation f.name args fun x y => !(x == y)
  | gt => relation f.name args fun x y => compareValues x y == some .gt
  | gte => relation f.name args fun x y => ((compareValues x y).map (·.isGE)).getD false
  | lt => relation f.name args fun x y => compareValues x y == some .lt
  | lte => relation f.name args fun x y => ((compareValues x y).map (·.isLE)).getD false
  | and => relation f.name args fun x y => isTruthy false x && isTruthy false y
  | or => relation f.name args fun x y => isTruthy false x || isTruthy false y
  | not => do pure (.bool (!isTruthy false (← parameter f.name args 0 "x")))
  | len => do pure (.nat (lengthOf (← parameter f.name args 0 "x")))

end Function

end ClassTable.Template
