import ClassTable.Decimal.Shortest
import ClassTable.Keyed
import ClassTable.Text.Quoted

set_option autoImplicit false

namespace ClassTable

/-- Whole numbers remember whether their source has negative ones. -/
inductive Setting where
  | text (s : String)
  | letter (c : Char)
  | flag (b : Bool)
  | signed (n : Int)
  | unsigned (n : Nat)
  | decimal (x : Float)
  | list (items : List Setting)
  | table (members : List (String × Setting))
deriving Repr, Inhabited

namespace Setting

mutual

def merge (base later : Setting) : Setting :=
  match later with
  | .table members =>
    match base with
    | .table old => .table (mergeMembers old members)
    | _ => .table members
  | value => value

def mergeMembers (base : Keyed Setting) (later : List (String × Setting)) : Keyed Setting :=
  match later with
  | [] => base
  | (key, value) :: rest =>
    let merged := match base.get? key with
      | some old => merge old value
      | none => value
    mergeMembers (base.insert key merged) rest

end

def under : List String → Setting → Setting
  | [], value => value
  | key :: keys, value => .table [(key, under keys value)]

def describe : Setting → String
  | text s => "string " ++ Text.quoted s
  | letter c => "char " ++ Text.quotedLetter c
  | flag b => "bool " ++ (if b then "true" else "false")
  | signed n => "signed int `" ++ String.ofList (Decimal.intChars n) ++ "`"
  | unsigned n => "unsigned int `" ++ String.ofList (Decimal.intChars n) ++ "`"
  | decimal x => "float `" ++ Decimal.positionalText x ++ "`"
  | list _ => "sequence"
  | table _ => "map"

end Setting

end ClassTable
