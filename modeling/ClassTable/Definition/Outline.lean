import ClassTable.Definition

set_option autoImplicit false

namespace ClassTable

def margin (depth : Nat) : String := String.ofList (List.replicate (2 * depth) ' ')

def classLine (depth : Nat) (name description : String) : String :=
  margin depth ++ name ++ " (" ++ description ++ ")\n"

def fieldLine (depth : Nat) (name dataType : String) (invariant : Bool) : String :=
  margin depth ++ name ++ ": " ++ dataType ++ (if invariant then " [required]" else "") ++ "\n"

mutual

def ClassDef.outlineAt (depth : Nat) : ClassDef → String
  | ⟨name, description, fields⟩ => classLine depth name description ++ fieldsOutlineAt (depth + 1) fields

def fieldsOutlineAt (depth : Nat) : List FieldDef → String
  | [] => ""
  | ⟨name, dataType, _, _, invariant, children⟩ :: rest =>
    fieldLine depth name dataType invariant ++ forestOutlineAt (depth + 1) children
      ++ fieldsOutlineAt depth rest

def forestOutlineAt (depth : Nat) : List ClassDef → String
  | [] => ""
  | c :: rest => c.outlineAt depth ++ forestOutlineAt depth rest

end

def outline (forest : List ClassDef) : String := forestOutlineAt 0 forest

end ClassTable
