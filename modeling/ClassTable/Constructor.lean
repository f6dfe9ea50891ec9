import ClassTable.Definition
import ClassTable.Text.Naming

set_option autoImplicit false

namespace ClassTable

inductive ConstructorKind where
  | default
  | required
  | copying
deriving DecidableEq, Repr

namespace ConstructorKind

def all : List ConstructorKind := [default, required, copying]

def name : ConstructorKind → String
  | default => "default"
  | required => "required"
  | copying => "copying"

end ConstructorKind

structure Member where
  name : String
  dataType : String
deriving DecidableEq, Repr

structure Parameter where
  dataType : String
  name : String
deriving DecidableEq, Repr

structure Assignment where
  member : String
  value : String
deriving DecidableEq, Repr

inductive Constructor where
  | default
  | required (members : List Member)
  | copying (className argument : String) (members : List Member)
deriving DecidableEq, Repr

def FieldDef.member (f : FieldDef) : Member := ⟨f.name, f.dataType⟩

namespace Constructor

def copyArgument : String := "other"

def ofKind (c : ClassDef) : ConstructorKind → Constructor
  | .default => default
  | .required => required (c.invariantFields.map FieldDef.member)
  | .copying => copying c.name copyArgument (c.fields.map FieldDef.member)

def kind : Constructor → ConstructorKind
  | default => .default
  | required _ => .required
  | copying .. => .copying

def parameters : Constructor → List Parameter
  | default => []
  | required members => members.map fun m => ⟨m.dataType, m.name⟩
  | copying className argument _ => [⟨className, argument⟩]

def assignments : Constructor → List Assignment
  | default => []
  | required members => members.map fun m => ⟨m.name, m.name⟩
  | copying _ argument members =>
    members.map fun m => ⟨m.name, argument ++ "." ++ Text.getterName m.name ++ "()"⟩

/-- Holds of a constructor for required fields without any: it would repeat the default one. -/
def isRedundant : Constructor → Bool
  | required [] => true
  | _ => false

def ofClass (c : ClassDef) : List Constructor :=
  (ConstructorKind.all.map (ofKind c)).filter (!·.isRedundant)

end Constructor

end ClassTable
