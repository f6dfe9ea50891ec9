import ClassTable.Definition
import ClassTable.Log
import ClassTable.Text.Naming

set_option autoImplicit false

namespace ClassTable

inductive RequiredValue where
  | className
  | description
  | fieldName
  | dataType
deriving DecidableEq, Repr

def RequiredValue.text : RequiredValue → String
  | className => "class name"
  | description => "description"
  | fieldName => "field variable name"
  | dataType => "data type"

inductive ClassFault where
  | missingValue (className : String) (field : Option String) (what : RequiredValue)
  | noFields (className : String)
  | repeated (className : String)
deriving DecidableEq, Repr

def ClassFault.message : ClassFault → String
  | missingValue className field what =>
    "class '" ++ className ++ "': missing " ++ what.text
      ++ (match field with
        | some f => " on field '" ++ f ++ "'"
        | none => "")
  | noFields className => "class '" ++ className ++ "' declares no fields"
  | repeated className => "class name '" ++ className ++ "' is defined more than once"

/-- What to do about classes that share a name: refuse them, or keep the last. -/
inductive CollisionPolicy where
  | reject
  | overwrite
deriving DecidableEq, Repr

namespace CollisionPolicy

def name : CollisionPolicy → String
  | reject => "reject"
  | overwrite => "overwrite"

def ofName? (s : String) : Option CollisionPolicy := [reject, overwrite].find? (·.name == s)

end CollisionPolicy

namespace FieldDef

def fault? (className : String) (f : FieldDef) : Option ClassFault :=
  if Text.isBlankText f.name then some (.missingValue className none .fieldName)
  else if Text.isBlankText f.dataType then some (.missingValue className (some f.name) .dataType)
  else none

end FieldDef

namespace ClassDef

/-- What a class lacks, the classes nested in it aside. -/
def fault? (c : ClassDef) : Option ClassFault :=
  if Text.isBlankText c.name then some (.missingValue c.name none .className)
  else if Text.isBlankText c.description then some (.missingValue c.name none .description)
  else if c.fields.isEmpty then some (.noFields c.name)
  else c.fields.findSome? (FieldDef.fault? c.name)

def styleEvents (c : ClassDef) : List Event :=
  (if Text.isPascalCase c.name then [] else [.classNameStyle c.name])
    ++ (c.fields.filter fun f => !Text.isCamelCase f.name).map fun f => .fieldNameStyle c.name f.name

end ClassDef

def checkClasses (policy : CollisionPolicy) (seen : List String) :
    List ClassDef → Logged ClassFault Unit
  | [] => pure ()
  | c :: rest =>
    match c.fault? with
    | some fault => .fail fault
    | none => do
      .tell c.styleEvents
      if policy = .reject ∧ c.name ∈ seen then .fail (.repeated c.name)
      else checkClasses policy (c.name :: seen) rest

def checkForest (policy : CollisionPolicy) (forest : List ClassDef) : Logged ClassFault Unit :=
  checkClasses policy [] (forestWalk forest)

end ClassTable
