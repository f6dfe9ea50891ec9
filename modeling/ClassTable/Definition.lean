set_option autoImplicit false

namespace ClassTable

mutual

structure ClassDef where
  name : String
  description : String
  fields : List FieldDef
deriving Repr, BEq, Inhabited

structure FieldDef where
  name : String
  dataType : String
  initialValue : String
  description : String
  /-- Whether the field is an argument of the constructor for required fields. -/
  invariant : Bool
  children : List ClassDef
deriving Repr, BEq, Inhabited

end

inductive Entry where
  | start (c : ClassDef)
  | member (f : FieldDef)

namespace ClassDef

def invariantFields (c : ClassDef) : List FieldDef := c.fields.filter (·.invariant)

def addField (c : ClassDef) (f : FieldDef) : ClassDef := { c with fields := c.fields ++ [f] }

end ClassDef

namespace FieldDef

def plain (name dataType : String) : FieldDef := ⟨name, dataType, "", "", false, []⟩

def addChild (f : FieldDef) (c : ClassDef) : FieldDef := { f with children := f.children ++ [c] }

end FieldDef

mutual

def ClassDef.nodeCount : ClassDef → Nat
  | ⟨_, _, fields⟩ => 1 + fieldsNodeCount fields

def fieldsNodeCount : List FieldDef → Nat
  | [] => 0
  | ⟨_, _, _, _, _, children⟩ :: rest => forestNodeCount children + fieldsNodeCount rest

def forestNodeCount : List ClassDef → Nat
  | [] => 0
  | c :: rest => c.nodeCount + forestNodeCount rest

end

mutual

def ClassDef.walk : ClassDef → List ClassDef
  | ⟨name, description, fields⟩ => ⟨name, description, fields⟩ :: fieldsWalk fields

def fieldsWalk : List FieldDef → List ClassDef
  | [] => []
  | ⟨_, _, _, _, _, children⟩ :: rest => forestWalk children ++ fieldsWalk rest

def forestWalk : List ClassDef → List ClassDef
  | [] => []
  | c :: rest => c.walk ++ forestWalk rest

end

mutual

/-- A class, then each of its fields followed by the classes that the field declares. -/
def ClassDef.flatten : ClassDef → List Entry
  | ⟨name, description, fields⟩ => .start ⟨name, description, fields⟩ :: fieldsFlatten fields

def fieldsFlatten : List FieldDef → List Entry
  | [] => []
  | ⟨name, dataType, initialValue, description, invariant, children⟩ :: rest =>
    .member ⟨name, dataType, initialValue, description, invariant, children⟩
      :: (forestFlatten children ++ fieldsFlatten rest)

def forestFlatten : List ClassDef → List Entry
  | [] => []
  | c :: rest => c.flatten ++ forestFlatten rest

end

end ClassTable
