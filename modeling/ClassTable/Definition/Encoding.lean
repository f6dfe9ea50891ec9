import ClassTable.Definition
import ClassTable.Json

set_option autoImplicit false

namespace ClassTable

mutual

def ClassDef.toJson : ClassDef → Json
  | ⟨name, description, fields⟩ =>
    .obj [("name", .str name), ("description", .str description), ("items", .arr (fieldsToJson fields))]

def fieldsToJson : List FieldDef → List Json
  | [] => []
  | f :: rest => f.toJson :: fieldsToJson rest

def FieldDef.toJson : FieldDef → Json
  | ⟨name, dataType, initialValue, description, invariant, children⟩ =>
    .obj ([("variable_name", .str name), ("data_type", .str dataType),
      ("initial_value", .str initialValue), ("description", .str description),
      ("invariant", .bool invariant)] ++ childrenMember children)

def childrenMember : List ClassDef → List (String × Json)
  | [] => []
  | c :: rest => [("children", .arr (c.toJson :: forestToJson rest))]

def forestToJson : List ClassDef → List Json
  | [] => []
  | c :: rest => c.toJson :: forestToJson rest

end

mutual

def ClassDef.ofJson? : Json → Option ClassDef
  | .obj members => do
    let name ← (← members.lookup "name").str?
    let description ← (← members.lookup "description").str?
    let fields ← fieldsMember? members
    pure ⟨name, description, fields⟩
  | _ => none

def fieldsMember? : List (String × Json) → Option (List FieldDef)
  | [] => none
  | (key, value) :: rest => if key = "items" then fieldsOfJson? value else fieldsMember? rest

def fieldsOfJson? : Json → Option (List FieldDef)
  | .arr items => fieldsOfItems? items
  | _ => none

def fieldsOfItems? : List Json → Option (List FieldDef)
  | [] => some []
  | item :: rest => do
    let f ← FieldDef.ofJson? item
    let fs ← fieldsOfItems? rest
    pure (f :: fs)

def FieldDef.ofJson? : Json → Option FieldDef
  | .obj members => do
    let name ← (← members.lookup "variable_name").str?
    let dataType ← (← members.lookup "data_type").str?
    let initialValue ← (← members.lookup "initial_value").str?
    let description ← (← members.lookup "description").str?
    let invariant ← (← members.lookup "invariant").bool?
    let children ← childrenMember? members
    pure ⟨name, dataType, initialValue, description, invariant, children⟩
  | _ => none

/-- The classes under the key `children`, none when it is missing. -/
def childrenMember? : List (String × Json) → Option (List ClassDef)
  | [] => some []
  | (key, value) :: rest => if key = "children" then forestOfJson? value else childrenMember? rest

def forestOfJson? : Json → Option (List ClassDef)
  | .arr items => forestOfItems? items
  | _ => none

def forestOfItems? : List Json → Option (List ClassDef)
  | [] => some []
  | item :: rest => do
    let c ← ClassDef.ofJson? item
    let cs ← forestOfItems? rest
    pure (c :: cs)

end

end ClassTable
