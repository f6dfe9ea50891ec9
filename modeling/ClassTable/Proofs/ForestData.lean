import ClassTable.Command.Tree
import ClassTable.Proofs.JsonText
import ClassTable.Proofs.Keyed

set_option autoImplicit false

namespace ClassTable

section Places

def field? (forest : List ClassDef) (i j : Nat) : Option FieldDef := do
  let c ← forest[i]?
  c.fields[j]?

/-- The field that class and field numbers lead to, a pair for each level. -/
def fieldAt? (forest : List ClassDef) : Nat × Nat → List (Nat × Nat) → Option FieldDef
  | (i, j), [] => field? forest i j
  | (i, j), next :: path => do fieldAt? (← field? forest i j).children next path

namespace Json

def field? (data : Json) (i j : Nat) : Option Json := do
  let c ← (← data.arr?)[i]?
  let fields ← (← c.get? "items").arr?
  fields[j]?

def fieldAt? (data : Json) : Nat × Nat → List (Nat × Nat) → Option Json
  | (i, j), [] => data.field? i j
  | (i, j), next :: path => do fieldAt? (← (← data.field? i j).get? "children") next path

end Json

end Places

section Objects

open Json

theorem ClassDef.inKeyOrder_toJson (name description : String) (fields : List FieldDef) :
    inKeyOrder (ClassDef.toJson ⟨name, description, fields⟩)
      = obj [("description", str description), ("items", arr (itemsInKeyOrder (fieldsToJson fields))),
        ("name", str name)] := by
  simp only [ClassDef.toJson, inKeyOrder, membersInKeyOrder, ofMembers, Keyed.ofList, List.foldl, Keyed.insert,
    String.reduceLT, String.reduceEq, if_true, if_false]

theorem FieldDef.inKeyOrder_toJson (name dataType initialValue description : String) (invariant : Bool)
    (children : List ClassDef) :
    inKeyOrder (FieldDef.toJson ⟨name, dataType, initialValue, description, invariant, children⟩)
      = obj (membersInKeyOrder (childrenMember children)
        ++ [("data_type", str dataType), ("description", str description), ("initial_value", str initialValue),
          ("invariant", bool invariant), ("variable_name", str name)]) := by
  cases children <;>
    simp only [FieldDef.toJson, childrenMember, inKeyOrder, membersInKeyOrder, ofMembers, List.nil_append,
      List.cons_append, Keyed.ofList, List.foldl, Keyed.insert, String.reduceLT, String.reduceEq, if_true, if_false]

theorem itemsInKeyOrder_eq_map (items : List Json) : itemsInKeyOrder items = items.map inKeyOrder := by
  induction items with
  | nil => rfl
  | cons item items ih => rw [itemsInKeyOrder, ih, List.map_cons]

theorem fieldsToJson_eq_map (fields : List FieldDef) : fieldsToJson fields = fields.map FieldDef.toJson := by
  induction fields with
  | nil => rfl
  | cons f fields ih => rw [fieldsToJson, ih, List.map_cons]

theorem forestToJson_eq_map (forest : List ClassDef) : forestToJson forest = forest.map ClassDef.toJson := by
  induction forest with
  | nil => rfl
  | cons c forest ih => rw [forestToJson, ih, List.map_cons]

theorem childrenMember_eq (children : List ClassDef) :
    childrenMember children = if children = [] then [] else [("children", arr (forestToJson children))] := by
  cases children <;> rfl

end Objects

section Decoding

open Json

mutual

theorem fieldsNumberless :
    ∀ fields : List FieldDef, itemsNumberless (fieldsToJson fields) = true
  | [] => rfl
  | ⟨name, dataType, initialValue, description, invariant, children⟩ :: fields => by
    have nested := forestNumberless children
    have rest := fieldsNumberless fields
    have key : membersNumberless (childrenMember children) = true := by
      rw [childrenMember_eq]
      split
      · rfl
      · simp [membersNumberless, numberless, nested]
    simp [fieldsToJson, FieldDef.toJson, itemsNumberless, numberless, membersNumberless, key, rest]

theorem forestNumberless :
    ∀ forest : List ClassDef, itemsNumberless (forestToJson forest) = true
  | [] => rfl
  | ⟨name, description, fields⟩ :: forest => by
    have members := fieldsNumberless fields
    have rest := forestNumberless forest
    simp [forestToJson, ClassDef.toJson, itemsNumberless, numberless, membersNumberless, members, rest]

end

theorem ClassDef.ofJson?_inKeyOrder {name description : String} {fields : List FieldDef}
    (members : fieldsOfItems? (itemsInKeyOrder (fieldsToJson fields)) = some fields) :
    ClassDef.ofJson? (inKeyOrder (ClassDef.toJson ⟨name, description, fields⟩))
      = some ⟨name, description, fields⟩ := by
  rw [ClassDef.inKeyOrder_toJson]
  simp [ClassDef.ofJson?, List.lookup_cons, str?, fieldsMember?, fieldsOfJson?, members]

/-- A field without nested classes has no key for them, and a missing key is read as none. -/
theorem FieldDef.ofJson?_inKeyOrder {name dataType initialValue description : String} {invariant : Bool}
    {children : List ClassDef}
    (nested : forestOfItems? (itemsInKeyOrder (forestToJson children)) = some children) :
    FieldDef.ofJson?
        (inKeyOrder (FieldDef.toJson ⟨name, dataType, initialValue, description, invariant, children⟩))
      = some ⟨name, dataType, initialValue, description, invariant, children⟩ := by
  rw [FieldDef.inKeyOrder_toJson, childrenMember_eq]
  split
  · next leaf => simp [FieldDef.ofJson?, membersInKeyOrder, List.lookup_cons, str?, bool?, childrenMember?, leaf]
  · simp [FieldDef.ofJson?, membersInKeyOrder, List.lookup_cons, str?, bool?, childrenMember?, inKeyOrder, forestOfJson?,
      nested]

mutual

theorem fieldsOfItems?_inKeyOrder :
    ∀ fields : List FieldDef, fieldsOfItems? (itemsInKeyOrder (fieldsToJson fields)) = some fields
  | [] => rfl
  | ⟨name, dataType, initialValue, description, invariant, children⟩ :: fields => by
    have nested := forestOfItems?_inKeyOrder children
    have rest := fieldsOfItems?_inKeyOrder fields
    rw [fieldsToJson, itemsInKeyOrder, fieldsOfItems?, FieldDef.ofJson?_inKeyOrder nested, rest]
    rfl

theorem forestOfItems?_inKeyOrder :
    ∀ forest : List ClassDef, forestOfItems? (itemsInKeyOrder (forestToJson forest)) = some forest
  | [] => rfl
  | ⟨name, description, fields⟩ :: forest => by
    have members := fieldsOfItems?_inKeyOrder fields
    have rest := forestOfItems?_inKeyOrder forest
    rw [forestToJson, itemsInKeyOrder, forestOfItems?, ClassDef.ofJson?_inKeyOrder members, rest]
    rfl

end

theorem forestOfJson?_inKeyOrder (forest : List ClassDef) :
    forestOfJson? (inKeyOrder (arr (forestToJson forest))) = some forest := by
  rw [inKeyOrder, forestOfJson?, forestOfItems?_inKeyOrder]

end Decoding

section Fields

open Json

theorem field?_inKeyOrder (forest : List ClassDef) (i j : Nat) :
    Json.field? (inKeyOrder (arr (forestToJson forest))) i j
      = (ClassTable.field? forest i j).map fun f => inKeyOrder f.toJson := by
  rw [inKeyOrder, itemsInKeyOrder_eq_map, forestToJson_eq_map]
  cases found : forest[i]? with
  | none => simp [Json.field?, ClassTable.field?, arr?, found]
  | some c =>
    cases c with
    | mk name description fields =>
      simp [Json.field?, ClassTable.field?, arr?, found, ClassDef.inKeyOrder_toJson, get?, List.lookup_cons,
        itemsInKeyOrder_eq_map, fieldsToJson_eq_map, Function.comp_def]

theorem get?_children_inKeyOrder (f : FieldDef) :
    (inKeyOrder f.toJson).get? "children"
      = if f.children = [] then none else some (inKeyOrder (arr (forestToJson f.children))) := by
  cases f with
  | mk name dataType initialValue description invariant children =>
    rw [FieldDef.inKeyOrder_toJson, childrenMember_eq]
    split
    · next leaf => simp [membersInKeyOrder, get?, List.lookup_cons]
    · simp [membersInKeyOrder, get?]

theorem fieldAt?_nil (step : Nat × Nat) (path : List (Nat × Nat)) : ClassTable.fieldAt? [] step path = none := by
  cases path <;> rfl

theorem fieldAt?_inKeyOrder (forest : List ClassDef) (step : Nat × Nat) (path : List (Nat × Nat)) :
    Json.fieldAt? (inKeyOrder (arr (forestToJson forest))) step path
      = (ClassTable.fieldAt? forest step path).map fun f => inKeyOrder f.toJson := by
  induction path generalizing forest step with
  | nil => exact field?_inKeyOrder forest step.1 step.2
  | cons next path ih =>
    rw [Json.fieldAt?, ClassTable.fieldAt?, field?_inKeyOrder]
    cases ClassTable.field? forest step.1 step.2 with
    | none => rfl
    | some f =>
      have nested := ih f.children next
      by_cases leaf : f.children = []
      · simp [get?_children_inKeyOrder, leaf, fieldAt?_nil]
      · simp [get?_children_inKeyOrder, leaf, nested]

end Fields

/-- Data that stands for a forest: it decodes to the forest, it has an object for each field and for no more
than these, and the object of a field has the key for nested classes exactly when the field declares some. -/
structure Json.StandsFor (data : Json) (forest : List ClassDef) : Prop where
  decoded : forestOfJson? data = some forest
  fields : ∀ step path f, ClassTable.fieldAt? forest step path = some f →
    ∃ members, data.fieldAt? step path = some (.obj members) ∧
      ("children" ∈ Keyed.keys members ↔ f.children ≠ [])
  others : ∀ step path, ClassTable.fieldAt? forest step path = none → data.fieldAt? step path = none

theorem standsFor_inKeyOrder (forest : List ClassDef) :
    (Json.inKeyOrder (.arr (forestToJson forest))).StandsFor forest where
  decoded := forestOfJson?_inKeyOrder forest
  fields step path f found := by
    have key := get?_children_inKeyOrder f
    have place := fieldAt?_inKeyOrder forest step path
    rw [found] at place
    cases f with
    | mk name dataType initialValue description invariant children =>
      rw [FieldDef.inKeyOrder_toJson] at key
      refine ⟨_, place.trans (congrArg some (FieldDef.inKeyOrder_toJson ..)), ?_⟩
      rw [← Keyed.isSome_get?_iff]
      refine (congrArg (·.isSome = true) key).to_iff.trans ?_
      by_cases leaf : children = [] <;> simp [leaf]
  others step path none := by rw [fieldAt?_inKeyOrder, none]; rfl

/-- What the tree command prints as data, with the line feed at its end, reads to data that stands for the
forest it has loaded, whatever the depth and the texts of the forest. -/
theorem TreeCommand.data_reads_back (input : String) (forest : List ClassDef) :
    ∃ data, Json.read? (TreeCommand.text ⟨input, true⟩ forest ++ "\n").toList = some data ∧
      data.StandsFor forest ∧
      ∀ settings disk, (loadForest settings disk input).result = .ok forest →
        (TreeCommand.run ⟨input, true⟩ settings disk).printed =
          TreeCommand.text ⟨input, true⟩ forest ++ "\n" := by
  refine ⟨_, ?_, standsFor_inKeyOrder forest, fun settings disk loaded => ?_⟩
  · have plain : (Json.arr (forestToJson forest)).numberless = true := forestNumberless forest
    rw [String.toList_append]
    exact Json.read?_pretty plain (by simp [Json.IsBlank, Json.isSpace])
  · simp [TreeCommand.run, loaded]

end ClassTable
