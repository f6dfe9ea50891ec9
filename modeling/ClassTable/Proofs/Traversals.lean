import ClassTable.Definition

set_option autoImplicit false

namespace ClassTable

def Entry.class? : Entry → Option ClassDef
  | start c => some c
  | member _ => none

def Entry.field? : Entry → Option FieldDef
  | start _ => none
  | member f => some f

@[simp] theorem Entry.class?_start (c : ClassDef) : (start c).class? = some c := rfl

@[simp] theorem Entry.class?_member (f : FieldDef) : (member f).class? = none := rfl

@[simp] theorem Entry.field?_start (c : ClassDef) : (start c).field? = none := rfl

@[simp] theorem Entry.field?_member (f : FieldDef) : (member f).field? = some f := rfl

@[simp] theorem fieldsFlatten_cons (f : FieldDef) (rest : List FieldDef) :
    fieldsFlatten (f :: rest) = .member f :: (forestFlatten f.children ++ fieldsFlatten rest) := by
  cases f
  rfl

@[simp] theorem forestFlatten_cons (c : ClassDef) (rest : List ClassDef) :
    forestFlatten (c :: rest) = .start c :: (fieldsFlatten c.fields ++ forestFlatten rest) := by
  cases c
  rfl

theorem forestFlatten_eq_flatMap (forest : List ClassDef) :
    forestFlatten forest = forest.flatMap ClassDef.flatten := by
  induction forest with
  | nil => rfl
  | cons c forest ih => rw [forestFlatten, ih, List.flatMap_cons]

theorem forestWalk_eq_flatMap (forest : List ClassDef) : forestWalk forest = forest.flatMap ClassDef.walk := by
  induction forest with
  | nil => rfl
  | cons c forest ih => rw [forestWalk, ih, List.flatMap_cons]

theorem forestWalk_append (xs ys : List ClassDef) : forestWalk (xs ++ ys) = forestWalk xs ++ forestWalk ys := by
  simp only [forestWalk_eq_flatMap, List.flatMap_append]

mutual

theorem ClassDef.length_walk : ∀ c : ClassDef, c.walk.length = c.nodeCount
  | ⟨name, description, fields⟩ => by
    rw [ClassDef.walk, ClassDef.nodeCount, List.length_cons, length_fieldsWalk fields, Nat.add_comm]

theorem length_fieldsWalk : ∀ fields : List FieldDef, (fieldsWalk fields).length = fieldsNodeCount fields
  | [] => rfl
  | ⟨name, dataType, initialValue, description, invariant, children⟩ :: fields => by
    rw [fieldsWalk, fieldsNodeCount, List.length_append, length_forestWalk children, length_fieldsWalk fields]

theorem length_forestWalk : ∀ forest : List ClassDef, (forestWalk forest).length = forestNodeCount forest
  | [] => rfl
  | c :: forest => by
    rw [forestWalk, forestNodeCount, List.length_append, c.length_walk, length_forestWalk forest]

end

mutual

theorem filterMap_class?_fieldsFlatten :
    ∀ fields : List FieldDef, (fieldsFlatten fields).filterMap Entry.class? = fieldsWalk fields
  | [] => rfl
  | ⟨name, dataType, initialValue, description, invariant, children⟩ :: fields => by
    rw [fieldsFlatten_cons, List.filterMap_cons_none (Entry.class?_member _), List.filterMap_append,
      filterMap_class?_forestFlatten children, filterMap_class?_fieldsFlatten fields, fieldsWalk]

theorem filterMap_class?_forestFlatten :
    ∀ forest : List ClassDef, (forestFlatten forest).filterMap Entry.class? = forestWalk forest
  | [] => rfl
  | ⟨name, description, fields⟩ :: forest => by
    rw [forestFlatten_cons, List.filterMap_cons_some (Entry.class?_start _), List.filterMap_append,
      filterMap_class?_fieldsFlatten fields, filterMap_class?_forestFlatten forest, forestWalk, ClassDef.walk,
      List.cons_append]

end

mutual

theorem filterMap_field?_fieldsFlatten :
    ∀ fields : List FieldDef,
      ((fieldsFlatten fields).filterMap Entry.field?).Perm
        (fields ++ (fieldsWalk fields).flatMap ClassDef.fields)
  | [] => .nil
  | ⟨name, dataType, initialValue, description, invariant, children⟩ :: fields => by
    have nested := filterMap_field?_forestFlatten children
    have rest := filterMap_field?_fieldsFlatten fields
    rw [fieldsFlatten_cons, List.filterMap_cons_some (Entry.field?_member _), List.filterMap_append, fieldsWalk,
      List.flatMap_append, List.cons_append]
    -- The nested tables follow their field, and are moved behind the fields of the class itself.
    exact ((nested.append rest).trans (List.perm_append_comm_assoc ..)).cons _

theorem filterMap_field?_forestFlatten :
    ∀ forest : List ClassDef,
      ((forestFlatten forest).filterMap Entry.field?).Perm ((forestWalk forest).flatMap ClassDef.fields)
  | [] => .nil
  | ⟨name, description, fields⟩ :: forest => by
    have members := filterMap_field?_fieldsFlatten fields
    have rest := filterMap_field?_forestFlatten forest
    rw [forestFlatten_cons, List.filterMap_cons_none (Entry.field?_start _), List.filterMap_append, forestWalk,
      ClassDef.walk, List.flatMap_append, List.flatMap_cons]
    exact members.append rest

end

end ClassTable
