import ClassTable.Proofs.ClassText
import ClassTable.Proofs.Keyed

set_option autoImplicit false

namespace ClassTable

theorem FieldDef.fault?_eq_none_iff {className : String} {f : FieldDef} :
    f.fault? className = none ↔
      Text.isBlankText f.name = false ∧ Text.isBlankText f.dataType = false := by
  unfold FieldDef.fault?
  cases hn : Text.isBlankText f.name <;> cases ht : Text.isBlankText f.dataType <;> simp

theorem ClassDef.fault?_eq_none_iff {c : ClassDef} :
    c.fault? = none ↔
      (Text.isBlankText c.name = false ∧ Text.isBlankText c.description = false) ∧ c.fields ≠ [] ∧
        ∀ f ∈ c.fields, Text.isBlankText f.name = false ∧ Text.isBlankText f.dataType = false := by
  unfold ClassDef.fault?
  cases Text.isBlankText c.name with
  | true => simp
  | false =>
    cases Text.isBlankText c.description with
    | true => simp
    | false =>
      have fields : c.fields.findSome? (FieldDef.fault? c.name) = none ↔
          ∀ f ∈ c.fields, Text.isBlankText f.name = false ∧ Text.isBlankText f.dataType = false := by
        simp only [List.findSome?_eq_none_iff, FieldDef.fault?_eq_none_iff]
      by_cases empty : c.fields = []
      · simp [empty]
      · simp [empty, fields]

/-- Classes pass the check when they are complete and, unless repeated names are allowed, their names differ
from each other and from those seen before. -/
theorem checkClasses_ok_iff {policy : CollisionPolicy} {seen : List String} {classes : List ClassDef} :
    (checkClasses policy seen classes).result = .ok () ↔
      (∀ c ∈ classes, c.fault? = none) ∧
        (policy = .reject → (classes.map ClassDef.name).Nodup ∧ ∀ c ∈ classes, c.name ∉ seen) := by
  induction classes generalizing seen with
  | nil => simp [checkClasses]
  | cons c classes ih =>
    cases fault : c.fault? with
    | some f => simp [checkClasses, fault]
    | none =>
      by_cases taken : policy = .reject ∧ c.name ∈ seen
      · obtain ⟨rfl, known⟩ := taken
        simp [checkClasses, fault, known, Except.bind]
      · have rest : (checkClasses policy seen (c :: classes)).result =
            (checkClasses policy (c.name :: seen) classes).result := by
          simp [checkClasses, fault, taken, Except.bind]
        rw [rest, ih, List.forall_mem_cons, List.forall_mem_cons, List.map_cons, List.nodup_cons]
        constructor
        · rintro ⟨complete, distinct⟩
          refine ⟨⟨fault, complete⟩, fun refuse => ?_⟩
          obtain ⟨distinct, fresh⟩ := distinct refuse
          refine ⟨⟨?_, distinct⟩, fun known => taken ⟨refuse, known⟩, ?_⟩
          · intro mem
            obtain ⟨c', hc', same⟩ := List.mem_map.1 mem
            exact fresh c' hc' (same ▸ List.mem_cons_self ..)
          · exact fun c' hc' mem => fresh c' hc' (List.mem_cons_of_mem c.name mem)
        · rintro ⟨⟨-, complete⟩, distinct⟩
          refine ⟨complete, fun refuse => ?_⟩
          obtain ⟨⟨new, distinct⟩, -, fresh⟩ := distinct refuse
          refine ⟨distinct, fun c' hc' mem => ?_⟩
          rcases List.mem_cons.1 mem with same | mem
          · exact new (same ▸ List.mem_map_of_mem hc')
          · exact fresh c' hc' mem

theorem events_checkClasses {policy : CollisionPolicy} {seen : List String} {classes : List ClassDef}
    (passed : (checkClasses policy seen classes).result = .ok ()) :
    (checkClasses policy seen classes).events = classes.flatMap ClassDef.styleEvents := by
  induction classes generalizing seen with
  | nil => rfl
  | cons c classes ih =>
    obtain ⟨complete, -⟩ := checkClasses_ok_iff.1 passed
    simp only [checkClasses, complete c (List.mem_cons_self ..)] at passed ⊢
    rw [Logged.events_bind_of_ok (Logged.result_tell _)]
    obtain ⟨-, -, passed⟩ := Logged.result_bind_eq_ok.1 passed
    split at passed
    · cases passed
    · next free =>
      rw [if_neg free, ih passed]
      rfl

theorem checkClasses_reject_iff {seen : List String} {classes : List ClassDef} :
    (checkClasses .reject seen classes).result = .ok () ↔
      (∀ c ∈ classes, c.fault? = none) ∧ (classes.map ClassDef.name).Nodup ∧
        ∀ c ∈ classes, c.name ∉ seen := by
  simp [checkClasses_ok_iff]

def addTexts (p : Project) (sources : Sources) (classes : List ClassDef) : Sources :=
  classes.foldl (fun sources c => Keyed.insert c.name (classText p c) sources) sources

theorem keys_addTexts {p : Project} {sources : Sources} {classes : List ClassDef}
    (distinct : (classes.map ClassDef.name).Nodup) (fresh : ∀ c ∈ classes, c.name ∉ Keyed.keys sources) :
    (addTexts p sources classes).keys.Perm (classes.map ClassDef.name ++ Keyed.keys sources) := by
  induction classes generalizing sources with
  | nil => exact .refl _
  | cons c classes ih =>
    have added := Keyed.keys_insert_perm (v := classText p c) (fresh c (List.mem_cons_self ..))
    rw [List.map_cons, List.nodup_cons] at distinct
    obtain ⟨new, distinct⟩ := distinct
    have fresh' : ∀ c' ∈ classes, c'.name ∉ Keyed.keys (Keyed.insert c.name (classText p c) sources) := by
      intro c' hc' mem
      rcases List.mem_cons.1 (added.mem_iff.1 mem) with same | mem
      · exact new (same ▸ List.mem_map_of_mem hc')
      · exact fresh c' (List.mem_cons_of_mem c hc') mem
    calc
      (addTexts p (Keyed.insert c.name (classText p c) sources) classes).keys.Perm
          (classes.map ClassDef.name ++ Keyed.keys (Keyed.insert c.name (classText p c) sources)) :=
        ih distinct fresh'
      List.Perm _ (classes.map ClassDef.name ++ c.name :: Keyed.keys sources) := added.append_left _
      List.Perm _ (c.name :: (classes.map ClassDef.name ++ Keyed.keys sources)) := List.perm_middle

theorem renderClasses_of_complete {p : Project} {policy : CollisionPolicy} {sources : Sources}
    {classes : List ClassDef} (complete : ∀ c ∈ classes, c.fault? = none) :
    ((⟨p, .builtin, policy⟩ : Renderer).renderClasses sources classes).result =
      .ok (addTexts p sources classes) := by
  induction classes generalizing sources with
  | nil => rfl
  | cons c classes ih =>
    obtain ⟨here, rest⟩ := List.forall_mem_cons.1 complete
    have text : (⟨p, .builtin, policy⟩ : Renderer).renderClass c = .ok (classText p c) :=
      renderClass_of_complete p here
    simp only [Renderer.renderClasses, Logged.result_bind, Logged.result_ofExcept, Logged.result_tell, text]
    exact ih rest

/-- With the built-in templates all classes of a forest that passes the check are written, and no template
fails. -/
theorem render_builtin (p : Project) (policy : CollisionPolicy) (forest : List ClassDef) :
    ((⟨p, .builtin, policy⟩ : Renderer).render forest).result =
      match (checkForest policy forest).result with
      | .error fault => .error (.definition fault)
      | .ok () => .ok (addTexts p [] (forestWalk forest)) := by
  unfold Renderer.render
  rw [Logged.result_bind, Logged.result_mapError]
  change ((checkForest policy forest).result.mapError Fault.definition).bind _ = _
  cases check : (checkForest policy forest).result with
  | error fault => rfl
  | ok _ => exact renderClasses_of_complete (checkClasses_ok_iff.1 check).1

theorem render_standard (p : Project) (forest : List ClassDef) :
    ((Renderer.standard p).render forest).result =
      match (checkForest .reject forest).result with
      | .error fault => .error (.definition fault)
      | .ok () => .ok (addTexts p [] (forestWalk forest)) := render_builtin p .reject forest

end ClassTable
