import ClassTable.Proofs.Checking

set_option autoImplicit false

namespace ClassTable

/-- What a field lacks: first of all a name, then a type. -/
inductive FieldDef.Lacks (className : String) (f : FieldDef) : ClassFault → Prop
  | name (blank : Text.isBlankText f.name = true) : Lacks className f (.missingValue className none .fieldName)
  | dataType (named : Text.isBlankText f.name = false) (blank : Text.isBlankText f.dataType = true) :
      Lacks className f (.missingValue className (some f.name) .dataType)

/-- What a class lacks: a name, else a description, else fields, else what its first incomplete field
lacks. -/
inductive ClassDef.Lacks (c : ClassDef) : ClassFault → Prop
  | name (blank : Text.isBlankText c.name = true) : Lacks c (.missingValue c.name none .className)
  | description (named : Text.isBlankText c.name = false) (blank : Text.isBlankText c.description = true) :
      Lacks c (.missingValue c.name none .description)
  | fields (named : Text.isBlankText c.name = false) (described : Text.isBlankText c.description = false)
      (fieldless : c.fields = []) : Lacks c (.noFields c.name)
  | field {before after : List FieldDef} {f : FieldDef} {fault : ClassFault}
      (named : Text.isBlankText c.name = false) (described : Text.isBlankText c.description = false)
      (split : c.fields = before ++ f :: after) (complete : ∀ g ∈ before, ∀ fault, ¬g.Lacks c.name fault)
      (lacks : f.Lacks c.name fault) : Lacks c fault

/-- What is wrong with a class behind others; that it is incomplete comes before that its name is taken. -/
inductive Violates (policy : CollisionPolicy) (before : List ClassDef) (c : ClassDef) : ClassFault → Prop
  | incomplete {fault : ClassFault} (lacks : c.Lacks fault) : Violates policy before c fault
  | repeated (complete : ∀ fault, ¬c.Lacks fault) (refuse : policy = .reject)
      (taken : ∃ b ∈ before, b.name = c.name) : Violates policy before c (.repeated c.name)

def NoViolation (policy : CollisionPolicy) (classes : List ClassDef) : Prop :=
  ∀ before c after, classes = before ++ c :: after → ∀ fault, ¬Violates policy before c fault

/-- The fault of the first class at which something is wrong. -/
def FirstViolation (policy : CollisionPolicy) (classes : List ClassDef) (fault : ClassFault) : Prop :=
  ∃ before c after, classes = before ++ c :: after ∧ NoViolation policy before ∧ Violates policy before c fault

theorem FieldDef.lacks_iff {className : String} {f : FieldDef} {fault : ClassFault} :
    f.Lacks className fault ↔ f.fault? className = some fault := by
  unfold FieldDef.fault?
  constructor
  · rintro (blank | ⟨named, blank⟩)
    · simp [blank]
    · simp [named, blank]
  · intro h
    cases named : Text.isBlankText f.name with
    | true =>
      simp only [named, if_true, Option.some.injEq] at h
      exact h ▸ .name named
    | false =>
      cases typed : Text.isBlankText f.dataType with
      | true =>
        simp only [named, typed, if_true, Bool.false_eq_true, if_false, Option.some.injEq] at h
        exact h ▸ .dataType named typed
      | false => simp [named, typed] at h

theorem ClassDef.lacks_iff {c : ClassDef} {fault : ClassFault} : c.Lacks fault ↔ c.fault? = some fault := by
  unfold ClassDef.fault?
  constructor
  · intro h
    cases h with
    | name blank => simp [blank]
    | description named blank => simp [named, blank]
    | fields named described fieldless => simp [named, described, fieldless]
    | @field before after f fault named described split complete lacks =>
      have first : c.fields.findSome? (FieldDef.fault? c.name) = some fault := by
        refine List.findSome?_eq_some_iff.2 ⟨before, f, after, split, FieldDef.lacks_iff.1 lacks, ?_⟩
        exact fun g hg => Option.eq_none_iff_forall_ne_some.2 fun fault h =>
          complete g hg fault (FieldDef.lacks_iff.2 h)
      have nonempty : c.fields ≠ [] := by simp [split]
      simp [named, described, nonempty, first]
  · intro h
    cases named : Text.isBlankText c.name with
    | true =>
      simp only [named, if_true, Option.some.injEq] at h
      exact h ▸ .name named
    | false =>
      cases described : Text.isBlankText c.description with
      | true =>
        simp only [named, described, if_true, Bool.false_eq_true, if_false, Option.some.injEq] at h
        exact h ▸ .description named described
      | false =>
        simp only [named, described, Bool.false_eq_true, if_false] at h
        by_cases fieldless : c.fields = []
        · simp only [fieldless, List.isEmpty_nil, if_true, Option.some.injEq] at h
          exact h ▸ .fields named described fieldless
        · simp only [List.isEmpty_iff, fieldless, if_false] at h
          obtain ⟨before, f, after, split, lacks, complete⟩ := List.findSome?_eq_some_iff.1 h
          refine .field named described split (fun g hg fault lacks => ?_) (FieldDef.lacks_iff.2 lacks)
          have same := (complete g hg).symm.trans (FieldDef.lacks_iff.1 lacks)
          cases same

section Checks

variable {policy : CollisionPolicy} {before classes rest xs : List ClassDef} {c : ClassDef}
  {seen : List String} {fault fault' : ClassFault}

theorem Violates.unique (h : Violates policy before c fault) (h' : Violates policy before c fault') :
    fault = fault' := by
  cases h with
  | incomplete lacks =>
    cases h' with
    | incomplete lacks' =>
      exact Option.some.inj ((ClassDef.lacks_iff.1 lacks).symm.trans (ClassDef.lacks_iff.1 lacks'))
    | repeated complete => exact absurd lacks (complete fault)
  | repeated complete =>
    cases h' with
    | incomplete lacks' => exact absurd lacks' (complete fault')
    | repeated => rfl

theorem noViolation_concat :
    NoViolation policy (xs ++ [c]) ↔ NoViolation policy xs ∧ ∀ fault, ¬Violates policy xs c fault := by
  constructor
  · intro h
    refine ⟨fun before d after split => ?_, h xs c [] rfl⟩
    exact h before d (after ++ [c]) (by simp [split])
  · rintro ⟨inner, last⟩ before d after split
    rcases List.eq_nil_or_concat after with rfl | ⟨after, e, rfl⟩
    · obtain ⟨rfl, same⟩ := List.append_inj' split rfl
      obtain rfl : c = d := by simpa using same
      exact last
    · have split : xs ++ [c] = (before ++ d :: after) ++ [e] := by simpa using split
      exact inner before d after (List.append_inj' split rfl).1

theorem FirstViolation.unique (h : FirstViolation policy classes fault)
    (h' : FirstViolation policy classes fault') : fault = fault' := by
  obtain ⟨before, c, after, rfl, sound, bad⟩ := h
  obtain ⟨before', c', after', split, sound', bad'⟩ := h'
  -- Of two places the one further on has the other among the classes before it.
  rcases List.append_eq_append_iff.1 split with ⟨between, rfl, tail⟩ | ⟨between, rfl, tail⟩
  · cases between with
    | nil =>
      obtain ⟨rfl, -⟩ := List.cons.inj tail
      rw [List.append_nil] at bad'
      exact bad.unique bad'
    | cons d between =>
      obtain ⟨rfl, -⟩ := List.cons.inj tail
      exact absurd bad (sound' before c between rfl fault)
  · cases between with
    | nil =>
      obtain ⟨rfl, -⟩ := List.cons.inj tail
      rw [List.append_nil] at bad
      exact bad.unique bad'
    | cons d between =>
      obtain ⟨rfl, -⟩ := List.cons.inj tail
      exact absurd bad' (sound before' c' between rfl fault')

theorem FirstViolation.not_noViolation (h : FirstViolation policy classes fault) :
    ¬NoViolation policy classes := by
  obtain ⟨before, c, after, split, -, bad⟩ := h
  exact fun sound => sound before c after split fault bad

theorem checkClasses_of_violates (known : ∀ name, name ∈ seen ↔ ∃ b ∈ before, b.name = name)
    (bad : Violates policy before c fault) :
    (checkClasses policy seen (c :: rest)).result = .error fault := by
  cases bad with
  | incomplete lacks => simp [checkClasses, ClassDef.lacks_iff.1 lacks]
  | repeated complete refuse taken =>
    have complete : c.fault? = none := Option.eq_none_iff_forall_ne_some.2 fun fault h =>
      complete fault (ClassDef.lacks_iff.2 h)
    simp [checkClasses, complete, refuse, (known c.name).2 taken, Except.bind]

theorem checkClasses_of_sound (known : ∀ name, name ∈ seen ↔ ∃ b ∈ before, b.name = name)
    (sound : ∀ fault, ¬Violates policy before c fault) :
    (checkClasses policy seen (c :: rest)).result = (checkClasses policy (c.name :: seen) rest).result := by
  have lacksNone : ∀ fault, ¬c.Lacks fault := fun fault lacks => sound fault (.incomplete lacks)
  have complete : c.fault? = none := Option.eq_none_iff_forall_ne_some.2 fun fault h =>
    lacksNone fault (ClassDef.lacks_iff.2 h)
  have free : ¬(policy = .reject ∧ c.name ∈ seen) := fun ⟨refuse, taken⟩ =>
    sound _ (.repeated lacksNone refuse ((known c.name).1 taken))
  simp [checkClasses, complete, free, Except.bind]

theorem checkClasses_outcome (known : ∀ name, name ∈ seen ↔ ∃ b ∈ before, b.name = name)
    (sound : NoViolation policy before) :
    match (checkClasses policy seen classes).result with
    | .ok () => NoViolation policy (before ++ classes)
    | .error fault => FirstViolation policy (before ++ classes) fault := by
  -- The classes already checked are sound, and `seen` holds exactly their names.
  induction classes generalizing seen before with
  | nil => simpa [checkClasses] using sound
  | cons c rest ih =>
    by_cases bad : ∃ fault, Violates policy before c fault
    · obtain ⟨fault, bad⟩ := bad
      rw [checkClasses_of_violates known bad]
      exact ⟨before, c, rest, rfl, sound, bad⟩
    · have good : ∀ fault, ¬Violates policy before c fault := fun fault h => bad ⟨fault, h⟩
      have known' : ∀ name, name ∈ c.name :: seen ↔ ∃ b ∈ before ++ [c], b.name = name := fun name => by
        simp only [List.mem_cons, known, List.mem_append, List.not_mem_nil, or_false, or_and_right, exists_or,
          exists_eq_left]
        rw [or_comm, eq_comm]
      rw [checkClasses_of_sound known good, List.append_cons]
      exact ih known' (noViolation_concat.2 ⟨sound, good⟩)

theorem checkForest_outcome (policy : CollisionPolicy) (forest : List ClassDef) :
    match (checkForest policy forest).result with
    | .ok () => NoViolation policy (forestWalk forest)
    | .error fault => FirstViolation policy (forestWalk forest) fault := by
  have known : ∀ name, name ∈ ([] : List String) ↔ ∃ b ∈ ([] : List ClassDef), b.name = name := by simp
  have sound : NoViolation policy [] := fun before c after split => by simp at split
  exact checkClasses_outcome known sound

theorem checkForest_error_iff {forest : List ClassDef} :
    (checkForest policy forest).result = .error fault ↔ FirstViolation policy (forestWalk forest) fault := by
  have outcome := checkForest_outcome policy forest
  cases check : (checkForest policy forest).result with
  | ok _ =>
    rw [check] at outcome
    exact ⟨fun h => (nomatch h), fun first => absurd outcome first.not_noViolation⟩
  | error fault' =>
    rw [check] at outcome
    constructor
    · intro same
      cases same
      exact outcome
    · exact fun first => congrArg Except.error (outcome.unique first)

theorem checkForest_ok_iff {forest : List ClassDef} :
    (checkForest policy forest).result = .ok () ↔ NoViolation policy (forestWalk forest) := by
  have outcome := checkForest_outcome policy forest
  cases check : (checkForest policy forest).result with
  | ok _ =>
    rw [check] at outcome
    exact ⟨fun _ => outcome, fun _ => rfl⟩
  | error fault' =>
    rw [check] at outcome
    exact ⟨fun h => (nomatch h), fun sound => absurd sound outcome.not_noViolation⟩

end Checks

/-- With the built-in templates a rendering gives sources when nothing is wrong with any class, and else fails
with what is wrong with the first such class.  That fault does not wait for a template: with every library
the run ends where the check does. -/
theorem render_outcome (p : Project) (policy : CollisionPolicy) (forest : List ClassDef) :
    ((∃ sources, ((⟨p, .builtin, policy⟩ : Renderer).render forest).result = .ok sources) ↔
      NoViolation policy (forestWalk forest)) ∧
    (∀ fault, ((⟨p, .builtin, policy⟩ : Renderer).render forest).result = .error fault ↔
      ∃ violation, fault = .definition violation ∧
        FirstViolation policy (forestWalk forest) violation) ∧
    ∀ library violation, FirstViolation policy (forestWalk forest) violation →
      (⟨p, library, policy⟩ : Renderer).render forest =
        ⟨(checkForest policy forest).events, .error (.definition violation)⟩ := by
  refine ⟨?_, fun fault => ?_, fun library violation first => ?_⟩
  · rw [render_builtin, ← checkForest_ok_iff]
    cases (checkForest policy forest).result <;> simp
  · rw [render_builtin]
    simp only [← checkForest_error_iff]
    cases (checkForest policy forest).result with
    | ok _ => simp
    | error violation => simp [eq_comm]
  · have check := checkForest_error_iff.2 first
    unfold Renderer.render
    exact Logged.bind_of_error (by rw [Logged.result_mapError, check]; rfl)

end ClassTable
