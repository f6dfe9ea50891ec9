import ClassTable.Proofs.LevelExtent

/-!
The levels that a build reaches, and what its arithmetic does there.  `Loop` follows the loop of a level
forward, with the forest so far and the rows that are left, and `Reached` its nested tables and theirs.  The
bound of `nestedBase` is never met, for an odd base layer the layers alone decide what a row is, each nested
table has classes and goes to a field that has none yet, and a base layer that is even has no level but the
outermost and no class (`buildForest_arithmetic`).
-/

set_option autoImplicit false

namespace ClassTable

/-- The forest of a level so far, opened at its last class and the last field of that. -/
inductive OpenForest where
  | nothing
  | ofClass (before : List ClassDef) (name description : String)
  | ofField (before : List ClassDef) (name description : String) (fields : List FieldDef) (last : FieldDef)

namespace OpenForest

def forest : OpenForest → List ClassDef
  | nothing => []
  | ofClass before name description => before ++ [⟨name, description, []⟩]
  | ofField before name description fields last => before ++ [⟨name, description, fields ++ [last]⟩]

def owner : OpenForest → Owner
  | nothing => .nothing
  | ofClass .. => .ofClass
  | ofField _ _ _ _ last => .ofField last.name

def addClass (name description : String) (o : OpenForest) : OpenForest := ofClass o.forest name description

def addField (f : FieldDef) : OpenForest → OpenForest
  | nothing => nothing
  | ofClass before name description => ofField before name description [] f
  | ofField before name description fields last => ofField before name description (fields ++ [last]) f

def addChildren (classes : List ClassDef) : OpenForest → OpenForest
  | ofField before name description fields last =>
    ofField before name description fields { last with children := last.children ++ classes }
  | o => o

def children : OpenForest → List ClassDef
  | ofField _ _ _ _ last => last.children
  | _ => []

/-- The forest that comes out when a level goes on from here as `level` says. -/
def completed (level : Level) : OpenForest → List ClassDef
  | nothing => level.classes
  | ofClass before name description => before ++ ⟨name, description, level.fields⟩ :: level.classes
  | ofField before name description fields last =>
    before ++ ⟨name, description, fields ++ { last with children := last.children ++ level.children } ::
      level.fields⟩ :: level.classes

end OpenForest

def Row.toField (row : Row) (invariant : Bool) : FieldDef :=
  ⟨row.name, row.dataType, row.initialValue, row.description, invariant, []⟩

/-- The rounds of the loop of a level that starts at `first`: its forest so far, and the rows that are left. -/
inductive Loop (base : Nat) (first : List Row) : OpenForest → List Row → Prop
  | enter : Loop base first .nothing first
  | skip {o : OpenForest} {row : Row} {rest : List Row} (before : Loop base first o (row :: rest))
      (step : row.step base o.owner = .skip) : Loop base first o rest
  | start {o : OpenForest} {row : Row} {rest : List Row} {layer : Nat} (before : Loop base first o (row :: rest))
      (step : row.step base o.owner = .start layer) : Loop base first (o.addClass row.name row.description) rest
  | nest {o : OpenForest} {row : Row} {rest : List Row} {name : String} {classes : List ClassDef}
      {consumed : Nat} (before : Loop base first o (row :: rest)) (step : row.step base o.owner = .nest name)
      (call : (buildLevel (nestedBase base) (row :: rest)).result = .ok (classes, consumed)) :
      Loop base first (o.addChildren classes) ((row :: rest).drop consumed)
  | member {o : OpenForest} {row : Row} {rest : List Row} {invariant : Bool}
      (before : Loop base first o (row :: rest)) (step : row.step base o.owner = .member invariant) :
      Loop base first (o.addField (row.toField invariant)) rest

/-- The levels of a build, each with the number of calls that lead to it, its base layer and its rows. -/
inductive Reached (base : Nat) (rows : List Row) : Nat → Nat → List Row → Prop
  | outermost : Reached base rows 0 base rows
  | nested {depth b : Nat} {first rest : List Row} {o : OpenForest} {row : Row} {name : String}
      (level : Reached base rows depth b first) (loop : Loop b first o (row :: rest))
      (step : row.step b o.owner = .nest name) : Reached base rows (depth + 1) (nestedBase b) (row :: rest)

section Completed

variable {level inner : Level} {o : OpenForest} {row : Row}

theorem completed_done (o : OpenForest) : o.completed .done = o.forest := by
  cases o with
  | nothing | ofClass => rfl
  | ofField _ _ _ _ last =>
    cases last
    simp [OpenForest.completed, OpenForest.forest, Level.done]

theorem completed_startClass (o : OpenForest) :
    o.completed (level.startClass row) = (o.addClass row.name row.description).completed level := by
  cases o with
  | nothing | ofClass => simp [OpenForest.completed, OpenForest.addClass, OpenForest.forest, Level.startClass]
  | ofField _ _ _ _ last =>
    cases last
    simp [OpenForest.completed, OpenForest.addClass, OpenForest.forest, Level.startClass]

theorem completed_nest {base : Nat} {name : String} (step : row.step base o.owner = .nest name) :
    o.completed (inner.nest level) = (o.addChildren inner.classes).completed level := by
  cases o with
  | nothing | ofClass =>
    cases Row.steps_of_step step with
    | nested _ _ _ open_ => simp [OpenForest.owner] at open_
  | ofField => simp [OpenForest.completed, OpenForest.addChildren, Level.nest]

theorem completed_startField {invariant : Bool} (some_ : o.owner ≠ .nothing) :
    o.completed (level.startField row invariant) = (o.addField (row.toField invariant)).completed level := by
  cases o with
  | nothing => exact absurd rfl some_
  | ofClass => simp [OpenForest.completed, OpenForest.addField, Row.toField, Level.startField]
  | ofField _ _ _ _ last =>
    cases last
    simp [OpenForest.completed, OpenForest.addField, Row.toField, Level.startField]

end Completed

section Loops

variable {base n depth b : Nat} {owner : Owner} {first rows rest : List Row} {row : Row} {o : OpenForest}
  {events : List Event} {level : Level} {name : String} {classes : List ClassDef} {consumed : Nat}

theorem owner_addChildren (classes : List ClassDef) (o : OpenForest) : (o.addChildren classes).owner = o.owner := by
  cases o <;> rfl

theorem owner_addField {f : FieldDef} (some_ : o.owner ≠ .nothing) : (o.addField f).owner = .ofField f.name := by
  cases o with
  | nothing => exact absurd rfl some_
  | ofClass | ofField => rfl

theorem children_addField (row : Row) (invariant : Bool) (o : OpenForest) :
    (o.addField (row.toField invariant)).children = [] := by
  cases o <;> rfl

theorem eq_nothing_of_owner (h : o.owner = .nothing) : o = .nothing := by
  cases o with
  | nothing => rfl
  | ofClass | ofField => cases h

/-- The loop of a level builds what the level returns, and ends behind the rows that it takes. -/
theorem LevelRun.loop (run : LevelRun base owner rows events level n) (here : Loop base first o rows)
    (same : o.owner = owner) :
    ∃ o', Loop base first o' (rows.drop level.consumed) ∧ o'.forest = o.completed level := by
  induction run generalizing o with
  | nil | finish => exact ⟨o, here, (completed_done o).symm⟩
  | skip step _ ih =>
    subst same
    exact ih (.skip here step) rfl
  | start step _ ih =>
    subst same
    obtain ⟨o', loop, built⟩ := ih (.start here step) rfl
    exact ⟨o', loop, built.trans (completed_startClass o).symm⟩
  | @nest base _ _ _ row rest _ _ _ inner _ step call _ _ ih =>
    subst same
    have returned : (buildLevel (nestedBase base) (row :: rest)).result = .ok (inner.classes, inner.consumed) := by
      rw [call.buildLevel_eq]
    obtain ⟨o', loop, built⟩ := ih (.nest here step returned) (owner_addChildren inner.classes o)
    rw [List.drop_drop] at loop
    exact ⟨o', loop, built.trans (completed_nest step).symm⟩
  | member step _ ih =>
    subst same
    have some_ := Row.owner_of_member step
    obtain ⟨o', loop, built⟩ := ih (.member here step) (owner_addField some_)
    exact ⟨o', loop, built.trans (completed_startField some_).symm⟩

theorem exists_loop_of_buildLevel (built : (buildLevel base rows).result = .ok (classes, consumed)) :
    ∃ o, Loop base rows o (rows.drop consumed) ∧ o.forest = classes := by
  obtain ⟨events, level, n, run, rfl, rfl⟩ := exists_run_of_buildLevel built
  exact run.loop .enter rfl

theorem Loop.odd (loop : Loop base first o rest) (some_ : o.owner ≠ .nothing) : base % 2 = 1 := by
  induction loop with
  | enter => exact absurd rfl some_
  | skip _ _ ih => exact ih some_
  | start _ step =>
    cases Row.steps_of_step step with
    | ofClass _ _ start even => omega
  | nest _ _ _ ih =>
    rw [owner_addChildren] at some_
    exact ih some_
  | member _ step ih => exact ih (Row.owner_of_member step)

theorem Loop.children_or_ended (loop : Loop base first o rest) : o.children = [] ∨ Ended (base + 2) rest := by
  induction loop with
  | enter | start => exact .inl rfl
  | skip _ step ih =>
    refine ih.imp_right fun ended => ?_
    obtain ⟨live, -⟩ := Row.ends_iff.1 (ended _ rfl)
    cases Row.steps_of_step step with
    | deleted flag => cases live.symm.trans flag
  | nest _ _ call =>
    obtain ⟨events, level, n, run, -, rfl⟩ := exists_run_of_buildLevel call
    exact .inr (run.ended_drop.mono (Nat.min_le_left _ _))
  | @member o row _ invariant _ _ => exact .inl (children_addField row invariant o)

theorem Loop.children_of_nest (loop : Loop base first o (row :: rest)) (step : row.step base o.owner = .nest name) :
    o.children = [] := by
  refine loop.children_or_ended.resolve_right fun ended => ?_
  obtain ⟨-, low, parse, below⟩ := Row.ends_iff.1 (ended _ rfl)
  cases Row.steps_of_step step with
  | nested _ parse' above =>
    obtain rfl := Except.ok.inj (parse.symm.trans parse')
    omega

theorem Loop.odd_of_nest (loop : Loop base first o (row :: rest)) (step : row.step base o.owner = .nest name) :
    base % 2 = 1 := loop.odd (Row.owner_of_nest step)

/-- The largest layer is odd as the base layer is, and a row above the base layer leaves room for two. -/
theorem Loop.base_of_nest (loop : Loop base first o (row :: rest)) (step : row.step base o.owner = .nest name) :
    nestedBase base = base + 2 ∧ base + 2 ≤ maxLayer := by
  have odd := loop.odd_of_nest step
  cases Row.steps_of_step step with
  | nested _ parse above =>
    have le := Row.layer_le parse
    refine ⟨nestedBase_eq odd above le, ?_⟩
    unfold maxLayer at *
    omega

theorem classes_of_nest (step : row.step base owner = .nest name)
    (call : (buildLevel (nestedBase base) (row :: rest)).result = .ok (classes, consumed)) : classes ≠ [] := by
  obtain ⟨events, level, n, run, rfl, -⟩ := exists_run_of_buildLevel call
  exact run.classes_ne_nil step

theorem Reached.base_eq (level : Reached base rows depth b first) : b = base + 2 * depth := by
  induction level with
  | outermost => rfl
  | nested _ loop step ih =>
    rw [(loop.base_of_nest step).1, ih]
    omega

theorem Loop.eq_nothing (even : base % 2 = 0) (loop : Loop base first o rest) : o = .nothing := by
  apply eq_nothing_of_owner
  by_contra some_
  have odd := loop.odd some_
  omega

end Loops

section Even

variable {base n : Nat} {owner : Owner} {rows : List Row} {events : List Event} {level : Level} {f : RowFault}

theorem LevelRun.of_even (run : LevelRun base owner rows events level n) (even : base % 2 = 0)
    (none : owner = .nothing) :
    level.classes = [] ∧ ∀ r ∈ levelRows base rows, r.isDeleted = .ok true := by
  induction run with
  | nil => exact ⟨rfl, nofun⟩
  | finish step =>
    rw [levelRows_cons_of_ends (Row.ends_of_finish step)]
    exact ⟨rfl, nofun⟩
  | skip step _ ih =>
    obtain ⟨empty, deleted⟩ := ih even none
    rw [levelRows_of_step step (by simp)]
    cases Row.steps_of_step step with
    | deleted flag => exact ⟨empty, List.forall_mem_cons.2 ⟨flag, deleted⟩⟩
  | start step =>
    cases Row.steps_of_step step with
    | ofClass _ _ start even' => omega
  | nest step => exact absurd none (Row.owner_of_nest step)
  | member step => exact absurd none (Row.owner_of_member step)

theorem FailedRun.of_even (run : FailedRun base owner rows events f n) (even : base % 2 = 0)
    (none : owner = .nothing) : ∃ r ∈ levelRows base rows, r.isDeleted ≠ .ok true := by
  induction run with
  | fault step =>
    rw [levelRows_of_step step (by simp)]
    refine ⟨_, List.mem_cons_self, fun deleted => ?_⟩
    simp [Row.step, deleted] at step
  | skip step _ ih =>
    obtain ⟨r, mem, notDeleted⟩ := ih even none
    rw [levelRows_of_step step (by simp)]
    exact ⟨r, List.mem_cons_of_mem _ mem, notDeleted⟩
  | start step =>
    cases Row.steps_of_step step with
    | ofClass _ _ start even' => omega
  | call step | nest step => exact absurd none (Row.owner_of_nest step)
  | member step => exact absurd none (Row.owner_of_member step)

/-- With an even base layer a build returns no class, and fails at the first live row. -/
theorem buildForest_of_even (even : base % 2 = 0) (rows : List Row) :
    if ∀ r ∈ levelRows base rows, r.isDeleted = .ok true then (buildForest base rows).result = .ok []
    else ∃ fault, (buildForest base rows).result = .error fault := by
  obtain ⟨events, level, n, run⟩ | ⟨events, f, n, run⟩ := exists_run base .nothing rows
  · obtain ⟨empty, deleted⟩ := run.of_even even rfl
    rw [if_pos deleted, run.buildForest_eq, empty]
  · obtain ⟨r, mem, notDeleted⟩ := run.of_even even rfl
    rw [if_neg fun deleted => notDeleted (deleted r mem), run.buildForest_eq]
    exact ⟨f, rfl⟩

end Even

def Step.IsOfField : Step → Prop
  | member _ => True
  | fault (.orphanField ..) => True
  | fault (.invalidFlag _ .invariant _) => True
  | _ => False

theorem Row.layer_of_isOfField {base : Nat} {owner : Owner} {row : Row} (odd : base % 2 = 1)
    (field : (row.step base owner).IsOfField) : row.layer = .ok base := by
  have same : ∀ {layer : Nat}, base ≤ layer + 1 → layer ≤ base → ¬(layer + 1 = base ∧ layer % 2 = 0) →
      layer = base := by omega
  have steps := row.steps base owner
  generalize row.step base owner = s at field steps
  cases steps with
  | deleted | below | ofClass | nested | noField => exact field.elim
  | flagFault flag =>
    unfold isDeleted Row.flag at flag
    split at flag
    · cases flag
    · cases flag
      exact field.elim
  | layerFault _ parse =>
    unfold Row.layer at parse
    split at parse
    · cases parse
    · cases parse
      exact field.elim
  | noClass _ parse high le other | invariantFault _ parse high le other | ofField _ parse high le other =>
    rw [parse, same high le other]

structure Regular (base : Nat) (o : OpenForest) (row : Row) (rest : List Row) : Prop where
  call : ∀ name, row.step base o.owner = .nest name →
    nestedBase base = base + 2 ∧ base + 2 ≤ maxLayer ∧ o.owner = .ofField name ∧ o.children = [] ∧
      ∀ classes consumed, (buildLevel (nestedBase base) (row :: rest)).result = .ok (classes, consumed) →
        classes ≠ []
  parity : base % 2 = 1 → ∀ layer, row.isDeleted = .ok false → row.layer = .ok layer → layer + 1 = base →
    layer % 2 = 0 ∧ row.step base o.owner = .start layer
  member : base % 2 = 1 → (row.step base o.owner).IsOfField → row.layer = .ok base

theorem Loop.regular {base : Nat} {first rest : List Row} {o : OpenForest} {row : Row}
    (loop : Loop base first o (row :: rest)) : Regular base o row rest := by
  refine ⟨fun name step => ?call, fun odd layer live parse start => ?parity, Row.layer_of_isOfField⟩
  case call =>
    obtain ⟨deeper, room⟩ := loop.base_of_nest step
    have owner : o.owner = .ofField name := by
      cases Row.steps_of_step step with
      | nested _ _ _ open_ => exact open_
    exact ⟨deeper, room, owner, loop.children_of_nest step, fun _ _ call => classes_of_nest step call⟩
  case parity =>
    have even : layer % 2 = 0 := by omega
    have notBelow : ¬layer + 1 < base := by omega
    refine ⟨even, ?_⟩
    simp only [Row.step, live, parse, if_neg notBelow, if_pos (And.intro start even)]

/-- In no level that a build reaches do the bounds of its arithmetic come into play.  The base layer of a
level grows by two with each call and is never cut off; a level that returns a forest has extended it row by
row, each field once at most and by at least one class.  With an odd base layer the class layer is always
even and a field always lies at the base layer; with an even one no class is started, and only a table whose
rows are all deleted, up to the row that ends it, is no failure. -/
theorem buildForest_arithmetic (base : Nat) (rows : List Row) :
    (∀ depth b first, Reached base rows depth b first →
      b = base + 2 * depth ∧ b % 2 = base % 2 ∧
      (∀ o row rest, Loop b first o (row :: rest) → Regular b o row rest) ∧
      ∀ classes consumed, (buildLevel b first).result = .ok (classes, consumed) →
        ∃ o, Loop b first o (first.drop consumed) ∧ o.forest = classes) ∧
    (base % 2 = 0 →
      (∀ depth b first o rest, Reached base rows depth b first → Loop b first o rest → o.forest = []) ∧
      ((∃ forest, (buildForest base rows).result = .ok forest) ↔
        ∀ r ∈ levelRows base rows, r.isDeleted = .ok true) ∧
      ∀ forest, (buildForest base rows).result = .ok forest → forest = []) := by
  refine ⟨fun depth b first level => ?levels, fun even => ?even⟩
  case levels =>
    have deeper := level.base_eq
    exact ⟨deeper, by omega, fun _ _ _ loop => loop.regular, fun _ _ built => exists_loop_of_buildLevel built⟩
  case even =>
    have outcome := buildForest_of_even even rows
    refine ⟨fun depth b first o rest level loop => ?classes, ?_⟩
    case classes =>
      have same := level.base_eq
      rw [loop.eq_nothing (by omega)]
      rfl
    split at outcome
    · next deleted =>
      rw [outcome]
      refine ⟨⟨fun _ => deleted, fun _ => ⟨[], rfl⟩⟩, fun forest built => (Except.ok.inj built).symm⟩
    · next notDeleted =>
      obtain ⟨fault, failed⟩ := outcome
      rw [failed]
      exact ⟨⟨nofun, fun deleted => absurd deleted notDeleted⟩, nofun⟩

/-- The nested table of the order table is reached with base layer 5; an even base layer takes a table of
deleted rows only. -/
theorem buildForest_arithmetic_orderTable :
    Reached 3 orderTable 1 5 (orderTable.drop 3) ∧ 5 = 3 + 2 * 1 ∧
      (∃ o, Loop 5 (orderTable.drop 3) o (orderTable.drop 5) ∧
        o.forest = [⟨"Item", "", [⟨"sku", "String", "", "", false, []⟩]⟩]) ∧
      4 % 2 = 0 ∧ ∃ forest, (buildForest 4 [(Row.classStart 4 9 "Draft" "").markDeleted]).result = .ok forest := by
  have opened : Loop 3 orderTable (.ofField [] "Order" "One order" [] ⟨"items", "List", "", "", true, []⟩)
      (orderTable.drop 3) :=
    .skip
      (.member (.start .enter (by decide +kernel : _ = Step.start 2)) (by decide +kernel : _ = Step.member true))
      (by decide +kernel)
  have nested : Reached 3 orderTable 1 5 (orderTable.drop 3) :=
    .nested .outermost opened (by decide +kernel : _ = Step.nest "items")
  have scanned : scan 5 none (orderTable.drop 3) =
      .ok (forestLayout 4 [⟨"Item", "", [⟨"sku", "String", "", "", false, []⟩]⟩], orderTable.drop 5) := by
    decide +kernel
  have taken : (levelRows 5 (orderTable.drop 3)).length = 2 := by decide +kernel
  have built := buildLevel_of_buildForest ((buildForest_ok_iff (by decide)).2 ⟨_, scanned⟩)
  rw [taken] at built
  obtain ⟨deeper, -, -, returned⟩ := (buildForest_arithmetic 3 orderTable).1 1 5 _ nested
  have deleted := (buildForest_arithmetic 4 [(Row.classStart 4 9 "Draft" "").markDeleted]).2 (by decide)
  exact ⟨nested, deeper, returned _ _ built, by decide, deleted.2.1.2 (by decide +kernel)⟩

end ClassTable
