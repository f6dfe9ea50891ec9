import ClassTable.Proofs.Building
import ClassTable.Proofs.LevelRows
import Mathlib.Logic.Relation

/-!
Reading a table ends after at most three rounds a row and one more (`buildLevel_terminates`).  A nested table
is read from the row that opens it, so the rows that are left do not get fewer by the call itself; they do
because that row either starts a class of the nested table or is at fault there, and never ends it.
-/

set_option autoImplicit false

namespace ClassTable

/-- The row opens a nested table in one level, which is read as a level with another base layer. -/
def Row.Reopens (row : Row) (caller callee : Nat × Owner) : Prop :=
  ∃ name, row.step caller.1 caller.2 = .nest name ∧ callee = (nestedBase caller.1, .nothing)

/-- What holds of a call that reads a nested table from `row` on, in a level with base layer `base`. -/
structure Progresses (base : Nat) (row : Row) (rest : List Row) : Prop where
  live : row.isDeleted = .ok false
  above : ∃ layer, row.layer = .ok layer ∧ base < layer ∧ base < nestedBase base ∧ nestedBase base ≤ layer + 1
  stays : row.step (nestedBase base) .nothing ≠ .finish
  advances : ∀ inner, (readLevel (nestedBase base) .nothing (row :: rest)).result = .ok inner →
    0 < inner.consumed ∧ ((row :: rest).drop inner.consumed).length < (row :: rest).length

/-- The first row starts a class or is at fault. -/
def Begins (base : Nat) (owner : Owner) (rows : List Row) : Prop :=
  ∃ row rest, rows = row :: rest ∧
    ((∃ layer, row.step base owner = .start layer) ∨ ∃ f, row.step base owner = .fault f)

section Rounds

variable {base n : Nat} {owner : Owner} {row : Row} {rest rows : List Row} {name : String}
  {events : List Event} {level : Level} {f : RowFault}

theorem begins_of_nest (step : row.step base owner = .nest name) (rest : List Row) :
    Begins (nestedBase base) .nothing (row :: rest) := by
  refine ⟨row, rest, rfl, ?_⟩
  rcases Row.step_nested step with start | fault
  · exact .inl ⟨_, start⟩
  · exact .inr fault

theorem not_begins {s : Step} (step : row.step base owner = s) (noStart : ∀ layer, s ≠ .start layer)
    (noFault : ∀ f, s ≠ .fault f) : ¬Begins base owner (row :: rest) := by
  rintro ⟨r, rest', same, begins⟩
  obtain rfl := (List.cons.inj same).1
  rcases begins with ⟨layer, start⟩ | ⟨f, fault⟩
  · exact noStart layer (step.symm.trans start)
  · exact noFault f (step.symm.trans fault)

theorem LevelRun.consumed_le (run : LevelRun base owner rows events level n) :
    level.consumed ≤ rows.length := by
  rw [run.consumed_eq]
  exact (List.takeWhile_prefix _).length_le

/-- A level that starts with a class has one round to spare, which its caller needs. -/
theorem LevelRun.rounds_le (run : LevelRun base owner rows events level n) :
    n ≤ 3 * level.consumed + 1 ∧ (Begins base owner rows → n + 1 ≤ 3 * level.consumed) := by
  induction run with
  | nil =>
    refine ⟨Nat.le_refl _, ?_⟩
    rintro ⟨row, rest, same, -⟩
    cases same
  | finish step => exact ⟨Nat.le_refl _, fun begins => absurd begins (not_begins step nofun nofun)⟩
  | @skip _ n _ _ _ _ level step _ ih =>
    have consumed : level.skip.consumed = level.consumed + 1 := rfl
    exact ⟨by omega, fun begins => absurd begins (not_begins step nofun nofun)⟩
  | @start _ n _ _ row _ _ level step _ ih =>
    have consumed : (level.startClass row).consumed = level.consumed + 1 := rfl
    exact ⟨by omega, fun _ => by omega⟩
  | @nest _ m n _ row rest _ _ _ inner level step _ _ ihCall ih =>
    have consumed : (inner.nest level).consumed = inner.consumed + level.consumed := rfl
    have spare := ihCall.2 (begins_of_nest step rest)
    exact ⟨by omega, fun begins => absurd begins (not_begins step nofun nofun)⟩
  | @member _ n _ row _ invariant _ level step _ ih =>
    have consumed : (level.startField row invariant).consumed = level.consumed + 1 := rfl
    exact ⟨by omega, fun begins => absurd begins (not_begins step nofun nofun)⟩

theorem FailedRun.rounds_le (run : FailedRun base owner rows events f n) :
    n ≤ 3 * rows.length ∧ (Begins base owner rows → n + 1 ≤ 3 * rows.length) := by
  induction run with
  | fault step =>
    rw [List.length_cons]
    exact ⟨by omega, fun _ => by omega⟩
  | skip step _ ih =>
    rw [List.length_cons]
    exact ⟨by omega, fun begins => absurd begins (not_begins step nofun nofun)⟩
  | start step _ ih =>
    rw [List.length_cons]
    exact ⟨by omega, fun _ => by omega⟩
  | @call _ _ _ _ rest _ _ _ step _ ih =>
    have spare := ih.2 (begins_of_nest step rest)
    exact ⟨by omega, fun begins => absurd begins (not_begins step nofun nofun)⟩
  | @nest _ m n _ row rest _ _ _ inner _ step call _ ih =>
    have spare := call.rounds_le.2 (begins_of_nest step rest)
    have le := call.consumed_le
    have left := List.length_drop (i := inner.consumed) (l := row :: rest)
    exact ⟨by omega, fun begins => absurd begins (not_begins step nofun nofun)⟩
  | member step _ ih =>
    rw [List.length_cons]
    exact ⟨by omega, fun begins => absurd begins (not_begins step nofun nofun)⟩

end Rounds

theorem progresses_of_nest {base : Nat} {owner : Owner} {row : Row} {name : String}
    (step : row.step base owner = .nest name) (rest : List Row) : Progresses base row rest := by
  have deeper := Row.base_lt_nestedBase step
  refine ⟨?live, ?above, ?stays, fun inner read => ?advances⟩
  case live =>
    cases Row.steps_of_step step with
    | nested live => exact live
  case above =>
    cases Row.steps_of_step step with
    | @nested layer _ _ parse above =>
      have le : nestedBase base ≤ base + 2 := Nat.min_le_left _ _
      exact ⟨layer, parse, above, deeper, by omega⟩
  case stays =>
    intro finish
    exact Bool.eq_false_iff.1 (Row.not_ends_nested step) (Row.ends_of_finish finish)
  case advances =>
    have taken := consumed_pos_of_nest step read
    rw [List.length_drop, List.length_cons]
    exact ⟨taken, by omega⟩

/-- Along calls that start from one row the base layer rises, at most to the layer behind that row's own. -/
theorem base_lt_of_reopens {row : Row} {caller callee : Nat × Owner} {layer : Nat}
    (parse : row.layer = .ok layer) (calls : Relation.TransGen row.Reopens caller callee) :
    caller.1 < callee.1 ∧ callee.1 ≤ layer + 1 := by
  have call : ∀ {p q : Nat × Owner}, row.Reopens p q → p.1 < q.1 ∧ q.1 ≤ layer + 1 := by
    rintro p q ⟨name, step, rfl⟩
    obtain ⟨layer', parse', -, deeper, le⟩ := (progresses_of_nest step []).above
    obtain rfl : layer = layer' := Except.ok.inj (parse.symm.trans parse')
    exact ⟨deeper, le⟩
  induction calls with
  | single first => exact call first
  | tail _ last ih => exact ⟨Nat.lt_trans ih.1 (call last).1, (call last).2⟩

/-- A level of a table is read in finitely many rounds, whatever its rows hold and whatever its base layer
is: every call is made on a live row above the base layer, does not end at that row, and takes at least one
row when it succeeds; calls on one row go to ever higher base layers, up to one above its own layer. -/
theorem buildLevel_terminates (base : Nat) (rows : List Row) :
    (∃ events n, n ≤ 3 * rows.length + 1 ∧
      ((∃ level, LevelRun base .nothing rows events level n ∧
          buildLevel base rows = ⟨events, .ok (level.classes, level.consumed)⟩) ∨
        ∃ fault, FailedRun base .nothing rows events fault n ∧ buildLevel base rows = ⟨events, .error fault⟩)) ∧
    (∀ (b : Nat) (owner : Owner) (row : Row) (rest : List Row) (name : String),
      row.step b owner = .nest name → Progresses b row rest) ∧
    (∀ (row : Row) (caller callee : Nat × Owner) (layer : Nat), row.layer = .ok layer →
      Relation.TransGen row.Reopens caller callee → caller.1 < callee.1 ∧ callee.1 ≤ layer + 1) := by
  refine ⟨?_, fun _ _ _ rest _ step => progresses_of_nest step rest,
    fun _ _ _ _ parse calls => base_lt_of_reopens parse calls⟩
  obtain ⟨events, level, n, run⟩ | ⟨events, fault, n, run⟩ := exists_run base .nothing rows
  · have rounds := run.rounds_le.1
    have le := run.consumed_le
    exact ⟨events, n, by omega, .inl ⟨level, run, run.buildLevel_eq⟩⟩
  · have rounds := run.rounds_le.1
    exact ⟨events, n, by omega, .inr ⟨fault, run, run.buildLevel_eq⟩⟩

theorem buildLevel_terminates_orderTable :
    (∃ events n, n ≤ 25 ∧ ∃ level, LevelRun 3 .nothing orderTable events level n) ∧
      (Row.classStart 5 4 "Item" "").step 3 (.ofField "items") = .nest "items" ∧
      Progresses 3 (.classStart 5 4 "Item" "") (orderTable.drop 4) ∧
      (Row.classStart 5 4 "Item" "").layer = .ok 4 ∧ nestedBase 3 ≤ 5 := by
  have built : (buildForest 3 orderTable).result = .ok orderForest :=
    (buildForest_ok_iff (by decide)).2 ⟨_, scan_orderTable⟩
  have opens : (Row.classStart 5 4 "Item" "").step 3 (.ofField "items") = .nest "items" := by decide +kernel
  have parse : (Row.classStart 5 4 "Item" "").layer = .ok 4 := by decide +kernel
  obtain ⟨⟨events, n, le, ends⟩, proper, chain⟩ := buildLevel_terminates 3 orderTable
  have bound := (chain _ (3, .ofField "items") (nestedBase 3, .nothing) 4 parse (.single ⟨_, opens, rfl⟩)).2
  refine ⟨?_, opens, proper 3 _ _ _ _ opens, parse, bound⟩
  obtain ⟨level, run, -⟩ | ⟨fault, run, -⟩ := ends
  · exact ⟨events, n, le, level, run⟩
  · rw [run.buildForest_eq] at built
    cases built

end ClassTable
