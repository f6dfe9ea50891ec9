import ClassTable.Proofs.Step

/-!
Reading a level as a finite run.  `LevelRun` and `FailedRun` say round by round what the loop of a level
does, where a nested table is a run of its own from the same row on and the loop goes on behind the rows
that it took.  Nothing in them asks for a run to end: that every level has one (`exists_run`), and that a
run agrees with `readLevel`, are theorems.
-/

set_option autoImplicit false

namespace ClassTable

/-- A level read to its end: what it reports and holds, and how many rounds its loop and those of its nested
tables take, the last one included, which finds no row or one that ends the level. -/
inductive LevelRun : Nat → Owner → List Row → List Event → Level → Nat → Prop
  | nil {base : Nat} {owner : Owner} : LevelRun base owner [] [] .done 1
  | finish {base : Nat} {owner : Owner} {row : Row} {rest : List Row} (step : row.step base owner = .finish) :
      LevelRun base owner (row :: rest) [] .done 1
  | skip {base n : Nat} {owner : Owner} {row : Row} {rest : List Row} {events : List Event} {level : Level}
      (step : row.step base owner = .skip) (run : LevelRun base owner rest events level n) :
      LevelRun base owner (row :: rest) (.skippedRow row.index :: events) level.skip (n + 1)
  | start {base n layer : Nat} {owner : Owner} {row : Row} {rest : List Row} {events : List Event}
      {level : Level} (step : row.step base owner = .start layer)
      (run : LevelRun base .ofClass rest events level n) :
      LevelRun base owner (row :: rest) (.classStart row.index layer row.name :: events)
        (level.startClass row) (n + 1)
  | nest {base m n : Nat} {owner : Owner} {row : Row} {rest : List Row} {name : String}
      {nested events : List Event} {inner level : Level} (step : row.step base owner = .nest name)
      (call : LevelRun (nestedBase base) .nothing (row :: rest) nested inner m)
      (run : LevelRun base owner ((row :: rest).drop inner.consumed) events level n) :
      LevelRun base owner (row :: rest)
        (nested ++ .nestedTable row.index name inner.classes.length inner.consumed :: events)
        (inner.nest level) (m + n + 1)
  | member {base n : Nat} {owner : Owner} {row : Row} {rest : List Row} {invariant : Bool}
      {events : List Event} {level : Level} (step : row.step base owner = .member invariant)
      (run : LevelRun base (.ofField row.name) rest events level n) :
      LevelRun base owner (row :: rest) events (level.startField row invariant) (n + 1)

/-- A level with a row at fault: what it reports before, the fault, and how many rounds it takes. -/
inductive FailedRun : Nat → Owner → List Row → List Event → RowFault → Nat → Prop
  | fault {base : Nat} {owner : Owner} {row : Row} {rest : List Row} {f : RowFault}
      (step : row.step base owner = .fault f) : FailedRun base owner (row :: rest) [] f 1
  | skip {base n : Nat} {owner : Owner} {row : Row} {rest : List Row} {events : List Event} {f : RowFault}
      (step : row.step base owner = .skip) (run : FailedRun base owner rest events f n) :
      FailedRun base owner (row :: rest) (.skippedRow row.index :: events) f (n + 1)
  | start {base n layer : Nat} {owner : Owner} {row : Row} {rest : List Row} {events : List Event}
      {f : RowFault} (step : row.step base owner = .start layer)
      (run : FailedRun base .ofClass rest events f n) :
      FailedRun base owner (row :: rest) (.classStart row.index layer row.name :: events) f (n + 1)
  | call {base n : Nat} {owner : Owner} {row : Row} {rest : List Row} {name : String} {events : List Event}
      {f : RowFault} (step : row.step base owner = .nest name)
      (run : FailedRun (nestedBase base) .nothing (row :: rest) events f n) :
      FailedRun base owner (row :: rest) events f (n + 1)
  | nest {base m n : Nat} {owner : Owner} {row : Row} {rest : List Row} {name : String}
      {nested events : List Event} {inner : Level} {f : RowFault} (step : row.step base owner = .nest name)
      (call : LevelRun (nestedBase base) .nothing (row :: rest) nested inner m)
      (run : FailedRun base owner ((row :: rest).drop inner.consumed) events f n) :
      FailedRun base owner (row :: rest)
        (nested ++ .nestedTable row.index name inner.classes.length inner.consumed :: events) f (m + n + 1)
  | member {base n : Nat} {owner : Owner} {row : Row} {rest : List Row} {invariant : Bool}
      {events : List Event} {f : RowFault} (step : row.step base owner = .member invariant)
      (run : FailedRun base (.ofField row.name) rest events f n) :
      FailedRun base owner (row :: rest) events f (n + 1)

section Runs

variable {base n : Nat} {owner : Owner} {row : Row} {rest rows : List Row} {name : String}
  {events : List Event} {level inner : Level} {f : RowFault}

theorem tell_of_ok {x : Logged RowFault Level} (told : List Event) (change : Level → Level)
    (h : x = ⟨events, .ok level⟩) :
    (do Logged.tell told; let a ← x; pure (change a) : Logged RowFault Level) =
      ⟨told ++ events, .ok (change level)⟩ := by
  subst h
  change (⟨told ++ (events ++ []), _⟩ : Logged RowFault Level) = _
  rw [List.append_nil]
  rfl

theorem tell_of_error {x : Logged RowFault Level} (told : List Event) (change : Level → Level)
    (h : x = ⟨events, .error f⟩) :
    (do Logged.tell told; let a ← x; pure (change a) : Logged RowFault Level) =
      ⟨told ++ events, .error f⟩ := by
  subst h
  rfl

theorem readLevel_of_nest (step : row.step base owner = .nest name)
    (call : readLevel (nestedBase base) .nothing (row :: rest) = ⟨events, .ok inner⟩) :
    readLevel base owner (row :: rest) = (do
      Logged.tell (events ++ [.nestedTable row.index name inner.classes.length inner.consumed])
      let level ← readLevel base owner ((row :: rest).drop inner.consumed)
      pure (inner.nest level)) := by
  have read : (readLevel (nestedBase base) .nothing (row :: rest)).result = .ok inner := by rw [call]
  have behind : (row :: rest).drop inner.consumed = rest.drop (inner.consumed - 1) :=
    drop_cons_of_pos (consumed_pos_of_nest step read)
  rw [readLevel_cons, step, behind]
  dsimp only
  rw [Logged.bind_of_ok read, call, Logged.bind_of_ok (Logged.result_tell _),
    Logged.bind_of_ok (Logged.result_tell _)]
  exact congrArg₂ Logged.mk (List.append_assoc ..).symm rfl

theorem LevelRun.readLevel_eq (run : LevelRun base owner rows events level n) :
    readLevel base owner rows = ⟨events, .ok level⟩ := by
  induction run with
  | nil =>
    rw [readLevel]
    rfl
  | finish step =>
    rw [readLevel_cons, step]
    rfl
  | skip step _ ih | start step _ ih =>
    rw [readLevel_cons, step]
    exact tell_of_ok _ _ ih
  | nest step _ _ ihCall ih =>
    rw [readLevel_of_nest step ihCall, tell_of_ok _ _ ih, List.append_assoc]
    rfl
  | member step _ ih =>
    rw [readLevel_cons, step]
    exact tell_of_ok [] _ ih

theorem FailedRun.readLevel_eq (run : FailedRun base owner rows events f n) :
    readLevel base owner rows = ⟨events, .error f⟩ := by
  induction run with
  | fault step =>
    rw [readLevel_cons, step]
    rfl
  | skip step _ ih | start step _ ih =>
    rw [readLevel_cons, step]
    exact tell_of_error _ _ ih
  | call step _ ih =>
    rw [readLevel_cons, step]
    exact Logged.bind_of_error (by rw [ih]) |>.trans (by rw [ih])
  | nest step call _ ih =>
    rw [readLevel_of_nest step call.readLevel_eq, tell_of_error _ _ ih, List.append_assoc]
    rfl
  | member step _ ih =>
    rw [readLevel_cons, step]
    exact tell_of_error [] _ ih

/-- Whatever the rows hold, reading them ends, with a level or with a fault. -/
theorem exists_run (base : Nat) (owner : Owner) (rows : List Row) :
    (∃ events level n, LevelRun base owner rows events level n) ∨
      ∃ events fault n, FailedRun base owner rows events fault n := by
  induction base, owner, rows using readLevel_induction with
  | nil base owner => exact .inl ⟨_, _, _, .nil⟩
  | fault base owner row rest f step => exact .inr ⟨_, _, _, .fault step⟩
  | finish base owner row rest step => exact .inl ⟨_, _, _, .finish step⟩
  | skip base owner row rest step ih =>
    obtain ⟨events, level, n, run⟩ | ⟨events, f, n, run⟩ := ih
    · exact .inl ⟨_, _, _, .skip step run⟩
    · exact .inr ⟨_, _, _, .skip step run⟩
  | start base owner row rest layer step ih =>
    obtain ⟨events, level, n, run⟩ | ⟨events, f, n, run⟩ := ih
    · exact .inl ⟨_, _, _, .start step run⟩
    · exact .inr ⟨_, _, _, .start step run⟩
  | nest base owner row rest name step ihCall ih =>
    obtain ⟨nested, inner, m, call⟩ | ⟨events, f, n, run⟩ := ihCall
    · have read : (readLevel (nestedBase base) .nothing (row :: rest)).result = .ok inner := by
        rw [call.readLevel_eq]
      have behind : (row :: rest).drop inner.consumed = rest.drop (inner.consumed - 1) :=
        drop_cons_of_pos (consumed_pos_of_nest step read)
      have ih := ih (inner.consumed - 1)
      rw [← behind] at ih
      obtain ⟨events, level, n, run⟩ | ⟨events, f, n, run⟩ := ih
      · exact .inl ⟨_, _, _, .nest step call run⟩
      · exact .inr ⟨_, _, _, .nest step call run⟩
    · exact .inr ⟨_, _, _, .call step run⟩
  | member base owner row rest invariant step ih =>
    obtain ⟨events, level, n, run⟩ | ⟨events, f, n, run⟩ := ih
    · exact .inl ⟨_, _, _, .member step run⟩
    · exact .inr ⟨_, _, _, .member step run⟩

theorem LevelRun.buildLevel_eq (run : LevelRun base .nothing rows events level n) :
    buildLevel base rows = ⟨events, .ok (level.classes, level.consumed)⟩ := by
  unfold buildLevel
  rw [run.readLevel_eq, Logged.bind_of_ok rfl]
  exact congrArg₂ Logged.mk (List.append_nil _) rfl

theorem FailedRun.buildLevel_eq (run : FailedRun base .nothing rows events f n) :
    buildLevel base rows = ⟨events, .error f⟩ := by
  unfold buildLevel
  rw [run.readLevel_eq, Logged.bind_of_error rfl]

theorem LevelRun.buildForest_eq (run : LevelRun base .nothing rows events level n) :
    buildForest base rows =
      ⟨events ++ [.builtForest rows.length level.consumed level.classes.length], .ok level.classes⟩ := by
  unfold buildForest
  rw [run.buildLevel_eq, Logged.bind_of_ok rfl]
  rfl

theorem FailedRun.buildForest_eq (run : FailedRun base .nothing rows events f n) :
    buildForest base rows = ⟨events, .error f⟩ := by
  unfold buildForest
  rw [run.buildLevel_eq, Logged.bind_of_error rfl]

end Runs

end ClassTable
