import ClassTable.Proofs.LevelRun
import Mathlib.Data.List.TakeWhile

set_option autoImplicit false

namespace ClassTable

def Row.ends (base : Nat) (r : Row) : Bool :=
  match r.isDeleted with
  | .ok false => r.isBelow base
  | _ => false

def levelRows (base : Nat) (rows : List Row) : List Row := rows.takeWhile fun r => !r.ends base

/-- Holds where a level is over: at the end of all rows, or at a row that ends it. -/
def Ended (base : Nat) (rows : List Row) : Prop := ∀ r ∈ rows.head?, r.ends base = true

namespace Row

variable {base : Nat} {owner : Owner} {row : Row} {name : String}

theorem ends_iff :
    row.ends base = true ↔
      row.isDeleted = .ok false ∧ ∃ layer, row.layer = .ok layer ∧ layer + 1 < base := by
  unfold ends isBelow
  cases row.isDeleted with
  | error fault => simp
  | ok deleted =>
    cases deleted with
    | true => simp
    | false => cases row.layer <;> simp

theorem ends_mono {base' : Nat} (le : base ≤ base') (h : row.ends base = true) : row.ends base' = true := by
  obtain ⟨live, layer, parse, low⟩ := ends_iff.1 h
  exact ends_iff.2 ⟨live, layer, parse, Nat.lt_of_lt_of_le low le⟩

theorem not_ends_mono {base' : Nat} (le : base ≤ base') (h : row.ends base' = false) : row.ends base = false := by
  rw [Bool.eq_false_iff] at h ⊢
  exact fun ends => h (ends_mono le ends)

theorem step_of_ends (owner : Owner) (h : row.ends base = true) : row.step base owner = .finish := by
  obtain ⟨live, layer, parse, low⟩ := ends_iff.1 h
  simp only [step, live, parse, if_pos low]

theorem not_ends_of_step {s : Step} (h : row.step base owner = s) (other : s ≠ .finish) :
    row.ends base = false := by
  rw [Bool.eq_false_iff]
  intro ends
  exact other (h.symm.trans (step_of_ends owner ends))

theorem ends_of_finish (h : row.step base owner = .finish) : row.ends base = true := by
  cases steps_of_step h with
  | @below layer live parse low => exact ends_iff.2 ⟨live, layer, parse, low⟩

theorem base_lt_nestedBase (h : row.step base owner = .nest name) : base < nestedBase base := by
  cases steps_of_step h with
  | nested _ parse above =>
    have le := layer_le parse
    unfold nestedBase
    omega

theorem not_ends_nested (h : row.step base owner = .nest name) : row.ends (nestedBase base) = false := by
  rcases step_nested h with start | ⟨fault, fails⟩
  · exact not_ends_of_step start (by simp)
  · exact not_ends_of_step fails (by simp)

end Row

section Rows

variable {base base' : Nat} {row : Row} {rest rows behind : List Row}

theorem levelRows_cons (h : row.ends base = false) : levelRows base (row :: rest) = row :: levelRows base rest := by
  simp [levelRows, h]

theorem levelRows_cons_of_ends (h : row.ends base = true) : levelRows base (row :: rest) = [] := by
  simp [levelRows, h]

theorem levelRows_of_step {owner : Owner} {s : Step} (h : row.step base owner = s) (other : s ≠ .finish)
    (rest : List Row) : levelRows base (row :: rest) = row :: levelRows base rest :=
  levelRows_cons (Row.not_ends_of_step h other)

theorem levelRows_append_drop (base : Nat) (rows : List Row) :
    levelRows base rows ++ rows.drop (levelRows base rows).length = rows := by
  have front : levelRows base rows = rows.take (levelRows base rows).length :=
    List.prefix_iff_eq_take.1 (List.takeWhile_prefix _)
  have all := List.take_append_drop (levelRows base rows).length rows
  rwa [← front] at all

theorem ended_drop_levelRows (base : Nat) (rows : List Row) :
    Ended base (rows.drop (levelRows base rows).length) := by
  induction rows with
  | nil => intro r mem; cases mem
  | cons row rest ih =>
    cases ends : row.ends base with
    | true =>
      rw [levelRows_cons_of_ends ends]
      intro r mem
      cases mem
      exact ends
    | false =>
      rw [levelRows_cons ends]
      exact ih

theorem mem_levelRows {r : Row} (mem : r ∈ levelRows base rows) : r.ends base = false := by
  have kept := List.mem_takeWhile_imp mem
  simpa using kept

theorem Ended.mono (le : base ≤ base') (h : Ended base rows) : Ended base' rows :=
  fun r mem => Row.ends_mono le (h r mem)

theorem levelRows_of_ended (h : Ended base rows) : levelRows base rows = [] := by
  cases rows with
  | nil => rfl
  | cons row rest => exact levelRows_cons_of_ends (h row rfl)

theorem levelRows_append (inside : ∀ r ∈ rows, r.ends base = false) :
    levelRows base (rows ++ behind) = rows ++ levelRows base behind := by
  refine List.takeWhile_append_of_pos fun r mem => ?_
  rw [inside r mem, Bool.not_false]

/-- The rows of a level are those of a nested table at its start and the rows of the level behind them. -/
theorem levelRows_nested (le : base ≤ base') (rows : List Row) :
    levelRows base rows =
      levelRows base' rows ++ levelRows base (rows.drop (levelRows base' rows).length) := by
  have inside : ∀ r ∈ levelRows base' rows, r.ends base = false := fun r mem =>
    Row.not_ends_mono le (mem_levelRows mem)
  rw [← levelRows_append inside, levelRows_append_drop]

end Rows

theorem Ended.append {base base' : Nat} {rows behind : List Row} (h : Ended base' rows)
    (h' : Ended base' behind) : Ended base' (levelRows base rows ++ behind) := by
  cases rows with
  | nil => exact h'
  | cons row rest =>
    cases ends : row.ends base with
    | true =>
      rw [levelRows_cons_of_ends ends]
      exact h'
    | false =>
      rw [levelRows_cons ends]
      intro r mem
      exact h r mem

theorem Ended.replace {base : Nat} {rows : List Row} {row : Row} {after : List Row}
    (h : Ended base (rows ++ row :: after)) :
    Ended base rows ∧ ∀ after', Ended base (rows ++ row :: after') := by
  cases rows with
  | nil => exact ⟨nofun, fun _ => h⟩
  | cons r rest => exact ⟨h, fun _ => h⟩

section Runs

variable {base n : Nat} {owner : Owner} {row : Row} {rest rows behind : List Row} {name : String}
  {events : List Event} {level inner : Level} {f : RowFault}

theorem LevelRun.consumed_eq (run : LevelRun base owner rows events level n) :
    level.consumed = (levelRows base rows).length := by
  induction run with
  | nil => rfl
  | finish step =>
    rw [levelRows_cons_of_ends (Row.ends_of_finish step)]
    rfl
  | skip step _ ih | start step _ ih | member step _ ih =>
    rw [levelRows_of_step step (by simp)]
    exact congrArg Nat.succ ih
  | @nest base _ _ _ row rest _ _ _ _ _ step _ _ ihCall ih =>
    have parts := levelRows_nested (Nat.le_of_lt (Row.base_lt_nestedBase step)) (row :: rest)
    rw [parts, List.length_append, ← ihCall, ← ih]
    rfl

theorem LevelRun.drop_eq (run : LevelRun base owner rows events level n) (behind : List Row) :
    (levelRows base rows ++ behind).drop level.consumed = behind :=
  List.drop_left' run.consumed_eq.symm

theorem LevelRun.ended_drop (run : LevelRun base owner rows events level n) :
    Ended base (rows.drop level.consumed) := by
  rw [run.consumed_eq]
  exact ended_drop_levelRows base rows

theorem LevelRun.nest_append {m : Nat} {nested : List Event} (step : row.step base owner = .nest name)
    (call : LevelRun (nestedBase base) .nothing (levelRows (nestedBase base) (row :: rest) ++ behind)
      nested inner m) (taken : inner.consumed = (levelRows (nestedBase base) (row :: rest)).length)
    (run : LevelRun base owner behind events level n) :
    LevelRun base owner (levelRows (nestedBase base) (row :: rest) ++ behind)
      (nested ++ .nestedTable row.index name inner.classes.length inner.consumed :: events)
      (inner.nest level) (m + n + 1) := by
  have dropped : (levelRows (nestedBase base) (row :: rest) ++ behind).drop inner.consumed = behind :=
    List.drop_left' taken.symm
  rw [levelRows_cons (Row.not_ends_nested step)] at call dropped ⊢
  rw [← dropped] at run
  exact .nest step call run

theorem LevelRun.of_ended (ended : Ended base rows) : LevelRun base owner rows [] .done 1 := by
  cases rows with
  | nil => exact .nil
  | cons row rest => exact .finish (Row.step_of_ends owner (ended row rfl))

/-- A level does not look behind the row that ends it. -/
theorem LevelRun.append (run : LevelRun base owner rows events level n) (ended : Ended base behind) :
    LevelRun base owner (levelRows base rows ++ behind) events level n := by
  induction run generalizing behind with
  | nil => exact .of_ended ended
  | finish step =>
    rw [levelRows_cons_of_ends (Row.ends_of_finish step)]
    exact .of_ended ended
  | skip step _ ih =>
    rw [levelRows_of_step step (by simp)]
    exact .skip step (ih ended)
  | start step _ ih =>
    rw [levelRows_of_step step (by simp)]
    exact .start step (ih ended)
  | @nest base _ _ _ row rest _ _ _ inner _ step call _ ihCall ih =>
    have le := Nat.le_of_lt (Row.base_lt_nestedBase step)
    have inside : Ended (nestedBase base) (levelRows base ((row :: rest).drop inner.consumed) ++ behind) :=
      call.ended_drop.append (ended.mono le)
    rw [levelRows_nested le, ← call.consumed_eq, List.append_assoc]
    exact .nest_append step (ihCall inside) call.consumed_eq (ih ended)
  | member step _ ih =>
    rw [levelRows_of_step step (by simp)]
    exact .member step (ih ended)

def Event.isOfRow : Event → Bool
  | skippedRow _ => true
  | classStart .. => true
  | _ => false

theorem filter_isOfRow_nest (row : Nat) (field : String) (classes consumed : Nat) (nested events : List Event) :
    (nested ++ .nestedTable row field classes consumed :: events).filter Event.isOfRow =
      nested.filter Event.isOfRow ++ events.filter Event.isOfRow := by
  rw [List.filter_append, List.filter_cons_of_neg (by simp [Event.isOfRow])]

/-- The rows in front of the one at fault make up a level of their own, over which the same rows are
reported; with the row at fault behind them a level fails, whatever comes next. -/
structure FailsAt (base : Nat) (owner : Owner) (events : List Event) (f : RowFault) (before : List Row)
    (row : Row) : Prop where
  inside : ∀ r ∈ before, r.ends base = false
  named : f.row = row.index
  read : ∃ events' level n, LevelRun base owner before events' level n ∧
    events'.filter Event.isOfRow = events.filter Event.isOfRow
  fails : ∀ after, ∃ n, FailedRun base owner (before ++ row :: after) events f n

namespace FailsAt

variable {before after : List Row} {bad : Row} {m : Nat} {nested : List Event} {owner' : Owner}

theorem cons (told : List Event) (inside : row.ends base = false)
    (run : ∀ {rest events level n}, LevelRun base owner' rest events level n →
      ∃ level', LevelRun base owner (row :: rest) (told ++ events) level' (n + 1))
    (failed : ∀ {rest events n}, FailedRun base owner' rest events f n →
      FailedRun base owner (row :: rest) (told ++ events) f (n + 1))
    (h : FailsAt base owner' events f before bad) : FailsAt base owner (told ++ events) f (row :: before) bad := by
  obtain ⟨events', level, n, read, same⟩ := h.read
  obtain ⟨level', read⟩ := run read
  refine ⟨List.forall_mem_cons.2 ⟨inside, h.inside⟩, h.named, ⟨_, level', _, read, ?_⟩, fun after => ?_⟩
  · rw [List.filter_append, List.filter_append, same]
  · obtain ⟨n, fails⟩ := h.fails after
    exact ⟨_, failed fails⟩

theorem nest (step : row.step base owner = .nest name)
    (call : LevelRun (nestedBase base) .nothing (row :: rest) nested inner m)
    (split : (row :: rest).drop inner.consumed = before ++ bad :: after)
    (h : FailsAt base owner events f before bad) :
    FailsAt base owner (nested ++ .nestedTable row.index name inner.classes.length inner.consumed :: events) f
      (levelRows (nestedBase base) (row :: rest) ++ before) bad := by
  have ended : Ended (nestedBase base) (before ++ bad :: after) := split ▸ call.ended_drop
  have le := Nat.le_of_lt (Row.base_lt_nestedBase step)
  have inside : ∀ r ∈ levelRows (nestedBase base) (row :: rest), r.ends base = false := fun r mem =>
    Row.not_ends_mono le (mem_levelRows mem)
  obtain ⟨events', level, n, read, same⟩ := h.read
  refine ⟨List.forall_mem_append.2 ⟨inside, h.inside⟩, h.named, ⟨_, _, _,
    .nest_append step (call.append ended.replace.1) call.consumed_eq read, ?_⟩, fun after' => ?_⟩
  · rw [filter_isOfRow_nest, filter_isOfRow_nest, same]
  · obtain ⟨n, fails⟩ := h.fails after'
    have call' := call.append (ended.replace.2 after')
    have dropped : (levelRows (nestedBase base) (row :: rest) ++ (before ++ bad :: after')).drop
        inner.consumed = before ++ bad :: after' := call.drop_eq _
    rw [List.append_assoc]
    rw [levelRows_cons (Row.not_ends_nested step)] at call' dropped ⊢
    rw [← dropped] at fails
    exact ⟨_, .nest step call' fails⟩

theorem call (step : row.step base owner = .nest name) (split : row :: rest = before ++ bad :: after)
    (h : FailsAt (nestedBase base) .nothing events f before bad) : FailsAt base owner events f before bad := by
  have le := Nat.le_of_lt (Row.base_lt_nestedBase step)
  have inside : ∀ r ∈ before, r.ends base = false := fun r mem => Row.not_ends_mono le (h.inside r mem)
  obtain ⟨events', level, n, read, same⟩ := h.read
  refine ⟨inside, h.named, ?_, fun after' => ?_⟩
  · cases before with
    | nil =>
      cases read
      exact ⟨_, _, _, .nil, same⟩
    | cons r before =>
      obtain rfl : row = r := (List.cons.inj split).1
      -- The rows in front are all taken by the nested table, and nothing is left behind it.
      have taken : level.consumed = (row :: before).length := by
        rw [read.consumed_eq, ← List.append_nil (row :: before), levelRows_append h.inside]
        rfl
      have rest : LevelRun base owner ((row :: before).drop level.consumed) [] .done 1 := by
        rw [taken, List.drop_length]
        exact .nil
      refine ⟨_, _, _, .nest step read rest, ?_⟩
      rw [filter_isOfRow_nest, same, List.filter_nil, List.append_nil]
  · obtain ⟨n, fails⟩ := h.fails after'
    cases before with
    | nil =>
      obtain rfl : row = bad := (List.cons.inj split).1
      exact ⟨_, .call step fails⟩
    | cons r before =>
      obtain rfl : row = r := (List.cons.inj split).1
      exact ⟨_, .call step fails⟩

end FailsAt

theorem FailedRun.split (run : FailedRun base owner rows events f n) :
    ∃ before row after, rows = before ++ row :: after ∧ FailsAt base owner events f before row := by
  induction run with
  | @fault base owner row rest f step =>
    exact ⟨[], row, rest, rfl, nofun, Row.row_of_step_fault step, ⟨[], _, _, .nil, rfl⟩, fun after =>
      ⟨_, .fault step⟩⟩
  | @skip _ _ _ row _ _ _ step _ ih =>
    obtain ⟨before, bad, after, rfl, h⟩ := ih
    exact ⟨row :: before, bad, after, rfl, .cons [_] (Row.not_ends_of_step step (by simp))
      (fun run => ⟨_, .skip step run⟩) (fun run => .skip step run) h⟩
  | @start _ _ _ _ row _ _ _ step _ ih =>
    obtain ⟨before, bad, after, rfl, h⟩ := ih
    exact ⟨row :: before, bad, after, rfl, .cons [_] (Row.not_ends_of_step step (by simp))
      (fun run => ⟨_, .start step run⟩) (fun run => .start step run) h⟩
  | call step _ ih =>
    obtain ⟨before, bad, after, split, h⟩ := ih
    exact ⟨before, bad, after, split, .call step split h⟩
  | @nest _ _ _ _ row rest _ _ _ inner _ step call _ ih =>
    obtain ⟨before, bad, after, split, h⟩ := ih
    refine ⟨_, bad, after, ?_, .nest step call split h⟩
    rw [List.append_assoc, ← split, call.consumed_eq, levelRows_append_drop]
  | @member _ _ _ row _ _ _ _ step _ ih =>
    obtain ⟨before, bad, after, rfl, h⟩ := ih
    exact ⟨row :: before, bad, after, rfl, .cons [] (Row.not_ends_of_step step (by simp))
      (fun run => ⟨_, .member step run⟩) (fun run => .member step run) h⟩

end Runs

end ClassTable
