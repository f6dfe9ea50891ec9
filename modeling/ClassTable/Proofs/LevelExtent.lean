import ClassTable.Proofs.BuildLog

set_option autoImplicit false

namespace ClassTable

def Row.IsOuter (base : Nat) (r : Row) : Prop :=
  r.isDeleted = .ok false ∧ ∃ layer, r.layer = .ok layer ∧ layer + 1 < base

/-- A row that a level can take: a deleted one, whatever its layer, or one that is not below its classes. -/
def Row.IsInner (base : Nat) (r : Row) : Prop :=
  r.isDeleted = .ok true ∨ r.isDeleted = .ok false ∧ ∃ layer, r.layer = .ok layer ∧ base ≤ layer + 1

/-- What a level that is read from the row at `start` on owes its caller for the forest that it returns and
for the rows that it says it took. -/
structure Extent (base start : Nat) (rows : List Row) (forest : List ClassDef) (consumed : Nat) : Prop where
  within : start + consumed ≤ rows.length
  inside : ∀ r ∈ (rows.drop start).take consumed, r.IsInner base
  stops : start + consumed = rows.length ∨ ∃ row, rows[start + consumed]? = some row ∧ row.IsOuter base
  counts : consumed =
    (((rows.drop start).take consumed).filter fun r => !r.isLive).length + (forestFlatten forest).length
  alone : ∀ before after : List Row, (after = [] ∨ ∃ row rest, after = row :: rest ∧ row.IsOuter base) →
    buildLevel base ((before ++ (rows.drop start).take consumed ++ after).drop before.length) =
      buildLevel base (rows.drop start)

section Runs

variable {base n : Nat} {owner : Owner} {rows behind : List Row} {events : List Event} {level : Level}

theorem Row.IsInner.mono {base' : Nat} {r : Row} (le : base ≤ base') (inner : r.IsInner base') : r.IsInner base :=
  inner.imp_right fun ⟨live, layer, parse, high⟩ => ⟨live, layer, parse, Nat.le_trans le high⟩

theorem Row.isInner_of_step {row : Row} {s : Step} (h : row.step base owner = s) (noFault : ∀ f, s ≠ .fault f)
    (noEnd : s ≠ .finish) : row.IsInner base := by
  cases steps_of_step h with
  | deleted flag => exact .inl flag
  | @ofClass layer live parse start => exact .inr ⟨live, layer, parse, Nat.le_of_eq start.symm⟩
  | @nested layer _ live parse above => exact .inr ⟨live, layer, parse, by omega⟩
  | @ofField layer _ live parse high => exact .inr ⟨live, layer, parse, high⟩
  | below => exact absurd rfl noEnd
  | flagFault | layerFault | noField | noClass | invariantFault => exact absurd rfl (noFault _)

theorem LevelRun.isInner (run : LevelRun base owner rows events level n) :
    ∀ r ∈ levelRows base rows, r.IsInner base := by
  induction run with
  | nil => exact nofun
  | finish step =>
    rw [levelRows_cons_of_ends (Row.ends_of_finish step)]
    exact nofun
  | skip step _ ih | start step _ ih | member step _ ih =>
    rw [levelRows_of_step step (by simp)]
    exact List.forall_mem_cons.2 ⟨Row.isInner_of_step step (by simp) (by simp), ih⟩
  | nest step call _ ihCall ih =>
    have le := Nat.le_of_lt (Row.base_lt_nestedBase step)
    rw [levelRows_nested le, ← call.consumed_eq]
    exact List.forall_mem_append.2 ⟨fun r mem => (ihCall r mem).mono le, ih⟩

theorem LevelRun.take_eq (run : LevelRun base owner rows events level n) :
    rows.take level.consumed = levelRows base rows := by
  rw [run.consumed_eq]
  exact (List.prefix_iff_eq_take.1 (List.takeWhile_prefix _)).symm

theorem ended_of_outer (outer : behind = [] ∨ ∃ row rest, behind = row :: rest ∧ row.IsOuter base) :
    Ended base behind := by
  obtain rfl | ⟨row, rest, rfl, isOuter⟩ := outer
  · exact nofun
  · intro r mem
    obtain rfl := Option.some.inj mem
    exact Row.ends_iff.2 isOuter

theorem exists_run_of_buildLevel {forest : List ClassDef} {consumed : Nat}
    (built : (buildLevel base rows).result = .ok (forest, consumed)) :
    ∃ events level n, LevelRun base .nothing rows events level n ∧ level.classes = forest ∧
      level.consumed = consumed := by
  obtain ⟨events, level, n, run⟩ | ⟨events, fault, n, run⟩ := exists_run base .nothing rows
  · rw [run.buildLevel_eq] at built
    cases built
    exact ⟨events, level, n, run, rfl, rfl⟩
  · rw [run.buildLevel_eq] at built
    cases built

theorem buildLevel_of_buildForest {forest : List ClassDef} (built : (buildForest base rows).result = .ok forest) :
    (buildLevel base rows).result = .ok (forest, (levelRows base rows).length) := by
  obtain ⟨⟨forest', consumed⟩, read, same⟩ := Logged.result_bind_eq_ok.1 built
  obtain ⟨events, level, n, run, rfl, rfl⟩ := exists_run_of_buildLevel read
  cases same
  rw [read, run.consumed_eq]

end Runs

/-- A level keeps its contract from wherever it is read, and for every base layer. -/
theorem buildLevel_extent {base start : Nat} {rows : List Row} {forest : List ClassDef} {consumed : Nat}
    (position : start ≤ rows.length)
    (built : (buildLevel base (rows.drop start)).result = .ok (forest, consumed)) :
    Extent base start rows forest consumed := by
  obtain ⟨events, level, n, run, rfl, rfl⟩ := exists_run_of_buildLevel built
  have taken := run.take_eq
  have left : (rows.drop start).length = rows.length - start := List.length_drop
  have le : level.consumed ≤ (rows.drop start).length := by
    rw [run.consumed_eq]
    exact (List.takeWhile_prefix _).length_le
  refine ⟨by omega, ?inside, ?stops, ?counts, fun before after outer => ?alone⟩
  case inside =>
    rw [taken]
    exact run.isInner
  case stops =>
    have ended := run.ended_drop
    rw [List.drop_drop] at ended
    cases behind : rows.drop (start + level.consumed) with
    | nil =>
      left
      have short := List.drop_eq_nil_iff.1 behind
      omega
    | cons row rest =>
      right
      have here : rows[start + level.consumed]? = some row := by
        rw [← List.head?_drop, behind]
        rfl
      rw [behind] at ended
      exact ⟨row, here, Row.ends_iff.1 (ended row rfl)⟩
  case counts =>
    have log := run.completeLog
    have count := log.consumed
    rw [log.skips, List.length_map] at count
    rw [taken, run.consumed_eq]
    exact count
  case alone =>
    rw [taken, List.append_assoc, List.drop_left, run.buildLevel_eq]
    exact (run.append (ended_of_outer outer)).buildLevel_eq

theorem buildLevel_extent_orderTable :
    2 ≤ orderTable.length ∧
      (buildLevel 5 (orderTable.drop 2)).result =
        .ok ([⟨"Item", "", [⟨"sku", "String", "", "", false, []⟩]⟩], 3) ∧
      Extent 5 2 orderTable [⟨"Item", "", [⟨"sku", "String", "", "", false, []⟩]⟩] 3 := by
  have scanned : scan 5 none (orderTable.drop 2) =
      .ok (forestLayout 4 [⟨"Item", "", [⟨"sku", "String", "", "", false, []⟩]⟩], orderTable.drop 5) := by
    decide +kernel
  have taken : (levelRows 5 (orderTable.drop 2)).length = 3 := by decide +kernel
  have built := buildLevel_of_buildForest ((buildForest_ok_iff (by decide)).2 ⟨_, scanned⟩)
  rw [taken] at built
  exact ⟨by decide, built, buildLevel_extent (by decide) built⟩

end ClassTable
