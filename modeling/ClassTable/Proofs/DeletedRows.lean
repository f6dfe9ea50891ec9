import ClassTable.Proofs.Building
import ClassTable.Proofs.Step

set_option autoImplicit false

namespace ClassTable

/-- Two levels, each read from its own rows, that hold the same and have the same live rows behind them. -/
structure Level.Agrees (rows rows' : List Row) (level level' : Level) : Prop where
  children : level.children = level'.children
  fields : level.fields = level'.fields
  classes : level.classes = level'.classes
  behind : (rows.drop level.consumed).filter Row.isLive = (rows'.drop level'.consumed).filter Row.isLive

inductive SameReading (rows rows' : List Row) : Except RowFault Level → Except RowFault Level → Prop
  | fault (f : RowFault) : SameReading rows rows' (.error f) (.error f)
  | level {level level' : Level} (agrees : level.Agrees rows rows' level') :
      SameReading rows rows' (.ok level) (.ok level')

namespace Level.Agrees

variable {row : Row} {rest rest' rows rows' : List Row} {level level' inner inner' : Level}

theorem done (same : rows.filter Row.isLive = rows'.filter Row.isLive) : done.Agrees rows rows' .done :=
  ⟨rfl, rfl, rfl, same⟩

theorem skip (h : level.Agrees rest rows' level') : level.skip.Agrees (row :: rest) rows' level' :=
  ⟨h.children, h.fields, h.classes, h.behind⟩

theorem startClass (h : level.Agrees rest rest' level') :
    (level.startClass row).Agrees (row :: rest) (row :: rest') (level'.startClass row) := by
  refine ⟨rfl, rfl, ?_, h.behind⟩
  simp only [Level.startClass, h.fields, h.classes]

theorem startField (invariant : Bool) (h : level.Agrees rest rest' level') :
    (level.startField row invariant).Agrees (row :: rest) (row :: rest') (level'.startField row invariant) := by
  refine ⟨rfl, ?_, h.classes, h.behind⟩
  simp only [Level.startField, h.children, h.fields]

theorem nest (hi : inner.Agrees rows rows' inner')
    (h : level.Agrees (rows.drop inner.consumed) (rows'.drop inner'.consumed) level') :
    (inner.nest level).Agrees rows rows' (inner'.nest level') := by
  refine ⟨?_, h.fields, h.classes, ?_⟩
  · simp only [Level.nest, hi.classes, h.children]
  · simpa only [Level.nest, List.drop_drop] using h.behind

end Level.Agrees

theorem SameReading.bind {rows rows' all all' : List Row} {x y : Except RowFault Level}
    {f g : Level → Except RowFault Level} (h : SameReading rows rows' x y)
    (next : ∀ level level', x = .ok level → y = .ok level' → level.Agrees rows rows' level' →
      SameReading all all' (f level) (g level')) :
    SameReading all all' (x.bind f) (y.bind g) := by
  cases h with
  | fault f => exact .fault f
  | level agrees => exact next _ _ rfl rfl agrees

theorem SameReading.skip {row : Row} {rest rows' : List Row} {x y : Except RowFault Level}
    (h : SameReading rest rows' x y) :
    SameReading (row :: rest) rows' (x.bind fun level => .ok level.skip) y := by
  cases h with
  | fault f => exact .fault f
  | level agrees => exact .level agrees.skip

theorem readLevel_live (base : Nat) (owner : Owner) (rows : List Row) :
    SameReading rows (rows.filter Row.isLive) (readLevel base owner rows).result
      (readLevel base owner (rows.filter Row.isLive)).result := by
  -- Along the reading of all rows: whatever a live row adds, it adds to both levels.
  induction base, owner, rows using readLevel_induction with
  | nil base owner =>
    rw [List.filter_nil, readLevel]
    exact .level (.done rfl)
  | fault base owner row rest f step =>
    rw [List.filter_cons_of_pos (Row.isLive_of_step step (by simp))]
    simp only [readLevel_cons, step]
    exact .fault f
  | skip base owner row rest step ih =>
    rw [List.filter_cons_of_neg (Row.not_isLive_of_skip step), readLevel_cons]
    simp only [step, Logged.result_bind]
    exact ih.skip
  | finish base owner row rest step =>
    rw [List.filter_cons_of_pos (Row.isLive_of_step step (by simp))]
    simp only [readLevel_cons, step]
    refine .level (.done ?_)
    rw [List.filter_cons_of_pos (Row.isLive_of_step step (by simp)),
      List.filter_cons_of_pos (Row.isLive_of_step step (by simp)), List.filter_filter]
    simp
  | start base owner row rest layer step ih =>
    rw [List.filter_cons_of_pos (Row.isLive_of_step step (by simp))]
    simp only [readLevel_cons, step, Logged.result_bind]
    exact ih.bind fun level level' _ _ agrees => .level agrees.startClass
  | nest base owner row rest name step ihInner ih =>
    have live := Row.isLive_of_step step (by simp)
    rw [List.filter_cons_of_pos live] at ihInner ⊢
    rw [readLevel_cons base owner row rest, readLevel_cons base owner row (rest.filter Row.isLive)]
    simp only [step, Logged.result_bind]
    -- The nested table may take more rows in one run than in the other, but in both it takes the row that
    -- opens it, and behind it the same live rows are left.
    refine ihInner.bind fun inner inner' read read' agrees => ?_
    have after : (row :: rest).drop inner.consumed = rest.drop (inner.consumed - 1) :=
      drop_cons_of_pos (consumed_pos_of_nest step read)
    have after' : (row :: rest.filter Row.isLive).drop inner'.consumed =
        (rest.filter Row.isLive).drop (inner'.consumed - 1) :=
      drop_cons_of_pos (consumed_pos_of_nest step read')
    have behind : (rest.drop (inner.consumed - 1)).filter Row.isLive =
        (rest.filter Row.isLive).drop (inner'.consumed - 1) := by
      have live' : ∀ r ∈ (rest.filter Row.isLive).drop (inner'.consumed - 1), r.isLive = true := fun r hr =>
        (List.mem_filter.1 (List.mem_of_mem_drop hr)).2
      rw [← after, agrees.behind, after', List.filter_eq_self.2 live']
    have ih := ih (inner.consumed - 1)
    rw [behind] at ih
    exact ih.bind fun level level' _ _ inside => .level (agrees.nest (after ▸ after' ▸ inside))
  | member base owner row rest invariant step ih =>
    rw [List.filter_cons_of_pos (Row.isLive_of_step step (by simp))]
    simp only [readLevel_cons, step, Logged.result_bind]
    exact ih.bind fun level level' _ _ agrees => .level (agrees.startField invariant)

theorem SameReading.classes_eq {rows rows' : List Row} {x y : Except RowFault Level}
    (h : SameReading rows rows' x y) : x.map Level.classes = y.map Level.classes := by
  cases h with
  | fault f => rfl
  | level agrees => exact congrArg Except.ok agrees.classes

theorem buildForest_live (base : Nat) (rows : List Row) :
    (buildForest base (rows.filter Row.isLive)).result = (buildForest base rows).result := by
  rw [buildForest_result, buildForest_result]
  exact (readLevel_live base .nothing rows).classes_eq.symm

/-- Whatever its other cells hold, a deleted row changes neither the forest nor the fault of a build, and
so none of the deleted rows does. -/
theorem buildForest_deleted (base : Nat) (before after : List Row) {row : Row}
    (deleted : row.isDeleted = .ok true) :
    (buildForest base (before ++ [row] ++ after)).result = (buildForest base (before ++ after)).result ∧
      ∀ rows, (buildForest base (rows.filter Row.isLive)).result = (buildForest base rows).result := by
  refine ⟨?_, buildForest_live base⟩
  have same : (before ++ [row] ++ after).filter Row.isLive = (before ++ after).filter Row.isLive := by
    simp [Row.isLive_of_deleted deleted]
  rw [← buildForest_live, same, buildForest_live]

/-- The deleted row between a field and its nested table, and above both, can be left out. -/
theorem buildForest_without_draft :
    (Row.classStart 4 9 "Draft" "").markDeleted.isDeleted = .ok true ∧
      (buildForest 3 (orderTable.take 2 ++ orderTable.drop 3)).result = .ok orderForest := by
  have deleted : (Row.classStart 4 9 "Draft" "").markDeleted.isDeleted = .ok true := by decide +kernel
  have built : (buildForest 3 orderTable).result = .ok orderForest :=
    (buildForest_ok_iff (by decide)).2 ⟨_, scan_orderTable⟩
  have same := (buildForest_deleted 3 (orderTable.take 2) (orderTable.drop 3) deleted).1
  exact ⟨deleted, same.symm.trans built⟩

end ClassTable
