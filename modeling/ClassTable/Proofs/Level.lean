import ClassTable.Layering
import ClassTable.Proofs.Scan

set_option autoImplicit false

namespace ClassTable

def Owner.lastLayer (base : Nat) : Owner → Option Nat
  | .nothing => none
  | .ofClass => some (base - 1)
  | .ofField _ => some base

/-- What is read behind an owner: only a field takes nested classes, and only an open class takes fields. -/
def Owner.Admits : Owner → Level → Prop
  | .nothing, level => level.children = [] ∧ level.fields = []
  | .ofClass, level => level.children = []
  | .ofField _, _ => True

def Level.lines (base : Nat) (level : Level) : List Line :=
  forestLayout (base + 1) level.children ++
    (fieldsLayout base level.fields ++ forestLayout (base - 1) level.classes)

def Level.split (base : Nat) (rows : List Row) (level : Level) : List Line × List Row :=
  (level.lines base, rows.drop level.consumed)

theorem nestedBase_eq {base layer : Nat} (odd : base % 2 = 1) (above : base < layer)
    (le : layer ≤ maxLayer) : nestedBase base = base + 2 := by
  unfold nestedBase
  unfold maxLayer at *
  omega

namespace Level

variable {base : Nat} {row : Row} {rest rows : List Row} {level inner : Level}

theorem split_startClass (odd : base % 2 = 1) (alone : level.children = []) :
    (level.startClass row).split base (row :: rest) =
      (.ofClass (base - 1) row.name row.description :: (level.split base rest).1,
        (level.split base rest).2) := by
  have step : base - 1 + 1 = base := by omega
  simp [split, lines, startClass, alone, step]

theorem split_startField {invariant : Bool} :
    (level.startField row invariant).split base (row :: rest) =
      (.ofField base row.name row.dataType row.initialValue row.description invariant
        :: (level.split base rest).1, (level.split base rest).2) := by
  simp [split, lines, startField]

theorem split_nest (noChildren : inner.children = []) (noFields : inner.fields = []) :
    (inner.nest level).split base rows =
      ((inner.split (base + 2) rows).1 ++ (level.split base (inner.split (base + 2) rows).2).1,
        (level.split base (inner.split (base + 2) rows).2).2) := by
  simp [split, lines, nest, noChildren, noFields, forestLayout_append, List.drop_drop]

end Level

namespace Owner

variable {base layer : Nat} {owner : Owner} {row : Row}

theorem follows_class (start : layer + 1 = base) : Follows base (owner.lastLayer base) layer := by
  cases owner <;> simp only [lastLayer, Follows] <;> omega

theorem follows_field (odd : base % 2 = 1) (some_ : owner ≠ .nothing) :
    Follows base (owner.lastLayer base) base := by
  cases owner with
  | nothing => exact absurd rfl some_
  | ofClass => simp only [lastLayer, Follows]; omega
  | ofField _ => simp only [lastLayer, Follows]; omega

theorem placeFault?_table (odd : base % 2 = 1) (above : base < layer)
    (noField : ∀ name, owner ≠ .ofField name) :
    row.placeFault? base (owner.lastLayer base) layer = some (.orphanTable row.index layer) := by
  cases owner with
  | nothing =>
    simp only [lastLayer, Row.placeFault?]
    rw [if_neg (by omega), if_neg (by omega)]
  | ofClass =>
    simp only [lastLayer, Row.placeFault?]
    rw [if_neg (by omega), if_neg (by omega)]
  | ofField name => exact absurd rfl (noField name)

theorem placeFault?_field :
    row.placeFault? base (lastLayer base .nothing) base =
      some (.orphanField row.index row.name base) := by
  simp only [lastLayer, Row.placeFault?]
  rw [if_neg (by omega), if_pos trivial]

end Owner

theorem readLevel_admits (base : Nat) (owner : Owner) (rows : List Row) {level : Level}
    (h : (readLevel base owner rows).result = .ok level) : owner.Admits level := by
  fun_induction readLevel base owner rows generalizing level with
  | case1 base owner | case5 base owner =>
    cases h
    cases owner <;> simp [Owner.Admits, Level.done]
  | case2 | case4 | case8 | case9 | case10 => cases h
  | case3 base owner row rest flag ih =>
    obtain ⟨-, -, h⟩ := Logged.result_bind_eq_ok.1 h
    obtain ⟨inner, hr, h⟩ := Logged.result_bind_eq_ok.1 h
    cases h
    have admits := ih hr
    cases owner <;> exact admits
  | case6 base owner row rest live layer parse low class_ ih =>
    obtain ⟨-, -, h⟩ := Logged.result_bind_eq_ok.1 h
    obtain ⟨inner, -, h⟩ := Logged.result_bind_eq_ok.1 h
    cases h
    cases owner <;> simp [Owner.Admits, Level.startClass]
  | case7 => trivial
  | case11 base owner row rest live layer parse low class_ above invariant flag some_ ih =>
    obtain ⟨inner, -, h⟩ := Logged.result_bind_eq_ok.1 h
    cases h
    cases owner with
    | nothing => exact absurd rfl some_
    | ofClass => rfl
    | ofField name => trivial

theorem drop_consumed {row : Row} {rest : List Row} {n : Nat}
    (h : (row :: rest).drop n <:+ rest) : (row :: rest).drop n = rest.drop (n - 1) := by
  cases n with
  | zero =>
    exact absurd h.length_le (Nat.not_succ_le_self rest.length)
  | succ n => rfl

/-- What a level reads is what a scan of its rows reads, line by line, up to the same row or fault. -/
theorem readLevel_scan {base : Nat} (odd : base % 2 = 1) (owner : Owner) (rows : List Row) :
    (readLevel base owner rows).result.map (Level.split base rows) =
      scan base (owner.lastLayer base) rows := by
  fun_induction readLevel base owner rows with
  | case1 base owner => rfl
  | case2 base owner row rest fault flag =>
    rw [scan_fault (Row.reading_eq (.flagFault flag))]
    rfl
  | case3 base owner row rest flag ih =>
    rw [scan_skip (Row.reading_eq (.deleted flag)), ← ih odd]
    simp only [Logged.result_bind, Logged.result_tell, Logged.result_pure]
    cases (readLevel base owner rest).result <;> rfl
  | case4 base owner row rest live fault parse =>
    rw [scan_fault (Row.reading_eq (.layerFault live parse))]
    rfl
  | case5 base owner row rest live layer parse low =>
    rw [scan_stop (Row.reading_eq (.below live parse low))]
    rfl
  | case6 base owner row rest live layer parse low class_ ih =>
    obtain ⟨start, even⟩ := class_
    have read := Row.line_of_even parse even
    have last : some layer = Owner.ofClass.lastLayer base := by
      simp only [Owner.lastLayer, ← start, Nat.add_sub_cancel]
    rw [scan_take (Row.reading_eq (.taken live read (Nat.le_of_not_lt low) (Owner.follows_class start))),
      Line.layer_ofClass, last, ← ih odd]
    simp only [Logged.result_bind, Logged.result_tell, Logged.result_pure]
    cases hr : (readLevel base .ofClass rest).result with
    | error fault => rfl
    | ok level =>
      have alone : level.children = [] := readLevel_admits base .ofClass rest hr
      change Except.ok _ = Except.ok _
      rw [Level.split_startClass odd alone, ← start, Nat.add_sub_cancel]
  | case7 base row rest live layer parse low class_ above name ihInner ih =>
    -- The nested level is the scan with base `base + 2`, which takes this row; the field stays open behind it.
    have nested : nestedBase base = base + 2 := nestedBase_eq odd above (Row.layer_le parse)
    rw [nested] at ihInner
    simp only [Owner.lastLayer] at ih ihInner ⊢
    rw [scan_nested odd live parse above, ← ihInner (by omega)]
    simp only [Logged.result_bind, Logged.result_tell, Logged.result_pure, nested]
    cases hr : (readLevel (base + 2) .nothing (row :: rest)).result with
    | error fault => rfl
    | ok inner =>
      rw [hr] at ihInner
      have read : scan (base + 2) none (row :: rest) = .ok (inner.split (base + 2) (row :: rest)) :=
        (ihInner (by omega)).symm
      have advance : (row :: rest).drop inner.consumed = rest.drop (inner.consumed - 1) :=
        drop_consumed (scan_advances live parse (by omega) read)
      obtain ⟨noChildren, noFields⟩ := readLevel_admits (base + 2) .nothing (row :: rest) hr
      change ((readLevel base (.ofField name) (rest.drop (inner.consumed - 1))).result.bind fun level =>
          .ok (inner.nest level)).map _ = (scan base (some base) ((row :: rest).drop inner.consumed)).map _
      rw [advance, ← ih inner odd]
      cases (readLevel base (.ofField name) (rest.drop (inner.consumed - 1))).result with
      | error fault => rfl
      | ok level =>
        change Except.ok _ = Except.ok _
        rw [Level.split_nest noChildren noFields]
        simp only [Level.split, advance]
  | case8 base owner row rest live layer parse low class_ above noField =>
    have place : row.placeFault? base (owner.lastLayer base) layer = _ :=
      Owner.placeFault?_table odd above noField
    rw [scan_fault (Row.reading_eq (.misplaced live parse (Nat.le_of_not_lt low) place))]
    rfl
  | case9 base row rest live layer parse low class_ above =>
    obtain rfl : layer = base := by omega
    rw [scan_fault (Row.reading_eq
      (.misplaced live parse (Nat.le_of_not_lt low) Owner.placeFault?_field))]
    rfl
  | case10 base owner row rest live layer parse low class_ above fault flag some_ =>
    obtain rfl : layer = base := by omega
    rw [scan_fault (Row.reading_eq
      (.invariantFault live parse (Nat.le_of_not_lt low) (Owner.follows_field odd some_) odd flag))]
    rfl
  | case11 base owner row rest live layer parse low class_ above invariant flag some_ ih =>
    obtain rfl : layer = base := by omega
    have read := Row.line_of_odd parse odd flag
    rw [scan_take (Row.reading_eq
      (.taken live read (Nat.le_of_not_lt low) (Owner.follows_field odd some_))), Line.layer_ofField]
    have ih := ih odd
    simp only [Owner.lastLayer] at ih
    rw [← ih]
    simp only [Logged.result_bind, Logged.result_pure]
    cases (readLevel layer (.ofField row.name) rest).result with
    | error fault => rfl
    | ok level =>
      change Except.ok _ = Except.ok _
      rw [Level.split_startField]

end ClassTable
