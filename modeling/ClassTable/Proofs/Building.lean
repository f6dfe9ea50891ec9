import ClassTable.Proofs.Cells
import ClassTable.Proofs.Level
import ClassTable.Proofs.WellLayered

set_option autoImplicit false

namespace ClassTable

section Outcome

variable {base : Nat} {rows : List Row} {forest : List ClassDef}

theorem buildForest_result (base : Nat) (rows : List Row) :
    (buildForest base rows).result = (readLevel base .nothing rows).result.map Level.classes := by
  simp only [buildForest, buildLevel, Logged.result_bind, Logged.result_pure, Logged.result_tell]
  cases (readLevel base .nothing rows).result <;> rfl

theorem lines_of_nothing {level : Level} (h : (readLevel base .nothing rows).result = .ok level) :
    level.lines base = forestLayout (base - 1) level.classes := by
  obtain ⟨noChildren, noFields⟩ := readLevel_admits base .nothing rows h
  simp [Level.lines, noChildren, noFields]

theorem buildForest_ok_iff (odd : base % 2 = 1) :
    (buildForest base rows).result = .ok forest ↔
      ∃ rest, scan base none rows = .ok (forestLayout (base - 1) forest, rest) := by
  have read : _ = scan base none rows := readLevel_scan odd .nothing rows
  rw [buildForest_result, ← read]
  cases h : (readLevel base .nothing rows).result with
  | error fault => simp [Except.map]
  | ok level =>
    have lines := lines_of_nothing h
    simp only [Except.map, Level.split, lines, Except.ok.injEq, Prod.mk.injEq, exists_and_left]
    constructor
    · rintro rfl
      exact ⟨rfl, _, rfl⟩
    · rintro ⟨same, -⟩
      exact forestLayout_inj same

theorem buildForest_error_iff (odd : base % 2 = 1) {fault : RowFault} :
    (buildForest base rows).result = .error fault ↔ scan base none rows = .error fault := by
  have read : _ = scan base none rows := readLevel_scan odd .nothing rows
  rw [buildForest_result, ← read]
  cases (readLevel base .nothing rows).result <;> simp [Except.map]

theorem buildForest_isOk_iff (odd : base % 2 = 1) :
    (∃ forest, (buildForest base rows).result = .ok forest) ↔ ∃ read, scan base none rows = .ok read := by
  constructor
  · rintro ⟨forest, built⟩
    obtain ⟨rest, read⟩ := (buildForest_ok_iff odd).1 built
    exact ⟨_, read⟩
  · rintro ⟨read, h⟩
    cases built : (buildForest base rows).result with
    | ok forest => exact ⟨forest, rfl⟩
    | error fault => cases h.symm.trans ((buildForest_error_iff odd).1 built)

end Outcome

/-- Laid out again, a forest gives the lines of the live rows before the one that ends the table, one for
one and in table order. -/
theorem say_of_buildForest {base : Nat} {rows : List Row} {forest : List ClassDef} (odd : base % 2 = 1)
    (built : (buildForest base rows).result = .ok forest) :
    Say (tableRows base rows) (forestLayout (base - 1) forest) := by
  obtain ⟨rest, read⟩ := (buildForest_ok_iff odd).1 built
  exact scan_ok read

/-- A table for base layer 3, with a nested table, a deleted row, and a row that ends it. -/
def orderTable : List Row :=
  [.classStart 2 2 "Order" "One order", .field 3 3 " items" "List" true,
    (Row.classStart 4 9 "Draft" "").markDeleted, .classStart 5 4 "Item" "", .field 6 5 "sku" "String" false,
    .field 7 3 "total" "Long" false, .classStart 8 0 "Customer" "", .empty]

def orderForest : List ClassDef :=
  [⟨"Order", "One order",
    [⟨"items", "List", "", "", true, [⟨"Item", "", [⟨"sku", "String", "", "", false, []⟩]⟩]⟩,
      ⟨"total", "Long", "", "", false, []⟩]⟩]

theorem scan_orderTable :
    scan 3 none orderTable = .ok (forestLayout 2 orderForest, [.classStart 8 0 "Customer" "", .empty]) := by
  decide +kernel

theorem say_of_orderTable :
    3 % 2 = 1 ∧ (buildForest 3 orderTable).result = .ok orderForest ∧
      Say (tableRows 3 orderTable) (forestLayout 2 orderForest) := by
  have built : (buildForest 3 orderTable).result = .ok orderForest :=
    (buildForest_ok_iff (by decide)).2 ⟨_, scan_orderTable⟩
  exact ⟨by decide, built, say_of_buildForest (by decide) built⟩

end ClassTable
