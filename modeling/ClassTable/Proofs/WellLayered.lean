import ClassTable.Proofs.Scan

set_option autoImplicit false

namespace ClassTable

/-- The live rows of a table with base layer `base`, up to the first one that lies below it. -/
def tableRows (base : Nat) (rows : List Row) : List Row :=
  (rows.filter Row.isLive).takeWhile fun r => !r.isBelow base

def Say (rows : List Row) (lines : List Line) : Prop :=
  List.Forall₂ (fun row line => row.line = .ok line) rows lines

/-- Layers that start at the class layer, never fall below it and rise by at most one from line to line. -/
def WellPlaced (base : Nat) : Option Nat → List Line → Prop
  | _, [] => True
  | last, line :: rest =>
    base ≤ line.layer + 1 ∧ Follows base last line.layer ∧ WellPlaced base (some line.layer) rest

namespace Row

variable {base layer : Nat} {r : Row}

theorem isLive_of_live (live : r.isDeleted = .ok false) : r.isLive = true := by
  simp only [isLive, live, Bool.not_false]

theorem isLive_of_deleted (flag : r.isDeleted = .ok true) : r.isLive = false := by
  simp only [isLive, flag, Bool.not_true]

theorem isBelow_iff (parse : r.layer = .ok layer) : r.isBelow base = true ↔ layer + 1 < base := by
  simp only [isBelow, parse, decide_eq_true_eq]

end Row

section Outcomes

variable {base : Nat} {last : Option Nat} {row : Row} {rows rest : List Row} {lines : List Line}
  {fault : RowFault}

theorem scan_ok (h : scan base last rows = .ok (lines, rest)) : Say (tableRows base rows) lines := by
  induction rows generalizing last lines with
  | nil =>
    cases h
    exact .nil
  | cons row rows ih =>
    obtain ⟨flag, h⟩ | ⟨live, ⟨layer, parse, low⟩, rfl, -⟩ |
      ⟨line, more, live, read, high, -, rfl, hmore⟩ := scan_cons_ok h
    · have skipped : tableRows base (row :: rows) = tableRows base rows := by
        simp [tableRows, Row.isLive_of_deleted flag]
      rw [skipped]
      exact ih h
    · have ended : tableRows base (row :: rows) = [] := by
        simp [tableRows, Row.isLive_of_live live, (Row.isBelow_iff parse).2 low]
      rw [ended]
      exact .nil
    · have notBelow : row.isBelow base ≠ true := by
        rw [Ne, Row.isBelow_iff (Row.layer_of_line read)]
        omega
      have kept : tableRows base (row :: rows) = row :: tableRows base rows := by
        simp [tableRows, Row.isLive_of_live live, notBelow]
      rw [kept]
      exact .cons read (ih hmore)

theorem scan_complete (flags : ∀ r ∈ rows, ∃ deleted, r.isDeleted = .ok deleted)
    (say : Say (rows.filter Row.isLive) lines) (placed : WellPlaced base last lines) :
    scan base last rows = .ok (lines, []) := by
  induction rows generalizing last lines with
  | nil =>
    cases say
    rfl
  | cons row rows ih =>
    obtain ⟨deleted, flag⟩ := flags row (List.mem_cons_self ..)
    have flags' : ∀ r ∈ rows, ∃ deleted, r.isDeleted = .ok deleted := fun r hr =>
      flags r (List.mem_cons_of_mem row hr)
    cases deleted with
    | true =>
      rw [List.filter_cons_of_neg (by simp [Row.isLive_of_deleted flag])] at say
      rw [scan_skip (Row.reading_eq (.deleted flag))]
      exact ih flags' say placed
    | false =>
      rw [List.filter_cons_of_pos (Row.isLive_of_live flag)] at say
      cases say with
      | cons read say =>
        obtain ⟨high, follows, placed⟩ := placed
        have taken := Row.reading_eq (.taken flag read high follows)
        rw [scan_take taken, ih flags' say placed]
        rfl

theorem scan_complete_iff :
    scan base last rows = .ok (lines, []) ↔
      (∀ r ∈ rows, ∃ deleted, r.isDeleted = .ok deleted) ∧
        Say (rows.filter Row.isLive) lines ∧ WellPlaced base last lines := by
  refine ⟨fun h => ?_, fun ⟨flags, say, placed⟩ => scan_complete flags say placed⟩
  induction rows generalizing last lines with
  | nil =>
    cases h
    exact ⟨by simp, .nil, trivial⟩
  | cons row rows ih =>
    obtain ⟨flag, h⟩ | ⟨-, -, -, h⟩ | ⟨line, more, live, read, high, follows, rfl, hmore⟩ :=
      scan_cons_ok h
    · obtain ⟨flags, say, placed⟩ := ih h
      rw [List.filter_cons_of_neg (by simp [Row.isLive_of_deleted flag])]
      exact ⟨List.forall_mem_cons.2 ⟨⟨true, flag⟩, flags⟩, say, placed⟩
    · cases h
    · obtain ⟨flags, say, placed⟩ := ih hmore
      rw [List.filter_cons_of_pos (Row.isLive_of_live live)]
      exact ⟨List.forall_mem_cons.2 ⟨⟨false, live⟩, flags⟩, .cons read say, high, follows, placed⟩

end Outcomes
end ClassTable
