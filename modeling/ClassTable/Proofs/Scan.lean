import ClassTable.Proofs.Layout
import Mathlib.Data.List.Forall2

/-!
Tables read row by row, without nesting.  The scan keeps nothing but the layer of the last live row: in a
table with base layer `b` the first live row lies at `b - 1`, each next one at most one layer deeper than
the row before it, and a live row below `b - 1` ends the table.  `scan_nested` says that for an odd base
such a scan may hand over to one with base `b + 2` and take its end as a place to go on.
-/

set_option autoImplicit false

namespace ClassTable

namespace Row

def isLive (r : Row) : Bool :=
  match r.isDeleted with
  | .ok deleted => !deleted
  | .error _ => true

def isBelow (base : Nat) (r : Row) : Bool :=
  match r.layer with
  | .ok layer => layer + 1 < base
  | .error _ => false

/-- The line that a live row stands for: a class on an even layer, a field on an odd one. -/
def line (r : Row) : Except RowFault Line :=
  match r.layer with
  | .error fault => .error fault
  | .ok layer =>
    if layer % 2 = 0 then .ok (.ofClass layer r.name r.description)
    else
      match r.isInvariant with
      | .error fault => .error fault
      | .ok invariant =>
        .ok (.ofField layer r.name r.dataType r.initialValue r.description invariant)

def placeFault? (base : Nat) (last : Option Nat) (layer : Nat) (r : Row) : Option RowFault :=
  match last with
  | none =>
    if layer + 1 = base then none
    else if layer = base then some (.orphanField r.index r.name layer)
    else some (.orphanTable r.index layer)
  | some previous =>
    if layer ≤ previous + 1 then none
    else if previous % 2 = 1 ∧ layer = previous + 2 then some (.orphanField r.index r.name layer)
    else some (.orphanTable r.index layer)

end Row

/-- A live row at `layer` can follow one at `last`, or come first. -/
def Follows (base : Nat) (last : Option Nat) (layer : Nat) : Prop :=
  match last with
  | none => layer + 1 = base
  | some previous => layer ≤ previous + 1

inductive Reading where
  | skip
  | stop
  | take (line : Line)
deriving DecidableEq, Repr

def Row.reading (base : Nat) (last : Option Nat) (r : Row) : Except RowFault Reading :=
  match r.isDeleted with
  | .error fault => .error fault
  | .ok true => .ok .skip
  | .ok false =>
    match r.layer with
    | .error fault => .error fault
    | .ok layer =>
      if layer + 1 < base then .ok .stop
      else
        match r.placeFault? base last layer with
        | some fault => .error fault
        | none => r.line.map .take

/-- The lines of a table, and the rows from the one that ends it. -/
def scan (base : Nat) (last : Option Nat) : List Row → Except RowFault (List Line × List Row)
  | [] => .ok ([], [])
  | row :: rest =>
    match row.reading base last with
    | .error fault => .error fault
    | .ok .skip => scan base last rest
    | .ok .stop => .ok ([], row :: rest)
    | .ok (.take line) =>
      (scan base (some line.layer) rest).map fun (lines, rest) => (line :: lines, rest)

/-- The rules for one row, each with what it needs to know of the row. -/
inductive Row.Reads (base : Nat) (last : Option Nat) (r : Row) : Except RowFault Reading → Prop
  | flagFault {fault : RowFault} (flag : r.isDeleted = .error fault) : Reads base last r (.error fault)
  | deleted (flag : r.isDeleted = .ok true) : Reads base last r (.ok .skip)
  | layerFault {fault : RowFault} (live : r.isDeleted = .ok false) (parse : r.layer = .error fault) :
      Reads base last r (.error fault)
  | below {layer : Nat} (live : r.isDeleted = .ok false) (parse : r.layer = .ok layer)
      (low : layer + 1 < base) : Reads base last r (.ok .stop)
  | misplaced {layer : Nat} {fault : RowFault} (live : r.isDeleted = .ok false)
      (parse : r.layer = .ok layer) (high : base ≤ layer + 1)
      (place : r.placeFault? base last layer = some fault) : Reads base last r (.error fault)
  | invariantFault {layer : Nat} {fault : RowFault} (live : r.isDeleted = .ok false)
      (parse : r.layer = .ok layer) (high : base ≤ layer + 1)
      (follows : Follows base last layer) (odd : layer % 2 = 1)
      (flag : r.isInvariant = .error fault) : Reads base last r (.error fault)
  | taken {line : Line} (live : r.isDeleted = .ok false) (read : r.line = .ok line)
      (high : base ≤ line.layer + 1) (follows : Follows base last line.layer) :
      Reads base last r (.ok (.take line))

namespace Row

variable {base layer : Nat} {last : Option Nat} {r : Row} {l : Line} {fault : RowFault}

theorem placeFault?_eq_none_iff : r.placeFault? base last layer = none ↔ Follows base last layer := by
  unfold placeFault? Follows
  cases last with
  | none =>
    by_cases h : layer + 1 = base
    · simp [h]
    · simp only [h, if_false, iff_false]
      split <;> simp
  | some previous =>
    by_cases h : layer ≤ previous + 1
    · simp [h]
    · simp only [h, if_false, iff_false]
      split <;> simp

theorem row_of_flag_error {column : Column} (h : r.flag column = .error fault) :
    fault.row = r.index := by
  unfold flag at h
  split at h
  · cases h
  · cases h
    rfl

theorem row_of_layer_error (h : r.layer = .error fault) : fault.row = r.index := by
  unfold Row.layer at h
  split at h
  · cases h
  · cases h
    rfl

theorem line_of_even (parse : r.layer = .ok layer) (even : layer % 2 = 0) :
    r.line = .ok (.ofClass layer r.name r.description) := by
  simp only [line, parse, even, if_true]

theorem line_of_odd {invariant : Bool} (parse : r.layer = .ok layer) (odd : layer % 2 = 1)
    (flag : r.isInvariant = .ok invariant) :
    r.line = .ok (.ofField layer r.name r.dataType r.initialValue r.description invariant) := by
  simp only [line, parse, odd, flag, Nat.one_ne_zero, if_false]

theorem line_of_invariant_fault (parse : r.layer = .ok layer) (odd : layer % 2 = 1)
    (flag : r.isInvariant = .error fault) : r.line = .error fault := by
  simp only [line, parse, odd, flag, Nat.one_ne_zero, if_false]

theorem layer_of_line (h : r.line = .ok l) : r.layer = .ok l.layer := by
  unfold line at h
  split at h
  · cases h
  · rename_i layer parse
    split at h
    · cases h
      exact parse
    · split at h
      · cases h
      · cases h
        exact parse

theorem exists_reads (base : Nat) (last : Option Nat) (r : Row) :
    ∃ result, r.Reads base last result := by
  cases flag : r.isDeleted with
  | error fault => exact ⟨_, .flagFault flag⟩
  | ok deleted =>
    cases deleted with
    | true => exact ⟨_, .deleted flag⟩
    | false =>
      cases parse : r.layer with
      | error fault => exact ⟨_, .layerFault flag parse⟩
      | ok layer =>
        by_cases high : base ≤ layer + 1
        · cases place : r.placeFault? base last layer with
          | some fault => exact ⟨_, .misplaced flag parse high place⟩
          | none =>
            have follows := placeFault?_eq_none_iff.1 place
            rcases Nat.mod_two_eq_zero_or_one layer with even | odd
            · exact ⟨_, .taken flag (line_of_even parse even) high follows⟩
            · cases invariant : r.isInvariant with
              | error fault => exact ⟨_, .invariantFault flag parse high follows odd invariant⟩
              | ok b => exact ⟨_, .taken flag (line_of_odd parse odd invariant) high follows⟩
        · exact ⟨_, .below flag parse (Nat.lt_of_not_le high)⟩

theorem reading_eq {result : Except RowFault Reading} (h : r.Reads base last result) :
    r.reading base last = result := by
  cases h with
  | flagFault flag => simp only [reading, flag]
  | deleted flag => simp only [reading, flag]
  | layerFault live parse => simp only [reading, live, parse]
  | below live parse low => simp only [reading, live, parse, low, if_true]
  | misplaced live parse high place =>
    simp only [reading, live, parse, Nat.not_lt.2 high, place, if_false]
  | invariantFault live parse high follows odd flag =>
    simp only [reading, live, parse, Nat.not_lt.2 high, placeFault?_eq_none_iff.2 follows, if_false,
      line_of_invariant_fault parse odd flag, Except.map]
  | taken live read high follows =>
    simp only [reading, live, layer_of_line read, Nat.not_lt.2 high, placeFault?_eq_none_iff.2 follows,
      if_false, read, Except.map]

theorem reading_congr {last' : Option Nat}
    (h : ∀ layer, r.layer = .ok layer → base ≤ layer + 1 →
      r.placeFault? base last layer = r.placeFault? base last' layer) :
    r.reading base last = r.reading base last' := by
  obtain ⟨result, h'⟩ := r.exists_reads base last'
  rw [reading_eq h']
  apply reading_eq
  cases h' with
  | flagFault flag => exact .flagFault flag
  | deleted flag => exact .deleted flag
  | layerFault live parse => exact .layerFault live parse
  | below live parse low => exact .below live parse low
  | misplaced live parse high place => exact .misplaced live parse high ((h _ parse high).trans place)
  | invariantFault live parse high follows odd flag =>
    have place := (h _ parse high).trans (placeFault?_eq_none_iff.2 follows)
    exact .invariantFault live parse high (placeFault?_eq_none_iff.1 place) odd flag
  | taken live read high follows =>
    have place := (h _ (layer_of_line read) high).trans (placeFault?_eq_none_iff.2 follows)
    exact .taken live read high (placeFault?_eq_none_iff.1 place)

theorem follows_nested (above : base < layer) : Follows (base + 2) none layer ↔ Follows base (some base) layer := by
  simp only [Follows]
  omega

/-- The first row of a nested table is judged as one that follows the field it belongs to. -/
theorem placeFault?_nested (odd : base % 2 = 1) (above : base < layer) :
    r.placeFault? (base + 2) none layer = r.placeFault? base (some base) layer := by
  unfold placeFault?
  simp only [odd, true_and]
  by_cases first : layer = base + 1
  · rw [if_pos (by omega), if_pos (by omega)]
  · rw [if_neg (show ¬layer + 1 = base + 2 by omega), if_neg (show ¬layer ≤ base + 1 by omega)]

end Row

section Scan

variable {base : Nat} {last : Option Nat} {row : Row} {rest : List Row} {fault : RowFault} {l : Line}

theorem scan_fault (h : row.reading base last = .error fault) :
    scan base last (row :: rest) = .error fault := by
  simp only [scan, h]

theorem scan_skip (h : row.reading base last = .ok .skip) :
    scan base last (row :: rest) = scan base last rest := by
  simp only [scan, h]

theorem scan_stop (h : row.reading base last = .ok .stop) :
    scan base last (row :: rest) = .ok ([], row :: rest) := by
  simp only [scan, h]

theorem scan_take (h : row.reading base last = .ok (.take l)) :
    scan base last (row :: rest) =
      (scan base (some l.layer) rest).map fun read => (l :: read.1, read.2) := by
  simp only [scan, h]

theorem map_cons_eq_ok {lines : List Line} {x : Except RowFault (List Line × List Row)}
    (h : (x.map fun read => (l :: read.1, read.2)) = .ok (lines, rest)) :
    ∃ more, lines = l :: more ∧ x = .ok (more, rest) := by
  cases x with
  | error fault => cases h
  | ok read =>
    cases h
    exact ⟨read.1, rfl, rfl⟩

theorem scan_cons_ok {rows : List Row} {lines : List Line}
    (h : scan base last (row :: rows) = .ok (lines, rest)) :
    (row.isDeleted = .ok true ∧ scan base last rows = .ok (lines, rest)) ∨
    (row.isDeleted = .ok false ∧ (∃ layer, row.layer = .ok layer ∧ layer + 1 < base) ∧
      lines = [] ∧ rest = row :: rows) ∨
    ∃ line more, row.isDeleted = .ok false ∧ row.line = .ok line ∧ base ≤ line.layer + 1 ∧
      Follows base last line.layer ∧ lines = line :: more ∧
      scan base (some line.layer) rows = .ok (more, rest) := by
  obtain ⟨result, hr⟩ := row.exists_reads base last
  have here := Row.reading_eq hr
  cases hr with
  | flagFault | layerFault | misplaced | invariantFault =>
    rw [scan_fault here] at h
    cases h
  | deleted flag =>
    rw [scan_skip here] at h
    exact .inl ⟨flag, h⟩
  | below live parse low =>
    rw [scan_stop here] at h
    cases h
    exact .inr (.inl ⟨live, ⟨_, parse, low⟩, rfl, rfl⟩)
  | taken live read high follows =>
    rw [scan_take here] at h
    obtain ⟨more, rfl, hmore⟩ := map_cons_eq_ok h
    exact .inr (.inr ⟨_, more, live, read, high, follows, rfl, hmore⟩)

theorem scan_suffix {rows : List Row} {lines : List Line}
    (h : scan base last rows = .ok (lines, rest)) : rest <:+ rows := by
  induction rows generalizing last lines with
  | nil =>
    cases h
    exact List.suffix_refl []
  | cons row rows ih =>
    obtain ⟨-, h⟩ | ⟨-, -, -, rfl⟩ | ⟨_, _, -, -, -, -, -, h⟩ := scan_cons_ok h
    · exact (ih h).trans (List.suffix_cons row rows)
    · exact List.suffix_refl _
    · exact (ih h).trans (List.suffix_cons row rows)

theorem scan_advances {layer : Nat} {rows : List Row} {lines : List Line}
    (live : row.isDeleted = .ok false) (parse : row.layer = .ok layer) (high : base ≤ layer + 1)
    (h : scan base last (row :: rows) = .ok (lines, rest)) : rest <:+ rows := by
  obtain ⟨flag, -⟩ | ⟨-, ⟨_, parse', low⟩, -, -⟩ | ⟨_, _, -, -, -, -, -, h⟩ := scan_cons_ok h
  · cases live.symm.trans flag
  · obtain rfl := Except.ok.inj (parse.symm.trans parse')
    omega
  · exact scan_suffix h

theorem scan_congr {last' : Option Nat} (live : row.isDeleted = .ok false)
    (same : row.reading base last = row.reading base last') :
    scan base last (row :: rest) = scan base last' (row :: rest) := by
  obtain ⟨result, h⟩ := row.exists_reads base last'
  have here := Row.reading_eq h
  cases h with
  | deleted flag => cases live.symm.trans flag
  | taken => rw [scan_take here, scan_take (same.trans here)]
  | below => rw [scan_stop here, scan_stop (same.trans here)]
  | flagFault | layerFault | misplaced | invariantFault =>
    rw [scan_fault here, scan_fault (same.trans here)]

def resume (base : Nat) (nested : List Line × List Row) : Except RowFault (List Line × List Row) :=
  (scan base (some base) nested.2).map fun read => (nested.1 ++ read.1, read.2)

theorem resume_nil (base : Nat) (rows : List Row) : resume base ([], rows) = scan base (some base) rows := by
  unfold resume
  cases scan base (some base) rows <;> rfl

theorem resume_cons (base : Nat) (l : Line) (nested : List Line × List Row) :
    resume base (l :: nested.1, nested.2) =
      (resume base nested).map fun read => (l :: read.1, read.2) := by
  unfold resume
  cases scan base (some base) nested.2 <;> rfl

theorem bind_map_cons (l : Line) (x : Except RowFault (List Line × List Row)) :
    (x.map fun read => (l :: read.1, read.2)).bind (resume base) =
      (x.bind (resume base)).map fun read => (l :: read.1, read.2) := by
  cases x with
  | error fault => rfl
  | ok nested => exact resume_cons base l nested

/-- Above the fields of a table the scan is that of a nested table, until a row lies lower. -/
theorem scan_resume {previous : Nat} (deep : base + 1 ≤ previous) (rows : List Row) :
    scan base (some previous) rows = (scan (base + 2) (some previous) rows).bind (resume base) := by
  induction rows generalizing previous with
  | nil => rfl
  | cons row rest ih =>
    obtain ⟨result, h⟩ := row.exists_reads (base + 2) (some previous)
    have inner := Row.reading_eq h
    cases h with
    | flagFault flag =>
      rw [scan_fault inner, scan_fault (Row.reading_eq (.flagFault flag))]
      rfl
    | deleted flag =>
      rw [scan_skip inner, scan_skip (Row.reading_eq (.deleted flag)), ih deep]
    | layerFault live parse =>
      rw [scan_fault inner, scan_fault (Row.reading_eq (.layerFault live parse))]
      rfl
    | below live parse low =>
      -- The nested table ends here; a row this low can follow `base` just as well as `previous`.
      have same : row.reading base (some previous) = row.reading base (some base) := by
        refine Row.reading_congr fun n hn _ => ?_
        obtain rfl : _ = n := Except.ok.inj (parse.symm.trans hn)
        unfold Row.placeFault?
        simp only
        rw [if_pos (by omega), if_pos (by omega)]
      rw [scan_stop inner, scan_congr live same]
      exact (resume_nil base (row :: rest)).symm
    | misplaced live parse high place =>
      have outer : row.reading base (some previous) = _ := Row.reading_eq (.misplaced live parse (by omega) place)
      rw [scan_fault inner, scan_fault outer]
      rfl
    | invariantFault live parse high follows odd flag =>
      have outer : row.reading base (some previous) = _ :=
        Row.reading_eq (.invariantFault live parse (by omega) follows odd flag)
      rw [scan_fault inner, scan_fault outer]
      rfl
    | taken live read high follows =>
      have outer : row.reading base (some previous) = _ :=
        Row.reading_eq (.taken live read (by omega) follows)
      rw [scan_take inner, scan_take outer, ih (by omega), bind_map_cons]

theorem scan_nested {layer : Nat} (odd : base % 2 = 1) (live : row.isDeleted = .ok false)
    (parse : row.layer = .ok layer) (above : base < layer) :
    scan base (some base) (row :: rest) = (scan (base + 2) none (row :: rest)).bind (resume base) := by
  obtain ⟨result, h⟩ := row.exists_reads (base + 2) none
  have inner := Row.reading_eq h
  cases h with
  | flagFault flag => cases live.symm.trans flag
  | deleted flag => cases live.symm.trans flag
  | layerFault _ fault => cases parse.symm.trans fault
  | below _ parse' low =>
    obtain rfl := Except.ok.inj (parse.symm.trans parse')
    omega
  | misplaced _ parse' high place =>
    obtain rfl := Except.ok.inj (parse.symm.trans parse')
    rw [Row.placeFault?_nested odd above] at place
    rw [scan_fault inner, scan_fault (Row.reading_eq (.misplaced live parse (by omega) place))]
    rfl
  | invariantFault _ parse' high follows odd' flag =>
    obtain rfl := Except.ok.inj (parse.symm.trans parse')
    have outer := Row.reading_eq
      (.invariantFault live parse (by omega) ((Row.follows_nested above).1 follows) odd' flag)
    rw [scan_fault inner, scan_fault outer]
    rfl
  | taken _ read high follows =>
    obtain rfl := Except.ok.inj (parse.symm.trans (Row.layer_of_line read))
    have outer := Row.reading_eq (.taken live read (by omega) ((Row.follows_nested above).1 follows))
    rw [scan_take inner, scan_take outer, scan_resume (by omega), bind_map_cons]

end Scan
end ClassTable
