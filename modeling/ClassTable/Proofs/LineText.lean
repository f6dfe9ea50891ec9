import ClassTable.Proofs.Template.Indenting
import ClassTable.Text.Naming

set_option autoImplicit false

namespace ClassTable

open Template Template.Writer

def linesText (lines : List String) : String := String.join (lines.map (· ++ "\n"))

def NoBreak (s : String) : Prop := ∀ c ∈ s.toList, isLineEnd c = false

def IsLine (s : String) : Prop := NoBreak s ∧ s ≠ ""

instance (s : String) : Decidable (NoBreak s) := List.decidableBAll _ s.toList

instance (s : String) : Decidable (IsLine s) := inferInstanceAs (Decidable (_ ∧ _))

section Lines

variable {indent s t : String} {ls ms texts : List String}

@[simp] theorem linesText_nil : linesText [] = "" := String.join_nil

@[simp] theorem linesText_cons : linesText (s :: ls) = s ++ ("\n" ++ linesText ls) := by
  simp [linesText, String.append_assoc]

@[simp] theorem linesText_append : linesText (ls ++ ms) = linesText ls ++ linesText ms := by
  simp [linesText]

theorem noBreak_append : NoBreak (s ++ t) ↔ NoBreak s ∧ NoBreak t := by
  simp only [NoBreak, String.toList_append, List.forall_mem_append]

theorem isSmooth_of_noBreak {cs : List Char} (h : ∀ c ∈ cs, isLineEnd c = false) : isSmooth cs = true := by
  induction cs with
  | nil => rfl
  | cons c cs ih =>
    obtain ⟨first, rest⟩ := List.forall_mem_cons.1 h
    have noReturn : c ≠ '\r' := fun same => by simp [same, isLineEnd] at first
    have noFeed : c ≠ '\n' := fun same => by simp [same, isLineEnd] at first
    simp [isSmooth, noReturn, noFeed, ih rest]

theorem NoBreak.fits (h : NoBreak s) : Fits indent s := .inr (isSmooth_of_noBreak h)

theorem indentChars_of_noBreak {indent cs : List Char} (h : ∀ c ∈ cs, isLineEnd c = false) :
    indentChars indent false cs = cs := by
  induction cs with
  | nil => rfl
  | cons c cs ih =>
    obtain ⟨first, rest⟩ := List.forall_mem_cons.1 h
    simp [indentChars, first, ih rest]

theorem endsLine_of_isLine (h : IsLine s) : endsLine true s.toList = false := by
  unfold endsLine
  cases last : s.toList.getLast? with
  | none => exact absurd (String.toList_eq_nil_iff.1 (List.getLast?_eq_none_iff.1 last)) h.2
  | some c => exact h.1 c (List.mem_of_getLast? last)

theorem indented_of_isLine (h : IsLine s) : indented indent true s = indent ++ s := by
  obtain ⟨noBreak, nonempty⟩ := h
  apply String.toList_inj.1
  unfold NoBreak at noBreak
  cases cs : s.toList with
  | nil => exact absurd (String.toList_eq_nil_iff.1 cs) nonempty
  | cons c rest =>
    rw [cs] at noBreak
    obtain ⟨first, more⟩ := List.forall_mem_cons.1 noBreak
    simp [indented, cs, indentChars, first, indentChars_of_noBreak more]

theorem indented_linesText (h : ∀ l ∈ ls, IsLine l) :
    indented indent true (linesText ls) = linesText (ls.map (indent ++ ·)) := by
  induction ls with
  | nil => rfl
  | cons l ls ih =>
    obtain ⟨line, rest⟩ := List.forall_mem_cons.1 h
    have feed : indented indent false "\n" = "\n" := rfl
    have ended : endsLine false "\n".toList = true := rfl
    rw [linesText_cons, indented_append, indented_of_isLine line, endsLine_of_isLine line, indented_append,
      feed, ended, ih rest, List.map_cons, linesText_cons, String.append_assoc]

theorem noBreak_intercalate (h : ∀ t ∈ texts, NoBreak t) :
    NoBreak (String.intercalate ", " texts) := by
  induction texts with
  | nil => decide
  | cons t rest ih =>
    obtain ⟨first, more⟩ := List.forall_mem_cons.1 h
    cases rest with
    | nil => simpa using first
    | cons u us =>
      rw [String.intercalate_cons_cons, noBreak_append, noBreak_append]
      exact ⟨⟨first, by decide⟩, ih more⟩

theorem adds_lines {α : Type} {lines : α → List String} {write : α → Writer → Writer} {xs : List α}
    (each : ∀ x ∈ xs, Adds indent (linesText (lines x)) (write x)) :
    Adds indent (linesText (xs.flatMap lines)) (inOrder (xs.map write)) := by
  refine (adds_map each).of_eq ?_
  clear each
  induction xs with
  | nil => rfl
  | cons x xs ih => rw [List.map_cons, String.join_cons, ih, List.flatMap_cons, linesText_append]

end Lines

section Names

/-- A number that is no character stands for the null character. -/
theorem isLineEnd_ofNat {n : Nat} (h : 13 < n) : isLineEnd (Char.ofNat n) = false := by
  have apart : ∀ c : Char, c.toNat ≤ 13 → c.toNat ≠ 0 → Char.ofNat n ≠ c := by
    rintro c small nonzero rfl
    by_cases valid : n.isValidChar
    · have same : (Char.ofNat n).toNat = n := by
        rw [Char.ofNat, dif_pos valid]
        rfl
      omega
    · rw [Char.ofNat, dif_neg valid] at nonzero
      exact nonzero rfl
  simp [isLineEnd, apart '\n' (by decide) (by decide), apart '\r' (by decide) (by decide)]

theorem isLineEnd_toUpper {c : Char} (ascii : Text.isAscii c = true) (h : isLineEnd c = false) :
    isLineEnd c.toUpper = false := by
  have table : ∀ n < 0x80, isLineEnd (Char.ofNat n) = false → isLineEnd (Char.ofNat n).toUpper = false := by
    decide
  rw [← Char.ofNat_toNat c] at h ⊢
  exact table _ (by simpa [Text.isAscii] using ascii) h

theorem isLineEnd_mapByRuns {c : Char} (h : isLineEnd c = false) :
    isLineEnd (Text.mapByRuns Text.upperRuns c) = false := by
  have images : ∀ r ∈ Text.upperRuns, 13 < (r.first : Int) + r.shift := by decide +kernel
  unfold Text.mapByRuns
  split
  case h_1 r found =>
    have covers := List.find?_some found
    simp only [Text.CaseRun.covers, Bool.and_eq_true, decide_eq_true_eq] at covers
    have reached : r.first ≤ c.toNat := covers.1.1
    have image := images r (List.mem_of_find?_eq_some found)
    exact isLineEnd_ofNat (by unfold Text.CaseRun.move; omega)
  case h_2 => exact h

theorem isLineEnd_of_mem_upperChar {c d : Char} (h : isLineEnd c = false) (mem : d ∈ Text.upperChar c) :
    isLineEnd d = false := by
  have images : ∀ e ∈ Text.upperExpansions, ∀ n ∈ e.2, 13 < n := by decide +kernel
  unfold Text.upperChar at mem
  split at mem
  case isTrue ascii =>
    rw [List.mem_singleton.1 mem]
    exact isLineEnd_toUpper ascii h
  split at mem
  case h_1 expansion found =>
    obtain ⟨n, inImage, rfl⟩ := List.mem_map.1 mem
    exact isLineEnd_ofNat (images _ (List.mem_of_find?_eq_some found) n inImage)
  case h_2 =>
    rw [List.mem_singleton.1 mem]
    exact isLineEnd_mapByRuns h

theorem NoBreak.getterName {s : String} (h : NoBreak s) : NoBreak (Text.getterName s) := by
  refine noBreak_append.2 ⟨by decide, ?_⟩
  unfold NoBreak at h ⊢
  rw [Text.upperFirst, String.toList_ofList]
  cases cs : s.toList with
  | nil => simp [Text.upperFirstChars]
  | cons c rest =>
    rw [cs] at h
    obtain ⟨first, more⟩ := List.forall_mem_cons.1 h
    exact List.forall_mem_append.2 ⟨fun _ mem => isLineEnd_of_mem_upperChar first mem, more⟩

end Names

end ClassTable
