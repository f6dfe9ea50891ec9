import ClassTable.Proofs.LineText
import ClassTable.Proofs.Template.Margins
import Mathlib.Data.List.Infix
import Mathlib.Data.List.TakeWhile

set_option autoImplicit false

namespace ClassTable

/-- Holds of texts that contain the closing marker of comments. -/
def Closes (cs : List Char) : Prop := ['*', '/'] <:+: cs

instance (cs : List Char) : Decidable (Closes cs) := inferInstanceAs (Decidable (['*', '/'] <:+: cs))

def behindMarker : List Char → List Char
  | '*' :: '/' :: rest => rest
  | _ :: rest => behindMarker rest
  | [] => []

section Markers

variable {c : Char} {cs xs ys : List Char}

theorem closes_cons : Closes (c :: cs) ↔ (c = '*' ∧ cs.head? = some '/') ∨ Closes cs := by
  unfold Closes
  rw [List.infix_cons_iff]
  refine or_congr_left ?_
  cases cs <;> simp [List.cons_prefix_cons, eq_comm]

theorem not_closes_nil : ¬Closes [] := by decide

theorem not_closes_of_not_mem (free : '*' ∉ cs) : ¬Closes cs :=
  fun marker => free (marker.subset (.head _))

theorem closes_append :
    Closes (xs ++ ys) ↔ Closes xs ∨ Closes ys ∨ (xs.getLast? = some '*' ∧ ys.head? = some '/') := by
  induction xs with
  | nil => simp [not_closes_nil]
  | cons c xs ih =>
    rw [List.cons_append, closes_cons, ih, closes_cons]
    cases xs with
    | nil => simp [not_closes_nil, or_comm]
    | cons d xs => simp [or_assoc]

theorem behindMarker_cons (further : ¬(c = '*' ∧ cs.head? = some '/')) :
    behindMarker (c :: cs) = behindMarker cs := by
  rw [behindMarker]
  rintro rest rfl rfl
  exact further ⟨rfl, rfl⟩

theorem behindMarker_append (closes : Closes xs) (ys : List Char) :
    behindMarker (xs ++ ys) = behindMarker xs ++ ys := by
  induction xs with
  | nil => exact absurd closes not_closes_nil
  | cons c xs ih =>
    by_cases here : c = '*' ∧ xs.head? = some '/'
    · obtain ⟨rfl, slash⟩ := here
      obtain ⟨rest, rfl⟩ := List.head?_eq_some_iff.1 slash
      rfl
    · have later : Closes xs := (closes_cons.1 closes).resolve_left here
      obtain ⟨d, rest, rfl⟩ := List.exists_cons_of_ne_nil fun empty : xs = [] => not_closes_nil (empty ▸ later)
      have here' : ¬(c = '*' ∧ ((d :: rest) ++ ys).head? = some '/') := here
      rw [List.cons_append, behindMarker_cons here', behindMarker_cons here, ih later]

theorem behindMarker_of_not_closes (free : ¬Closes xs) (ys : List Char) :
    behindMarker (xs ++ '*' :: '/' :: ys) = ys := by
  induction xs with
  | nil => rfl
  | cons c xs ih =>
    obtain ⟨here, later⟩ := not_or.1 (closes_cons.not.1 free)
    have here' : ¬(c = '*' ∧ (xs ++ '*' :: '/' :: ys).head? = some '/') := by
      cases xs with
      | nil => simp
      | cons d xs => exact here
    rw [List.cons_append, behindMarker_cons here', ih later]

/-- Holds of what stands between the markers of a comment when the comment ends at its own marker. -/
def EndsComment (inside : List Char) : Prop := ∀ after, behindMarker (inside ++ '*' :: '/' :: after) = after

theorem endsComment_iff {inside : List Char} : EndsComment inside ↔ ¬Closes inside := by
  constructor
  · intro ends closes
    have rest := ends []
    rw [behindMarker_append closes] at rest
    exact absurd rest (by simp)
  · exact fun free after => behindMarker_of_not_closes free after

def Separates (s : String) : Prop :=
  ¬Closes s.toList ∧ s.toList.head? ≠ some '/' ∧ s.toList.getLast? ≠ some '*' ∧ s.toList ≠ []

instance (s : String) : Decidable (Separates s) := inferInstanceAs (Decidable (_ ∧ _))

theorem closes_first {s : String} (separates : Separates s) :
    Closes (s.toList ++ ys) ↔ Closes ys := by
  obtain ⟨free, -, last, -⟩ := separates
  simp [closes_append, free, last]

theorem closes_between {s : String} (separates : Separates s) :
    Closes (xs ++ (s.toList ++ ys)) ↔ Closes xs ∨ Closes ys := by
  have ⟨_, head, _, nonempty⟩ := separates
  obtain ⟨c, cs, text⟩ := List.exists_cons_of_ne_nil nonempty
  have head' : (s.toList ++ ys).head? ≠ some '/' := by
    rw [text] at head ⊢
    exact head
  rw [closes_append, closes_first separates]
  simp only [head', and_false, or_false]

theorem closes_last {s : String} (separates : Separates s) : Closes (xs ++ s.toList) ↔ Closes xs := by
  have all : Closes (xs ++ (s.toList ++ [])) ↔ Closes xs ∨ Closes [] := closes_between separates
  rwa [List.append_nil, or_iff_left not_closes_nil] at all

end Markers

section Margins

open Template

variable {margin cs ds : List Char} {start : Bool}

/-- Margins neither make nor break a marker, since no line ends within one. -/
theorem closes_shown_iff (blank : ∀ c ∈ margin, c = ' ') (shown : Shown margin start cs ds) :
    Closes ds ↔ Closes cs := by
  induction shown with
  | nil => exact Iff.rfl
  | @cons start c front cs ds place rest ih =>
    have front_blank : ∀ c ∈ front, c = ' ' := by
      rcases place with rfl | ⟨-, rfl⟩
      · exact nofun
      · exact blank
    have free : ¬Closes front := not_closes_of_not_mem fun mem => absurd (front_blank _ mem) (by decide)
    have last : front.getLast? ≠ some '*' := fun last =>
      absurd (front_blank _ (List.mem_of_getLast? last)) (by decide)
    have same : c = '*' → ds.head? = cs.head? := by
      rintro rfl
      cases rest with
      | nil => rfl
      | cons place' rest =>
        rcases place' with rfl | ⟨lineEnd, -⟩
        · rfl
        · exact absurd lineEnd (by decide)
    rw [closes_append, closes_cons, closes_cons, ih]
    simp only [free, last, false_or, false_and, or_false]
    refine or_congr_left (and_congr_right fun star => ?_)
    rw [same star]

end Margins

section Lines

open Text

variable {cs : List Char}

theorem closes_append_free {ys : List Char} (stars : '*' ∉ ys) (slashes : '/' ∉ ys) :
    Closes (cs ++ ys) ↔ Closes cs := by
  have head : ys.head? ≠ some '/' := fun head => slashes (List.mem_of_head? head)
  simp [closes_append, not_closes_of_not_mem stars, head]

theorem closes_dropBlankEnd : Closes (dropBlankEnd cs) ↔ Closes cs := by
  have split : dropBlankEnd cs ++ (cs.reverse.takeWhile isBlank).reverse = cs := by
    unfold dropBlankEnd dropEndWhile
    rw [← List.reverse_append, List.takeWhile_append_dropWhile, List.reverse_reverse]
  have free (c : Char) (visible : isBlank c = false) : c ∉ (cs.reverse.takeWhile isBlank).reverse := fun mem => by
    have blank : isBlank c = true := List.mem_takeWhile_imp (List.mem_reverse.1 mem)
    exact absurd (visible.symm.trans blank) Bool.false_ne_true
  conv_rhs => rw [← split]
  exact (closes_append_free (free '*' (by decide)) (free '/' (by decide))).symm

theorem closes_dropReturn : Closes (dropReturn cs) ↔ Closes cs := by
  unfold dropReturn
  split
  · next last =>
    conv_rhs => rw [← List.dropLast_append_getLast? '\r' last]
    exact (closes_append_free (by decide) (by decide)).symm
  · exact Iff.rfl

theorem closes_splitAt (cs : List Char) :
    ∃ piece pieces, splitAt '\n' cs = piece :: pieces ∧ (piece.head? = some '/' ↔ cs.head? = some '/') ∧
      ((∃ p ∈ piece :: pieces, Closes p) ↔ Closes cs) := by
  induction cs with
  | nil => exact ⟨[], [], rfl, Iff.rfl, by simp⟩
  | cons c cs ih =>
    obtain ⟨piece, pieces, split, head, marked⟩ := ih
    unfold splitAt
    rw [split]
    dsimp only
    split
    · next feed =>
      subst feed
      refine ⟨[], _, rfl, by simp, ?_⟩
      rw [closes_cons, ← marked]
      simp [not_closes_nil]
    · refine ⟨c :: piece, pieces, rfl, by simp, ?_⟩
      rw [closes_cons, ← marked, List.exists_mem_cons_iff, List.exists_mem_cons_iff, closes_cons, head, or_assoc]

theorem closes_lineChars : (∃ line ∈ lineChars cs, Closes line) ↔ Closes cs := by
  obtain ⟨piece, pieces, split, -, marked⟩ := closes_splitAt cs
  obtain ⟨ended, last, parts⟩ := (List.eq_nil_or_concat' (piece :: pieces)).resolve_left (List.cons_ne_nil _ _)
  have ends : (∃ line ∈ ended.map dropReturn, Closes line) ↔ ∃ line ∈ ended, Closes line := by
    simp [closes_dropReturn]
  rw [← marked]
  unfold lineChars
  rw [split, parts]
  dsimp only
  rw [List.dropLast_concat, List.getLast?_concat]
  cases last with
  | nil =>
    rw [ends]
    simp [not_closes_nil, or_and_right, exists_or]
  | cons c last => simp only [List.mem_append, List.mem_singleton, or_and_right, exists_or, ends]

theorem closes_lines {s : String} : (∃ line ∈ lines s, Closes (trimEnd line).toList) ↔ Closes s.toList := by
  rw [← closes_lineChars]
  simp [lines, trimEnd, closes_dropBlankEnd]

theorem closes_linesText {ls : List String} : Closes (linesText ls).toList ↔ ∃ l ∈ ls, Closes l.toList := by
  induction ls with
  | nil => simp [not_closes_nil]
  | cons l ls ih =>
    have feed : Separates "\n" := by decide
    rw [linesText_cons, String.toList_append, String.toList_append, closes_between feed, ih, List.exists_mem_cons_iff]

end Lines

end ClassTable
