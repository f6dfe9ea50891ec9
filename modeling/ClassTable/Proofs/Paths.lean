import ClassTable.Path
import Mathlib.Data.String.Basic

set_option autoImplicit false

namespace ClassTable.Path

/-- Holds of names that stand for an entry of a directory. -/
structure IsPlain (name : String) : Prop where
  nonempty : name ≠ ""
  noSlash : '/' ∉ name.toList
  notCurrent : name ≠ "."
  notParent : name ≠ ".."

variable {path dir name : String} {cs ds : List Char} {c : Char}

theorem isAbsolute_iff : isAbsolute path = true ↔ ∃ cs, path.toList = '/' :: cs := by
  unfold isAbsolute
  rw [String.startsWith_string_iff]
  constructor
  · rintro ⟨cs, split⟩
    exact ⟨cs, split.symm⟩
  · rintro ⟨cs, split⟩
    exact ⟨cs, split.symm⟩

theorem isAbsolute_append (nonempty : dir ≠ "") (tail : String) : isAbsolute (dir ++ tail) = isAbsolute dir := by
  rw [Bool.eq_iff_iff, isAbsolute_iff, isAbsolute_iff, String.toList_append]
  cases chars : dir.toList with
  | nil => exact absurd (String.toList_eq_nil_iff.1 chars) nonempty
  | cons c cs => simp

theorem IsPlain.relative (plain : IsPlain name) : isAbsolute name = false := by
  rw [← Bool.not_eq_true, isAbsolute_iff]
  rintro ⟨cs, split⟩
  exact plain.noSlash (by rw [split]; exact List.mem_cons_self ..)

section Pieces

theorem pieces_ne_nil (cs : List Char) : pieces cs ≠ [] := by
  cases cs with
  | nil => exact List.cons_ne_nil [] []
  | cons c cs =>
    unfold pieces
    split
    · exact List.cons_ne_nil _ _
    · split <;> exact List.cons_ne_nil _ _

theorem pieces_slash (cs : List Char) : pieces ('/' :: cs) = [] :: pieces cs := by
  rw [pieces]
  cases split : pieces cs with
  | nil => exact absurd split (pieces_ne_nil cs)
  | cons piece rest => rfl

theorem pieces_cons (other : c ≠ '/') {piece : List Char} {rest : List (List Char)}
    (split : pieces cs = piece :: rest) : pieces (c :: cs) = (c :: piece) :: rest := by
  rw [pieces, split]
  exact if_neg other

theorem pieces_append_slash (cs ds : List Char) : pieces (cs ++ '/' :: ds) = pieces cs ++ pieces ds := by
  induction cs with
  | nil => exact pieces_slash ds
  | cons c cs ih =>
    by_cases slash : c = '/'
    · rw [slash, List.cons_append, pieces_slash, pieces_slash, ih, List.cons_append]
    · cases split : pieces cs with
      | nil => exact absurd split (pieces_ne_nil cs)
      | cons piece rest =>
        rw [split, List.cons_append] at ih
        rw [List.cons_append, pieces_cons slash ih, pieces_cons slash split, List.cons_append]

theorem pieces_of_no_slash (noSlash : '/' ∉ cs) : pieces cs = [cs] := by
  induction cs with
  | nil => rfl
  | cons c cs ih =>
    have other : c ≠ '/' := fun same => noSlash (same ▸ List.mem_cons_self ..)
    exact pieces_cons other (ih fun mem => noSlash (List.mem_cons_of_mem c mem))

end Pieces

section Components

theorem components_append_slash (dir path : String) :
    components (dir ++ "/" ++ path) = components dir ++ components path := by
  have chars : (dir ++ "/" ++ path).toList = dir.toList ++ '/' :: path.toList := by
    simp [String.toList_append]
  unfold components
  rw [chars, pieces_append_slash, List.filter_append, List.map_append]

theorem IsPlain.components (plain : IsPlain name) : components name = [name] := by
  have kept : [name.toList].filter (!·.isEmpty) = [name.toList] :=
    List.filter_cons_of_pos (by simpa using plain.nonempty)
  unfold Path.components
  rw [pieces_of_no_slash plain.noSlash, kept, List.map_singleton, String.ofList_toList]

theorem components_ne_nil (nonempty : path ≠ "") (relative : isAbsolute path = false) :
    components path ≠ [] := by
  cases chars : path.toList with
  | nil => exact absurd (String.toList_eq_nil_iff.1 chars) nonempty
  | cons c cs =>
    have other : c ≠ '/' := by
      rintro rfl
      exact absurd (isAbsolute_iff.2 ⟨cs, chars⟩) (by simp [relative])
    cases split : pieces cs with
    | nil => exact absurd split (pieces_ne_nil cs)
    | cons piece rest =>
      unfold components
      rw [chars, pieces_cons other split, List.filter_cons_of_pos rfl]
      exact List.cons_ne_nil _ _

theorem exists_of_endsWith_slash (ends : dir.endsWith "/" = true) :
    ∃ base, dir = base ++ "/" ∧ components dir = components base := by
  rw [← String.endsWith_toSlice, String.Slice.endsWith_string_iff, String.copy_toSlice] at ends
  obtain ⟨cs, split⟩ := ends
  have whole : dir = String.ofList cs ++ "/" := by
    rw [← String.toList_inj, String.toList_append, String.toList_ofList]
    exact split.symm
  refine ⟨String.ofList cs, whole, ?_⟩
  have apart := components_append_slash (String.ofList cs) ""
  rw [String.append_empty, ← whole] at apart
  rw [apart]
  exact List.append_nil _

theorem components_join (dir : String) (plain : IsPlain name) :
    components (join dir name) = components dir ++ [name] := by
  unfold join
  rw [plain.relative, Bool.false_or]
  split
  · next empty =>
    rw [String.isEmpty_iff.1 empty, plain.components]
    rfl
  · split
    · next ends =>
      obtain ⟨base, whole, same⟩ := exists_of_endsWith_slash ends
      rw [same, whole, components_append_slash, plain.components]
    · rw [components_append_slash, plain.components]

theorem isAbsolute_join (nonempty : dir ≠ "") (plain : IsPlain name) :
    isAbsolute (join dir name) = isAbsolute dir := by
  have notEmpty : ¬(isAbsolute name || dir.isEmpty) = true := by
    rw [plain.relative, Bool.false_or, String.isEmpty_iff]
    exact nonempty
  unfold join
  rw [if_neg notEmpty]
  split
  · exact isAbsolute_append nonempty name
  · rw [String.append_assoc]
    exact isAbsolute_append nonempty _

end Components

end ClassTable.Path
