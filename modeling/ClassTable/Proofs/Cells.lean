import ClassTable.Proofs.Layout
import ClassTable.Proofs.Scan

set_option autoImplicit false

namespace ClassTable

namespace Text

theorem not_isBlank_of_isDigit {c : Char} (h : c.isDigit = true) : isBlank c = false := by
  have range : 48 ≤ c.toNat ∧ c.toNat ≤ 57 := by
    simpa [Char.isDigit, UInt32.le_iff_toNat_le] using h
  simp [isBlank, blankRanges, inRanges]
  omega

theorem dropWhile_of_all_not {p : Char → Bool} {cs : List Char} (h : ∀ c ∈ cs, p c = false) :
    cs.dropWhile p = cs := by
  cases cs with
  | nil => rfl
  | cons c cs => simp [h c (List.mem_cons_self ..)]

theorem trim_of_not_blank {s : String} (h : ∀ c ∈ s.toList, isBlank c = false) : trim s = s := by
  have same : dropBlank s.toList = s.toList := dropWhile_of_all_not h
  have same' : (s.toList.reverse.dropWhile isBlank) = s.toList.reverse :=
    dropWhile_of_all_not fun c hc => h c (List.mem_reverse.1 hc)
  unfold trim trimChars dropBlankEnd dropEndWhile
  rw [same, same', List.reverse_reverse, String.ofList_toList]

theorem digitsValue_eq_ofDigitChars {ds : List Char} : digitsValue ds = Nat.ofDigitChars 10 ds 0 :=
  Nat.ofDigitChars_eq_foldl.symm

theorem digitsValue_toDigits (n : Nat) : digitsValue (Nat.toDigits 10 n) = n := by
  rw [digitsValue_eq_ofDigitChars, Nat.ofDigitChars_ten_toDigits]

theorem natOfDigits?_toDigits (n : Nat) : natOfDigits? (Nat.toDigits 10 n) = some n := by
  have digits : (Nat.toDigits 10 n).all Char.isDigit = true := by
    rw [List.all_eq_true]
    exact fun c hc => Nat.isDigit_of_mem_toDigits (by decide) (by decide) hc
  have nonempty : (Nat.toDigits 10 n).isEmpty = false := by
    rw [List.isEmpty_eq_false_iff]
    exact Nat.toDigits_ne_nil
  simp only [natOfDigits?, digits, nonempty, digitsValue_toDigits, Bool.not_false, Bool.and_self, if_true]

theorem natUpTo?_repr {bound n : Nat} (h : n ≤ bound) : natUpTo? bound n.repr.toList = some n := by
  have noSign : ∀ rest, Nat.toDigits 10 n ≠ '+' :: rest := by
    intro rest eq
    have sign : '+'.isDigit = true :=
      Nat.isDigit_of_mem_toDigits (b := 10) (n := n) (by decide) (by decide) (eq ▸ List.mem_cons_self ..)
    exact absurd sign (by decide)
  have unsigned : natUpTo? bound (Nat.toDigits 10 n) =
      (natOfDigits? (Nat.toDigits 10 n)).filter (· ≤ bound) := by
    unfold natUpTo?
    split
    · exact absurd ‹_› (noSign _)
    · rfl
  rw [Nat.toList_repr, unsigned, natOfDigits?_toDigits]
  simp [h]

theorem trim_repr (n : Nat) : trim n.repr = n.repr := by
  refine trim_of_not_blank fun c hc => ?_
  rw [Nat.toList_repr] at hc
  exact not_isBlank_of_isDigit (Nat.isDigit_of_mem_toDigits (by decide) (by decide) hc)

end Text

theorem Column.key_inj {c c' : Column} : c.key = c'.key ↔ c = c' := by
  cases c <;> cases c' <;> decide

namespace Row

theorem lookup_setCell (key key' value : String) (cells : List (String × String)) :
    (setCell key value cells).lookup key' = if key' = key then some value else cells.lookup key' := by
  induction cells with
  | nil =>
    by_cases h : key' = key
    · simp [setCell, h]
    · have other : (key' == key) = false := by simp [h]
      simp [setCell, List.lookup_cons, h, other]
  | cons cell cells ih =>
    unfold setCell
    by_cases here : cell.1 = key
    · rw [if_pos here, List.lookup_cons, List.lookup_cons, here]
      by_cases h : key' = key
      · simp [h]
      · have other : (key' == key) = false := by simp [h]
        rw [other, if_neg h]
    · rw [if_neg here, List.lookup_cons, List.lookup_cons]
      by_cases h : key' = cell.1
      · simp [h, here]
      · have other : (key' == cell.1) = false := by simp [h]
        rw [other, ih]

variable {layer : Nat} {r : Row}

theorem cell_setColumn (r : Row) (written read : Column) (value : String) :
    (r.setColumn written value).cell read = if read = written then Text.trim value else r.cell read := by
  simp only [cell, text, setColumn, set, lookup_setCell, Column.key_inj]
  by_cases h : read = written <;> simp [h]

theorem cell_empty (column : Column) : empty.cell column = "" := rfl

@[simp] theorem cell_withIndex (r : Row) (index : Nat) (column : Column) :
    (r.withIndex index).cell column = r.cell column := rfl

theorem cell_classStart (index layer : Nat) (name description : String) (column : Column) :
    (classStart index layer name description).cell column =
      match column with
      | .layer => layer.repr
      | .variableName => Text.trim name
      | .description => Text.trim description
      | _ => "" := by
  cases column <;> simp [classStart, cell_setColumn, Text.trim_repr, cell_empty]

theorem cell_field (index layer : Nat) (name dataType : String) (invariant : Bool) (column : Column) :
    (field index layer name dataType invariant).cell column =
      match column with
      | .layer => layer.repr
      | .variableName => Text.trim name
      | .dataType => Text.trim dataType
      | .invariant => if invariant then "true" else "false"
      | _ => "" := by
  have words : Text.trim (if invariant then "true" else "false") = if invariant then "true" else "false" := by
    cases invariant <;> decide
  cases column <;> simp [field, cell_setColumn, Text.trim_repr, cell_empty, words]

theorem flag_of_empty {column : Column} (h : r.cell column = "") : r.flag column = .ok false := by
  have word : flagOfText? (Text.lower "") = some false := by decide
  simp only [flag, h, word]

theorem flag_of_word {column : Column} {b : Bool} (h : r.cell column = if b then "true" else "false") :
    r.flag column = .ok b := by
  have word : flagOfText? (Text.lower (if b then "true" else "false")) = some b := by
    cases b <;> decide
  simp only [flag, h, word]

theorem layer_of_numeral (h : r.cell .layer = layer.repr) (fits : layer ≤ maxLayer) :
    r.layer = .ok layer := by
  simp only [Row.layer, h, Text.natUpTo?_repr fits]

end Row

def Line.toRow (index : Nat) : Line → Row
  | ofClass layer name description => .classStart index layer name description
  | ofField layer name dataType initialValue description invariant =>
    ((Row.field index layer name dataType invariant).setColumn .initialValue initialValue).setColumn
      .description description

namespace Line

def OnOwnLayer : Line → Prop
  | ofClass layer .. => layer % 2 = 0
  | ofField layer .. => layer % 2 = 1

theorem isDeleted_toRow (index : Nat) (l : Line) : (l.toRow index).isDeleted = .ok false := by
  refine Row.flag_of_empty ?_
  cases l with
  | ofClass layer name description => exact Row.cell_classStart ..
  | ofField layer name dataType initialValue description invariant =>
    simp [toRow, Row.cell_setColumn, Row.cell_field]

theorem layer_toRow (index : Nat) {l : Line} (fits : l.layer ≤ maxLayer) :
    (l.toRow index).layer = .ok l.layer := by
  refine Row.layer_of_numeral ?_ fits
  cases l with
  | ofClass layer name description => exact Row.cell_classStart ..
  | ofField layer name dataType initialValue description invariant =>
    simp [toRow, Row.cell_setColumn, Row.cell_field]

theorem line_toRow (index : Nat) {l : Line} (fits : l.layer ≤ maxLayer) (own : l.OnOwnLayer)
    (trimmed : ∀ text ∈ l.texts, Text.trim text = text) : (l.toRow index).line = .ok l := by
  have parse := layer_toRow index fits
  cases l with
  | ofClass layer name description =>
    obtain ⟨hn, hd⟩ : Text.trim name = name ∧ Text.trim description = description := by
      simpa [texts] using trimmed
    rw [Row.line_of_even parse own]
    simp [toRow, Row.name, Row.description, Row.cell_classStart, hn, hd]
  | ofField layer name dataType initialValue description invariant =>
    obtain ⟨hn, ht, hi, hd⟩ : Text.trim name = name ∧ Text.trim dataType = dataType ∧
        Text.trim initialValue = initialValue ∧ Text.trim description = description := by
      simpa [texts] using trimmed
    have flag : (Line.toRow index (.ofField layer name dataType initialValue description invariant)).isInvariant
        = .ok invariant := by
      refine Row.flag_of_word ?_
      simp [toRow, Row.cell_setColumn, Row.cell_field]
    rw [Row.line_of_odd parse own flag]
    simp [toRow, Row.name, Row.dataType, Row.initialValue, Row.description, Row.cell_setColumn,
      Row.cell_field, hn, ht, hi, hd]

end Line
end ClassTable
