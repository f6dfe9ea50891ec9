import ClassTable.Text.Case
import Mathlib.Data.List.Basic

set_option autoImplicit false

namespace ClassTable.Text

theorem toNat_toLower (c : Char) :
    c.toLower.toNat = if 65 ≤ c.toNat ∧ c.toNat ≤ 90 then c.toNat + 32 else c.toNat := by
  unfold Char.toLower
  by_cases upper : c.val ≥ 'A'.val ∧ c.val ≤ 'Z'.val
  · have range : 65 ≤ c.toNat ∧ c.toNat ≤ 90 := by
      simpa [UInt32.le_iff_toNat_le] using upper
    rw [dif_pos upper, if_pos range]
    change (c.val + ('a'.val - 'A'.val)).toNat = _
    rw [UInt32.toNat_add]
    change (c.toNat + 32) % 2 ^ 32 = _
    omega
  · have range : ¬(65 ≤ c.toNat ∧ c.toNat ≤ 90) := by
      simpa [UInt32.le_iff_toNat_le] using upper
    rw [dif_neg upper, if_neg range]

theorem inRanges_toLower {ranges : List (Nat × Nat)}
    (letters : ∀ i : Fin 26, inRanges ranges (97 + i) = inRanges ranges (65 + i)) (c : Char) :
    inRanges ranges c.toLower.toNat = inRanges ranges c.toNat := by
  rw [toNat_toLower]
  split
  · next range =>
    have same := letters ⟨c.toNat - 65, by omega⟩
    have small : 97 + (c.toNat - 65) = c.toNat + 32 := by omega
    have capital : 65 + (c.toNat - 65) = c.toNat := by omega
    rwa [small, capital] at same
  · rfl

theorem isBlank_toLower (c : Char) : isBlank c.toLower = isBlank c :=
  inRanges_toLower (by decide +kernel) c

theorem isCased_toLower (c : Char) : isCased c.toLower = isCased c :=
  inRanges_toLower (by decide +kernel) c

theorem isCaseIgnorable_toLower (c : Char) : isCaseIgnorable c.toLower = isCaseIgnorable c :=
  inRanges_toLower (by decide +kernel) c

theorem toLower_toLower (c : Char) : c.toLower.toLower = c.toLower := by
  apply Char.toNat_inj.1
  rw [toNat_toLower c.toLower, toNat_toLower c, if_neg]
  split <;> omega

theorem dropWhile_map_toLower {p : Char → Bool} (blind : ∀ c : Char, p c.toLower = p c) (cs : List Char) :
    (cs.map Char.toLower).dropWhile p = (cs.dropWhile p).map Char.toLower := by
  have same : p ∘ Char.toLower = p := funext blind
  rw [List.dropWhile_map, same]

theorem trimChars_map_toLower (cs : List Char) :
    trimChars (cs.map Char.toLower) = (trimChars cs).map Char.toLower := by
  simp only [trimChars, dropBlankEnd, dropEndWhile, dropBlank, dropWhile_map_toLower isBlank_toLower,
    ← List.map_reverse]

theorem startsCased_map_toLower (cs : List Char) : startsCased (cs.map Char.toLower) = startsCased cs := by
  unfold startsCased
  rw [dropWhile_map_toLower isCaseIgnorable_toLower, List.head?_map]
  cases (cs.dropWhile isCaseIgnorable).head? with
  | none => rfl
  | some c => exact isCased_toLower c

theorem lowerCharIn_map_toLower (before : List Char) (c : Char) (after : List Char) :
    lowerCharIn (before.map Char.toLower) c.toLower (after.map Char.toLower) = lowerCharIn before c after := by
  by_cases ascii : isAscii c = true
  · have ascii' : isAscii c.toLower = true := by
      simp only [isAscii, decide_eq_true_eq, toNat_toLower] at ascii ⊢
      split <;> omega
    rw [lowerCharIn, if_pos ascii', lowerCharIn, if_pos ascii, toLower_toLower]
  · have same : c.toLower = c := by
      apply Char.toNat_inj.1
      simp only [isAscii, decide_eq_true_eq] at ascii
      rw [toNat_toLower, if_neg (by omega)]
    simp only [lowerCharIn, same, startsCased_map_toLower]

theorem lowerFrom_map_toLower (before cs : List Char) :
    lowerFrom (before.map Char.toLower) (cs.map Char.toLower) = lowerFrom before cs := by
  induction cs generalizing before with
  | nil => rfl
  | cons c cs ih =>
    have here := lowerCharIn_map_toLower before c cs
    have behind := ih (c :: before)
    rw [List.map_cons] at behind ⊢
    rw [lowerFrom, here, behind, lowerFrom]

theorem lowerChars_map_toLower (cs : List Char) : lowerChars (cs.map Char.toLower) = lowerChars cs :=
  lowerFrom_map_toLower [] cs

theorem trimChars_eq_self {cs : List Char} (starts : ∀ c, cs.head? = some c → isBlank c = false)
    (ends : ∀ c, cs.getLast? = some c → isBlank c = false) : trimChars cs = cs := by
  have front : dropBlank cs = cs := by
    cases cs with
    | nil => rfl
    | cons c cs =>
      have kept := starts c rfl
      unfold dropBlank
      rw [List.dropWhile_cons_of_neg (by simp [kept])]
  have back : dropBlankEnd cs = cs := by
    rcases List.eq_nil_or_concat cs with rfl | ⟨init, c, rfl⟩
    · rfl
    · have kept := ends c (by simp)
      simp [dropBlankEnd, dropEndWhile, kept]
  rw [trimChars, front, back]

theorem not_isBlank_of_getLast? {cs : List Char} {c : Char} (last : (trimChars cs).getLast? = some c) :
    isBlank c = false := by
  unfold trimChars dropBlankEnd dropEndWhile at last
  rw [List.getLast?_reverse] at last
  have kept := List.head?_dropWhile_not isBlank (dropBlank cs).reverse
  rw [last] at kept
  simpa using kept

theorem not_isBlank_of_head? {cs : List Char} {c : Char} (first : (trimChars cs).head? = some c) :
    isBlank c = false := by
  have front : trimChars cs <+: dropBlank cs := by
    have back := List.dropWhile_suffix isBlank (l := (dropBlank cs).reverse)
    exact List.reverse_suffix.1 (by simpa [trimChars, dropBlankEnd, dropEndWhile] using back)
  obtain ⟨rest, split⟩ := front
  have kept := List.head?_dropWhile_not isBlank cs
  have same : (cs.dropWhile isBlank).head? = some c := by
    change (dropBlank cs).head? = some c
    rw [← split, List.head?_append, first]
    rfl
  rw [same] at kept
  simpa using kept

end ClassTable.Text
