import ClassTable.Keyed
import Mathlib.Data.List.Induction
import Mathlib.Data.String.Basic

set_option autoImplicit false

namespace ClassTable.Keyed

variable {α : Type} {key : String} {v : α} {ms : Keyed α}

def Sorted (ms : Keyed α) : Prop := ms.keys.Pairwise (· < ·)

def insertAll (ms : Keyed α) (pairs : List (String × α)) : Keyed α :=
  pairs.foldl (fun ms m => ms.insert m.1 m.2) ms

theorem lookup_filter_bne {κ : Type} [BEq κ] [LawfulBEq κ] (pairs : List (κ × α)) (k other : κ) :
    (pairs.filter (·.1 != k)).lookup other = if other == k then none else pairs.lookup other := by
  induction pairs with
  | nil => simp
  | cons pair pairs ih =>
    by_cases dropped : pair.1 = k
    · rw [List.filter_cons_of_neg (by simp [dropped]), ih, List.lookup_cons, dropped]
      cases other == k <;> rfl
    · rw [List.filter_cons_of_pos (by simpa using dropped), List.lookup_cons, List.lookup_cons, ih]
      by_cases here : other = pair.1
      · simp [here, dropped]
      · have differs : (other == pair.1) = false := by simpa using here
        rw [differs]

theorem get?_cons (m : String × α) (ms : Keyed α) (key : String) :
    get? (m :: ms) key = if key = m.1 then some m.2 else get? ms key := by
  unfold get?
  rw [List.lookup_cons]
  by_cases h : key = m.1
  · simp [h]
  · have differs : (key == m.1) = false := by simpa using h
    simp [differs, h]

theorem get?_insert (ms : Keyed α) (key other : String) (v : α) :
    (ms.insert key v).get? other = if other = key then some v else ms.get? other := by
  induction ms with
  | nil => exact get?_cons (key, v) [] other
  | cons m ms ih =>
    unfold insert
    split
    · exact get?_cons (key, v) (m :: ms) other
    · split
      · next same =>
        subst same
        rw [get?_cons, get?_cons]
        split <;> rfl
      · next differs =>
        rw [get?_cons, get?_cons, ih]
        by_cases h : other = m.1
        · rw [if_pos h, if_pos h, if_neg fun same => differs (same.symm.trans h)]
        · rw [if_neg h, if_neg h]

theorem mem_keys_insert {other : String} : other ∈ (ms.insert key v).keys ↔ other = key ∨ other ∈ ms.keys := by
  induction ms with
  | nil => simp [insert, keys]
  | cons m ms ih =>
    unfold insert
    split
    · simp [keys]
    · split
      · next same => simp [keys, same]
      · simp only [keys, List.map_cons, List.mem_cons] at ih ⊢
        rw [ih, or_left_comm]

theorem mem_of_mem_insert {m : String × α} (mem : m ∈ ms.insert key v) : m = (key, v) ∨ m ∈ ms := by
  induction ms with
  | nil => exact .inl (List.mem_singleton.1 mem)
  | cons first ms ih =>
    unfold insert at mem
    split at mem
    · exact List.mem_cons.1 mem
    · split at mem
      · exact (List.mem_cons.1 mem).imp_right (List.mem_cons_of_mem _)
      · rcases List.mem_cons.1 mem with rfl | later
        · exact .inr (.head _)
        · exact (ih later).imp_right (List.mem_cons_of_mem _)

theorem keys_insert_perm (fresh : key ∉ ms.keys) : (ms.insert key v).keys.Perm (key :: ms.keys) := by
  induction ms with
  | nil => exact .refl _
  | cons m ms ih =>
    obtain ⟨other, fresh⟩ : key ≠ m.1 ∧ key ∉ keys ms := by
      simpa [keys] using fresh
    unfold insert
    by_cases before : key < m.1
    · rw [if_pos before]
      exact .refl _
    · rw [if_neg before, if_neg other]
      exact ((ih fresh).cons m.1).trans (.swap key m.1 (keys ms))

theorem isSome_get?_iff : (ms.get? key).isSome = true ↔ key ∈ ms.keys := by
  induction ms with
  | nil => simp [get?, keys]
  | cons m ms ih =>
    rw [get?_cons]
    by_cases h : key = m.1
    · simp [keys, h]
    · simpa [keys, h] using ih

theorem get?_eq_none (absent : key ∉ ms.keys) : ms.get? key = none := by
  rwa [← isSome_get?_iff, Bool.not_eq_true, Option.isSome_eq_false_iff, Option.isNone_iff_eq_none] at absent

theorem mem_of_get? (found : ms.get? key = some v) : (key, v) ∈ ms := by
  induction ms with
  | nil => exact absurd found nofun
  | cons m ms ih =>
    rw [get?_cons] at found
    split at found
    · next same =>
      obtain rfl := Option.some.inj found
      rw [same]
      exact .head _
    · exact .tail _ (ih found)

theorem get?_of_mem (distinct : ms.keys.Nodup) (mem : (key, v) ∈ ms) : ms.get? key = some v := by
  induction ms with
  | nil => exact absurd mem List.not_mem_nil
  | cons m ms ih =>
    obtain ⟨fresh, rest⟩ := List.nodup_cons.1 distinct
    rw [get?_cons]
    rcases List.mem_cons.1 mem with rfl | later
    · exact if_pos rfl
    · have differs : key ≠ m.1 := by
        rintro rfl
        exact fresh (List.mem_map.2 ⟨_, later, rfl⟩)
      rw [if_neg differs]
      exact ih rest later

theorem sorted_nil : Sorted ([] : Keyed α) := List.Pairwise.nil

theorem Sorted.nodup (h : ms.Sorted) : ms.keys.Nodup := List.Pairwise.imp ne_of_lt h

theorem sorted_insert (h : ms.Sorted) : (ms.insert key v).Sorted := by
  induction ms with
  | nil => simp [insert, Sorted, keys]
  | cons m ms ih =>
    obtain ⟨first, rest⟩ := List.pairwise_cons.1 h
    unfold insert
    split
    · next before =>
      refine List.pairwise_cons.2 ⟨fun other mem => ?_, h⟩
      rcases List.mem_cons.1 mem with rfl | mem
      · exact before
      · exact before.trans (first other mem)
    · next notBefore =>
      split
      · next same => exact List.pairwise_cons.2 ⟨fun other mem => same ▸ first other mem, rest⟩
      · next differs =>
        refine List.pairwise_cons.2 ⟨fun other mem => ?_, ih rest⟩
        rcases mem_keys_insert.1 mem with rfl | mem
        · exact lt_of_le_of_ne (le_of_not_gt notBefore) (Ne.symm differs)
        · exact first other mem

theorem length_insert (h : ms.Sorted) :
    (ms.insert key v).length = if key ∈ ms.keys then ms.length else ms.length + 1 := by
  induction ms with
  | nil => simp [insert, keys]
  | cons m ms ih =>
    obtain ⟨first, rest⟩ := List.pairwise_cons.1 h
    unfold insert
    split
    · next before =>
      have new : key ∉ keys (m :: ms) := fun mem => by
        rcases List.mem_cons.1 mem with same | mem
        · exact absurd before (same ▸ lt_irrefl m.1)
        · exact lt_asymm before (first key mem)
      rw [if_neg new]
      rfl
    · split
      · next same => simp [keys, same]
      · next differs =>
        have same : key ∈ keys (m :: ms) ↔ key ∈ keys ms := by simp [keys, differs]
        simp only [List.length_cons, same, ih rest]
        split <;> rfl

theorem insertAll_append (ms : Keyed α) (xs ys : List (String × α)) :
    ms.insertAll (xs ++ ys) = (ms.insertAll xs).insertAll ys := List.foldl_append

/-- Of several pairs with one key the last counts. -/
theorem get?_insertAll (ms : Keyed α) (pairs : List (String × α)) (key : String) :
    (ms.insertAll pairs).get? key = (get? pairs.reverse key).or (ms.get? key) := by
  induction pairs using List.reverseRecOn with
  | nil => rfl
  | append_singleton pairs m ih =>
    rw [insertAll_append, List.reverse_append]
    change ((ms.insertAll pairs).insert m.1 m.2).get? key = (get? (m :: pairs.reverse) key).or (ms.get? key)
    rw [get?_insert, get?_cons, ih]
    split <;> rfl

theorem get?_insertAll_nil (pairs : List (String × α)) (key : String) :
    (insertAll [] pairs).get? key = get? pairs.reverse key := by
  rw [get?_insertAll]
  exact Option.or_none

theorem get?_reverse_eq_some_iff {pairs : List (String × α)} :
    get? pairs.reverse key = some v ↔
      ∃ before after, pairs = before ++ (key, v) :: after ∧ key ∉ keys after := by
  induction pairs using List.reverseRecOn with
  | nil => simp [get?]
  | append_singleton pairs m ih =>
    rw [List.reverse_append]
    change get? (m :: pairs.reverse) key = some v ↔ _
    rw [get?_cons]
    constructor
    · intro found
      split at found
      · next same =>
        cases found
        exact ⟨pairs, [], by rw [same], List.not_mem_nil⟩
      · next differs =>
        obtain ⟨before, after, rfl, last⟩ := ih.1 found
        exact ⟨before, after ++ [m], by simp, by simpa [keys, differs] using last⟩
    · rintro ⟨before, after, split, last⟩
      rcases List.eq_nil_or_concat after with rfl | ⟨after, m', rfl⟩
      · obtain ⟨-, rfl⟩ := List.concat_inj.1 (by simpa using split : pairs.concat m = before.concat (key, v))
        rw [if_pos rfl]
      · have split : pairs.concat m = (before ++ (key, v) :: after).concat m' := by simpa using split
        obtain ⟨rfl, rfl⟩ := List.concat_inj.1 split
        obtain ⟨differs, last⟩ : ¬key = m.1 ∧ key ∉ keys after := by simpa [keys, and_comm] using last
        rw [if_neg differs]
        exact ih.2 ⟨before, after, rfl, last⟩

theorem mem_keys_insertAll {pairs : List (String × α)} :
    key ∈ (ms.insertAll pairs).keys ↔ key ∈ keys pairs ∨ key ∈ ms.keys := by
  rw [← isSome_get?_iff, get?_insertAll, Option.isSome_or, Bool.or_eq_true, isSome_get?_iff, isSome_get?_iff]
  simp [keys]

theorem mem_of_mem_insertAll {m : String × α} {pairs : List (String × α)} (mem : m ∈ ms.insertAll pairs) :
    m ∈ pairs ∨ m ∈ ms := by
  induction pairs generalizing ms with
  | nil => exact .inr mem
  | cons first pairs ih =>
    rcases ih mem with later | mem
    · exact .inl (.tail _ later)
    · rcases mem_of_mem_insert mem with rfl | old
      · exact .inl (.head _)
      · exact .inr old

theorem sorted_insertAll {pairs : List (String × α)} (h : ms.Sorted) : (ms.insertAll pairs).Sorted := by
  induction pairs generalizing ms with
  | nil => exact h
  | cons m pairs ih => exact ih (sorted_insert h)

end ClassTable.Keyed
