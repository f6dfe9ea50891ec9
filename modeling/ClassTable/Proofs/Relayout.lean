import ClassTable.Proofs.Building

set_option autoImplicit false

namespace ClassTable

mutual

theorem wellPlaced_fieldsLayout {base layer : Nat} (low : base ≤ layer + 1) {rest : List Line}
    (next : ∀ last, layer ≤ last + 1 → WellPlaced base (some last) rest) :
    ∀ (fields : List FieldDef) (last : Nat), layer ≤ last + 1 →
      WellPlaced base (some last) (fieldsLayout layer fields ++ rest)
  | [], last, reach => next last reach
  | ⟨name, dataType, initialValue, description, invariant, children⟩ :: fields, last, reach => by
    rw [fieldsLayout_cons, List.cons_append, List.append_assoc]
    refine ⟨low, reach, ?_⟩
    have more := wellPlaced_fieldsLayout low next fields
    exact wellPlaced_forestLayout (by omega) (fun last h => more last (by omega)) children layer
      (Nat.le_refl _)

theorem wellPlaced_forestLayout {base layer : Nat} (low : base ≤ layer + 1) {rest : List Line}
    (next : ∀ last, layer ≤ last + 1 → WellPlaced base (some last) rest) :
    ∀ (forest : List ClassDef) (last : Nat), layer ≤ last + 1 →
      WellPlaced base (some last) (forestLayout layer forest ++ rest)
  | [], last, reach => next last reach
  | ⟨name, description, fields⟩ :: forest, last, reach => by
    rw [forestLayout_cons, List.cons_append, List.append_assoc]
    refine ⟨low, reach, ?_⟩
    have more := wellPlaced_forestLayout low next forest
    exact wellPlaced_fieldsLayout (by omega) (fun last h => more last (by omega)) fields layer
      (Nat.le_refl _)

end

theorem wellPlaced_layout (layer : Nat) (forest : List ClassDef) :
    WellPlaced (layer + 1) none (forestLayout layer forest) := by
  cases forest with
  | nil => trivial
  | cons c forest =>
    rw [forestLayout_cons]
    refine ⟨Nat.le_refl _, rfl, ?_⟩
    have more : ∀ last, layer ≤ last + 1 →
        WellPlaced (layer + 1) (some last) (forestLayout layer forest) := by
      intro last reach
      have stop : ∀ last, layer ≤ last + 1 → WellPlaced (layer + 1) (some last) [] := fun _ _ => trivial
      have placed := wellPlaced_forestLayout (Nat.le_refl _) stop forest last reach
      rwa [List.append_nil] at placed
    exact wellPlaced_fieldsLayout (by omega) (fun last h => more last (by omega)) c.fields layer
      (Nat.le_refl _)

mutual

theorem onOwnLayer_fieldsLayout {layer : Nat} (odd : layer % 2 = 1) :
    ∀ (fields : List FieldDef), ∀ l ∈ fieldsLayout layer fields, l.OnOwnLayer
  | [], l, h => by cases h
  | ⟨name, dataType, initialValue, description, invariant, children⟩ :: fields, l, h => by
    rw [fieldsLayout_cons, List.mem_cons, List.mem_append] at h
    rcases h with rfl | h | h
    · exact odd
    · exact onOwnLayer_forestLayout (by omega) children l h
    · exact onOwnLayer_fieldsLayout odd fields l h

theorem onOwnLayer_forestLayout {layer : Nat} (even : layer % 2 = 0) :
    ∀ (forest : List ClassDef), ∀ l ∈ forestLayout layer forest, l.OnOwnLayer
  | [], l, h => by cases h
  | ⟨name, description, fields⟩ :: forest, l, h => by
    rw [forestLayout_cons, List.mem_cons, List.mem_append] at h
    rcases h with rfl | h | h
    · exact even
    · exact onOwnLayer_fieldsLayout (by omega) fields l h
    · exact onOwnLayer_forestLayout even forest l h

end

def rowsOf (index : Nat → Nat) (lines : List Line) : List Row :=
  lines.mapIdx fun i line => line.toRow (index i)

theorem say_rowsOf {lines : List Line} (index : Nat → Nat)
    (reads : ∀ line ∈ lines, ∀ i, (line.toRow i).line = .ok line) : Say (rowsOf index lines) lines := by
  induction lines generalizing index with
  | nil => exact .nil
  | cons line lines ih =>
    unfold rowsOf
    rw [List.mapIdx_cons]
    refine .cons (reads line (List.mem_cons_self ..) _) ?_
    exact ih (fun i => index (i + 1)) fun l hl => reads l (List.mem_cons_of_mem line hl)

theorem isDeleted_rowsOf {lines : List Line} {index : Nat → Nat} {r : Row} (h : r ∈ rowsOf index lines) :
    r.isDeleted = .ok false := by
  obtain ⟨i, hi, rfl⟩ := List.mem_mapIdx.1 h
  exact Line.isDeleted_toRow _ _

/-- Building the rows of a layout gives back the forest, if its texts are trimmed and its layers are layers
that a row can have. -/
theorem buildForest_rowsOf {layer : Nat} {forest : List ClassDef} (index : Nat → Nat) (even : layer % 2 = 0)
    (fits : ∀ line ∈ forestLayout layer forest, line.layer ≤ maxLayer)
    (trimmed : ∀ line ∈ forestLayout layer forest, ∀ text ∈ line.texts, Text.trim text = text) :
    (buildForest (layer + 1) (rowsOf index (forestLayout layer forest))).result = .ok forest := by
  have reads : ∀ line ∈ forestLayout layer forest, ∀ i, (line.toRow i).line = .ok line := fun line hl i =>
    Line.line_toRow i (fits line hl) (onOwnLayer_forestLayout even forest line hl) (trimmed line hl)
  have allLive : (rowsOf index (forestLayout layer forest)).filter Row.isLive =
      rowsOf index (forestLayout layer forest) :=
    List.filter_eq_self.2 fun r hr => Row.isLive_of_live (isDeleted_rowsOf hr)
  have read : scan (layer + 1) none (rowsOf index (forestLayout layer forest)) =
      .ok (forestLayout layer forest, []) := by
    refine scan_complete (fun r hr => ⟨false, isDeleted_rowsOf hr⟩) ?_ (wellPlaced_layout layer forest)
    rw [allLive]
    exact say_rowsOf index reads
  exact (buildForest_ok_iff (by omega)).2 ⟨[], read⟩

/-- A layout that reaches the largest layer, whose nested table has the largest layer as its base. -/
theorem buildForest_rowsOf_maxLayer :
    4294967292 % 2 = 0 ∧
    (∀ line ∈ forestLayout 4294967292 orderForest, line.layer ≤ maxLayer) ∧
    (∀ line ∈ forestLayout 4294967292 orderForest, ∀ text ∈ line.texts, Text.trim text = text) ∧
    (buildForest 4294967293 (rowsOf id (forestLayout 4294967292 orderForest))).result =
      .ok orderForest := by
  have fits : ∀ line ∈ forestLayout 4294967292 orderForest, line.layer ≤ maxLayer := by decide +kernel
  have trimmed : ∀ line ∈ forestLayout 4294967292 orderForest, ∀ text ∈ line.texts,
      Text.trim text = text := by
    decide +kernel
  exact ⟨by decide, fits, trimmed, buildForest_rowsOf id (by decide) fits trimmed⟩

end ClassTable
