import ClassTable.Definition
import ClassTable.Row

/-!
Forests laid out as lines, the inverse of reading them from rows.  A class at layer `c` gives one line, its
fields give lines at `c + 1`, and the classes that a field declares follow it at `c + 2`.  A layout has no
parent pointers and yet determines its forest (`forestLayout_inj`), because the layers alone say where each
nested part ends.
-/

set_option autoImplicit false

namespace ClassTable

/-- What a live row says: the start of a class or a field, at a layer. -/
inductive Line where
  | ofClass (layer : Nat) (name description : String)
  | ofField (layer : Nat) (name dataType initialValue description : String) (invariant : Bool)
deriving DecidableEq, Repr

namespace Line

def layer : Line → Nat
  | ofClass layer .. => layer
  | ofField layer .. => layer

def texts : Line → List String
  | ofClass _ name description => [name, description]
  | ofField _ name dataType initialValue description _ => [name, dataType, initialValue, description]

@[simp] theorem layer_ofClass (layer : Nat) (name description : String) :
    (ofClass layer name description).layer = layer := rfl

@[simp] theorem layer_ofField (layer : Nat) (name dataType initialValue description : String)
    (invariant : Bool) :
    (ofField layer name dataType initialValue description invariant).layer = layer := rfl

end Line

mutual

def ClassDef.layout (layer : Nat) : ClassDef → List Line
  | ⟨name, description, fields⟩ => .ofClass layer name description :: fieldsLayout (layer + 1) fields

def fieldsLayout (layer : Nat) : List FieldDef → List Line
  | [] => []
  | ⟨name, dataType, initialValue, description, invariant, children⟩ :: rest =>
    .ofField layer name dataType initialValue description invariant
      :: (forestLayout (layer + 1) children ++ fieldsLayout layer rest)

def forestLayout (layer : Nat) : List ClassDef → List Line
  | [] => []
  | c :: rest => c.layout layer ++ forestLayout layer rest

end

@[simp] theorem fieldsLayout_nil (layer : Nat) : fieldsLayout layer [] = [] := rfl

@[simp] theorem fieldsLayout_cons (layer : Nat) (f : FieldDef) (rest : List FieldDef) :
    fieldsLayout layer (f :: rest) =
      .ofField layer f.name f.dataType f.initialValue f.description f.invariant
        :: (forestLayout (layer + 1) f.children ++ fieldsLayout layer rest) := by
  cases f
  rfl

@[simp] theorem forestLayout_nil (layer : Nat) : forestLayout layer [] = [] := rfl

@[simp] theorem forestLayout_cons (layer : Nat) (c : ClassDef) (rest : List ClassDef) :
    forestLayout layer (c :: rest) =
      .ofClass layer c.name c.description
        :: (fieldsLayout (layer + 1) c.fields ++ forestLayout layer rest) := by
  cases c
  rfl

theorem forestLayout_append (layer : Nat) (xs ys : List ClassDef) :
    forestLayout layer (xs ++ ys) = forestLayout layer xs ++ forestLayout layer ys := by
  induction xs with
  | nil => rfl
  | cons c xs ih => simp [ih]

/-- Holds of lines that do not continue a layout at `layer`: none, or the first one lies lower. -/
def StartsBelow (layer : Nat) : List Line → Prop
  | [] => True
  | line :: _ => line.layer < layer

@[simp] theorem startsBelow_nil (layer : Nat) : StartsBelow layer [] := trivial

@[simp] theorem startsBelow_cons (layer : Nat) (line : Line) (rest : List Line) :
    StartsBelow layer (line :: rest) ↔ line.layer < layer := Iff.rfl

theorem StartsBelow.mono {m n : Nat} (h : m ≤ n) {lines : List Line} (below : StartsBelow m lines) :
    StartsBelow n lines := by
  cases lines with
  | nil => trivial
  | cons line rest => exact Nat.lt_of_lt_of_le below h

theorem startsBelow_forestLayout (layer : Nat) (forest : List ClassDef) {rest : List Line}
    (below : StartsBelow (layer + 1) rest) : StartsBelow (layer + 1) (forestLayout layer forest ++ rest) := by
  cases forest with
  | nil => exact below
  | cons c forest => simp

theorem startsBelow_fieldsLayout (layer : Nat) (fields : List FieldDef) {rest : List Line}
    (below : StartsBelow (layer + 1) rest) : StartsBelow (layer + 1) (fieldsLayout layer fields ++ rest) := by
  cases fields with
  | nil => exact below
  | cons f fields => simp

mutual

theorem fieldsLayout_append_inj (layer : Nat) :
    ∀ (xs ys : List FieldDef) {r s : List Line}, StartsBelow layer r → StartsBelow layer s →
      fieldsLayout layer xs ++ r = fieldsLayout layer ys ++ s → xs = ys ∧ r = s
  | [], [], _, _, _, _, h => ⟨rfl, h⟩
  | [], f :: ys, r, s, hr, _, h => by
    have h : r = _ := h
    simp [h] at hr
  | f :: xs, [], r, s, _, hs, h => by
    have h : _ = s := h
    simp [← h] at hs
  | ⟨n, t, i, d, v, children⟩ :: xs, g :: ys, r, s, hr, hs, h => by
    simp only [fieldsLayout_cons, List.cons_append, List.append_assoc, List.cons.injEq,
      Line.ofField.injEq, true_and] at h
    obtain ⟨⟨hn, ht, hi, hd, hv⟩, h⟩ := h
    obtain ⟨hc, h⟩ := forestLayout_append_inj (layer + 1) children g.children
      (startsBelow_fieldsLayout layer xs (hr.mono (Nat.le_succ layer)))
      (startsBelow_fieldsLayout layer ys (hs.mono (Nat.le_succ layer))) h
    obtain ⟨hxs, hrs⟩ := fieldsLayout_append_inj layer xs ys hr hs h
    cases g
    simp_all

theorem forestLayout_append_inj (layer : Nat) :
    ∀ (xs ys : List ClassDef) {r s : List Line}, StartsBelow layer r → StartsBelow layer s →
      forestLayout layer xs ++ r = forestLayout layer ys ++ s → xs = ys ∧ r = s
  | [], [], _, _, _, _, h => ⟨rfl, h⟩
  | [], c :: ys, r, s, hr, _, h => by
    have h : r = _ := h
    simp [h] at hr
  | c :: xs, [], r, s, _, hs, h => by
    have h : _ = s := h
    simp [← h] at hs
  | ⟨n, d, fields⟩ :: xs, c :: ys, r, s, hr, hs, h => by
    simp only [forestLayout_cons, List.cons_append, List.append_assoc, List.cons.injEq,
      Line.ofClass.injEq, true_and] at h
    obtain ⟨⟨hn, hd⟩, h⟩ := h
    obtain ⟨hf, h⟩ := fieldsLayout_append_inj (layer + 1) fields c.fields
      (startsBelow_forestLayout layer xs (hr.mono (Nat.le_succ layer)))
      (startsBelow_forestLayout layer ys (hs.mono (Nat.le_succ layer))) h
    obtain ⟨hxs, hrs⟩ := forestLayout_append_inj layer xs ys hr hs h
    cases c
    simp_all

end

theorem forestLayout_inj {layer : Nat} {xs ys : List ClassDef}
    (h : forestLayout layer xs = forestLayout layer ys) : xs = ys := by
  have h : forestLayout layer xs ++ [] = forestLayout layer ys ++ [] := by rw [h]
  exact (forestLayout_append_inj layer xs ys (startsBelow_nil layer) (startsBelow_nil layer) h).1

end ClassTable
