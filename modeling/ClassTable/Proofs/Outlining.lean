import ClassTable.Definition.Outline
import ClassTable.Proofs.Generation

set_option autoImplicit false

namespace ClassTable

def Line.outlineText : Line → String
  | ofClass layer name description => classLine layer name description
  | ofField layer name dataType _ _ invariant => fieldLine layer name dataType invariant

/-- The text of a live row in an outline: two blanks for each layer, then what the row declares. -/
inductive Row.Outlined (r : Row) : String → Prop
  | ofClass {layer : Nat} (parse : r.layer = .ok layer) (even : layer % 2 = 0) :
      Outlined r (String.ofList (List.replicate (2 * layer) ' ') ++ r.name ++ " (" ++ r.description ++ ")\n")
  | ofField {layer : Nat} {invariant : Bool} (parse : r.layer = .ok layer) (odd : layer % 2 = 1)
      (flag : r.isInvariant = .ok invariant) :
      Outlined r (String.ofList (List.replicate (2 * layer) ' ') ++ r.name ++ ": " ++ r.dataType
        ++ (if invariant then " [required]" else "") ++ "\n")

section Texts

mutual

theorem fieldsOutlineAt_eq (depth : Nat) :
    ∀ fields : List FieldDef,
      fieldsOutlineAt depth fields = String.join ((fieldsLayout depth fields).map Line.outlineText)
  | [] => rfl
  | ⟨name, dataType, initialValue, description, invariant, children⟩ :: fields => by
    have nested := forestOutlineAt_eq (depth + 1) children
    have rest := fieldsOutlineAt_eq depth fields
    rw [fieldsOutlineAt, nested, rest, fieldsLayout_cons, List.map_cons, String.join_cons, List.map_append,
      String.join_append, String.append_assoc]
    rfl

theorem forestOutlineAt_eq (depth : Nat) :
    ∀ forest : List ClassDef,
      forestOutlineAt depth forest = String.join ((forestLayout depth forest).map Line.outlineText)
  | [] => rfl
  | ⟨name, description, fields⟩ :: forest => by
    have members := fieldsOutlineAt_eq (depth + 1) fields
    have rest := forestOutlineAt_eq depth forest
    rw [forestOutlineAt, ClassDef.outlineAt, members, rest, forestLayout_cons, List.map_cons,
      String.join_cons, List.map_append, String.join_append, String.append_assoc]
    rfl

end

theorem Row.outlined_of_line {r : Row} {l : Line} (read : r.line = .ok l) : r.Outlined l.outlineText := by
  obtain ⟨layer, parse, even, rfl⟩ | ⟨layer, invariant, parse, odd, flag, rfl⟩ := Row.line_eq_ok read
  · exact .ofClass parse even
  · exact .ofField parse odd flag

theorem outlined_of_say {rows : List Row} {lines : List Line} (say : Say rows lines) :
    List.Forall₂ Row.Outlined rows (lines.map Line.outlineText) := by
  induction say with
  | nil => exact .nil
  | cons read _ ih => exact .cons (Row.outlined_of_line read) ih

end Texts

/-- The outline of a whole table has one line for each live row, in table order. -/
theorem outline_of_buildForest {rows : List Row} {forest : List ClassDef}
    (built : (buildForest rootBase rows).result = .ok forest) :
    ∃ texts, List.Forall₂ Row.Outlined (rows.filter Row.isLive) texts ∧ outline forest = String.join texts := by
  obtain ⟨-, say, -⟩ := buildForest_root_iff.1 built
  exact ⟨_, outlined_of_say say, forestOutlineAt_eq 0 forest⟩

/-- A table that ends two levels at once, with a deleted row behind the deeper one. -/
def basketTable : List Row :=
  [.classStart 2 0 "Basket" "What is bought", .field 3 1 "lines" "List" true,
    .classStart 4 2 "Article" "", .field 5 3 " sku " "String" false,
    (Row.field 6 3 "draft" "int" false).markDeleted, .classStart 7 0 "Buyer" "Who pays"]

def basketForest : List ClassDef :=
  [⟨"Basket", "What is bought",
      [⟨"lines", "List", "", "", true, [⟨"Article", "", [⟨"sku", "String", "", "", false, []⟩]⟩]⟩]⟩,
    ⟨"Buyer", "Who pays", []⟩]

theorem outline_basketTable :
    (buildForest rootBase basketTable).result = .ok basketForest ∧
      ∃ texts, List.Forall₂ Row.Outlined (basketTable.filter Row.isLive) texts ∧
        outline basketForest = String.join texts := by
  have read : scan rootBase none basketTable = .ok (forestLayout 0 basketForest, []) := by
    decide +kernel
  have built : (buildForest rootBase basketTable).result = .ok basketForest :=
    (buildForest_ok_iff (by decide)).2 ⟨_, read⟩
  exact ⟨built, outline_of_buildForest built⟩

end ClassTable
