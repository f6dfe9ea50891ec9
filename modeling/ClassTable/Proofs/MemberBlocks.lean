import ClassTable.Proofs.RenderedMap
import ClassTable.Proofs.SourceText
import ClassTable.Proofs.Template.Appending
import Mathlib.Data.List.Nodup

set_option autoImplicit false

namespace ClassTable

open Template Template.Writer

def block (write : String → Writer → Writer) : String := (write "    " ⟨"", true, false, true⟩).text

def blocks {α : Type} (write : String → α → Writer → Writer) (members : List α) : String :=
  String.join (members.map fun x => "\n" ++ block (write · x))

section Blocks

variable {indent : String} {α : Type} {write : String → α → Writer → Writer} {members : List α}

theorem blocks_append (members' : List α) :
    blocks write (members ++ members') = blocks write members ++ blocks write members' := by
  simp [blocks]

theorem blocks_singleton (x : α) : blocks write [x] = "\n" ++ block (write · x) := by
  simp [blocks]

/-- The empty line in front of a member makes it start the same way behind any output. -/
theorem text_member {f : Writer → Writer} (appends : Appends f) (w : Writer) :
    (inOrder [piece "" "\n", nested (startsEmbed true "    ") f] w).text =
      w.text ++ ("\n" ++ (f ⟨"", true, false, true⟩).text) := by
  have feed : piece "" "\n" w = ⟨w.text ++ "\n", true, true, true⟩ := by
    simp [piece, Writer.write, isLineEnd]
  change (nested (startsEmbed true "    ") f (piece "" "\n" w)).text = _
  rw [feed, text_nested]
  have entered : Writer.enter ⟨w.text ++ "\n", true, true, true⟩ true =
      Writer.behind (w.text ++ "\n") ⟨"", true, false, true⟩ := by simp [Writer.enter, Writer.behind]
  change (f (Writer.enter ⟨w.text ++ "\n", true, true, true⟩ true)).text = _
  rw [entered, appends, Writer.behind, String.append_assoc]

theorem text_members (appends : ∀ x ∈ members, Appends (write "    " x)) (w : Writer) :
    (writeMembers "" write members w).text = w.text ++ blocks write members := by
  unfold writeMembers
  rw [text_nested]
  change _ = (w.enter (startsBlock true w)).text ++ _
  generalize w.enter (startsBlock true w) = w'
  unfold blocks
  induction members generalizing w' with
  | nil => simp [inOrder]
  | cons x members ih =>
    obtain ⟨first, rest⟩ := List.forall_mem_cons.1 appends
    rw [List.map_cons, List.map_cons, String.join_cons, ← String.append_assoc]
    refine (ih rest _).trans (congrArg (· ++ _) ?_)
    exact text_member first w'

theorem appends_field {f : FieldDef} : Appends (writeField indent f) := by
  have writes : NodesWrite 3 ⟨[], .start f.context, indent, [], 0⟩ "field" Builtin.fieldNodes
      (writeField indent f) := writes_field (.start _)
  exact (local_of_writes rfl writes).appends

theorem appends_accessor {f : FieldDef} : Appends (writeAccessor indent f) := by
  have writes : NodesWrite 1 ⟨[], .start f.context, indent, [], 0⟩ "accessor" Builtin.accessorNodes
      (writeAccessor indent f) := writes_accessor (.start _)
  exact (local_of_writes rfl writes).appends

theorem appends_constructor {className : String} {k : Constructor} :
    Appends (writeConstructor indent className k) := by
  have writes : NodesWrite 5 ⟨[], .start (k.context className), indent, [], 0⟩ "constructor"
      Builtin.constructorNodes (writeConstructor indent className k) := writes_constructor (.start _)
  exact (local_of_writes rfl writes).appends

end Blocks

def ClassDef.headLines (p : Project) (c : ClassDef) : List String :=
  p.copyrightLines ++ ["package " ++ p.package ++ ";", "", "import lombok.Data;"] ++
    (if c.fields.any (fun f => isNonNullType f.dataType) then ["import lombok.NonNull;"] else []) ++ [""] ++
    c.docLines p ++ ["@Data", "public class " ++ c.name ++ " \x7b"]

def writeHead (p : Project) (c : ClassDef) : Writer → Writer :=
  inOrder [nested (startsEmbed true "") (writeCopyright "" p), piece "" "package ", piece "" p.package,
    piece "" ";\n\nimport lombok.Data;\n",
    nested (startsBlock true) (onlyIf (c.fields.any fun f => isNonNullType f.dataType)
      (inOrder [piece "" "import lombok.NonNull;\n"])),
    piece "" "\n", nested (startsEmbed true "") (writeClassDoc "" p c), piece "" "@Data\npublic class ",
    piece "" c.name, piece "" " \x7b\n"]

theorem adds_head (p : Project) (c : ClassDef) : Adds "" (linesText (c.headLines p)) (writeHead p c) := by
  unfold writeHead
  refine .of_eq (
    adds_cons (adds_embed <| adds_copyright p) <|
    adds_textThen fits_plain fits_plain <|
    adds_cons (adds_piece fits_plain) <|
    adds_cons (adds_block _ <| adds_onlyIf fun _ => adds_text fits_plain) <|
    adds_cons (adds_piece fits_plain) <|
    adds_cons (adds_embed <| adds_classDoc p c) <|
    adds_textThen fits_plain fits_plain <|
    adds_text fits_plain) ?_
  apply String.toList_inj.1
  unfold ClassDef.headLines
  cases c.fields.any fun f => isNonNullType f.dataType <;> simp

/-- Below its head a class text is its members one after another, each as a block of its own. -/
theorem classText_eq_blocks (p : Project) (c : ClassDef) :
    classText p c = linesText (c.headLines p) ++ blocks writeField c.fields ++
      blocks (fun indent k => writeConstructor indent c.name k) (Constructor.ofClass c) ++
      blocks writeAccessor c.fields ++ "\x7d\n" := by
  have text : classText p c = (piece "" "\x7d\n" (writeMembers "" writeAccessor c.fields
      (writeMembers "" (fun indent k => writeConstructor indent c.name k) (Constructor.ofClass c)
        (writeMembers "" writeField c.fields (writeHead p c .empty))))).text := rfl
  have head : (writeHead p c .empty).text = linesText (c.headLines p) := by
    have start : Writer.empty.Settled := nofun
    rw [adds_head p c _ start]
    simp [Writer.add, Writer.empty, indented, indentChars_nil_indent]
  have constructors : ∀ w,
      (writeMembers "" (fun indent k => writeConstructor indent c.name k) (Constructor.ofClass c) w).text =
        w.text ++ blocks (fun indent k => writeConstructor indent c.name k) (Constructor.ofClass c) :=
    text_members fun _ _ => appends_constructor
  rw [text, text_piece, text_members fun _ _ => appends_accessor, constructors,
    text_members fun _ _ => appends_field, head]

/-- What tells the constructors of one class apart. -/
def Constructor.signature (k : Constructor) : List String := k.parameters.map Parameter.dataType

theorem signatures_eq (c : ClassDef) :
    (Constructor.ofClass c).map Constructor.signature =
      [] :: ((if c.invariantFields = [] then [] else [c.invariantFields.map FieldDef.dataType]) ++ [[c.name]]) := by
  have required : (Constructor.ofKind c .required).signature = c.invariantFields.map FieldDef.dataType := by
    simp [Constructor.signature, Constructor.ofKind, Constructor.parameters, FieldDef.member]
  rw [ofClass_eq, List.map_append, List.map_append, apply_ite (List.map _)]
  simp only [List.map_cons, List.map_nil, required]
  rfl

/-- The constructors of a class differ in their parameter types unless its one required field has the class
itself as its type. -/
theorem signatures_nodup_iff (c : ClassDef) :
    ((Constructor.ofClass c).map Constructor.signature).Nodup ↔
      ∀ f, c.invariantFields = [f] → f.dataType ≠ c.name := by
  rw [signatures_eq]
  cases fields : c.invariantFields with
  | nil => simp
  | cons f rest =>
    have clash : (f :: rest).map FieldDef.dataType = [c.name] ↔ rest = [] ∧ f.dataType = c.name := by
      cases rest <;> simp
    rw [if_neg (List.cons_ne_nil _ _), List.singleton_append, List.nodup_cons, List.nodup_cons,
      List.mem_singleton, clash]
    constructor
    · rintro ⟨-, apart, -⟩ g same own
      obtain ⟨rfl, alone⟩ := List.cons.inj same
      exact apart ⟨alone, own⟩
    · intro apart
      exact ⟨by simp, fun ⟨alone, own⟩ => apart f (by rw [alone]) own, List.nodup_singleton _⟩

def linkedNode : ClassDef := ⟨"Node", "An element of a list.", [⟨"next", "Node", "", "", true, []⟩]⟩

theorem signatures_linkedNode :
    (∃ text, (Renderer.standard (.standard ⟨2024, 5, 17, by decide⟩)).renderClass linkedNode = .ok text) ∧
      ¬((Constructor.ofClass linkedNode).map Constructor.signature).Nodup := by
  have complete : linkedNode.fault? = none := by decide +kernel
  exact ⟨⟨_, renderClass_of_complete _ complete⟩, by decide⟩

namespace FieldDef

def getterText (f : FieldDef) (getter : String) : String :=
  "/**\n * @return the " ++ f.name ++ "\n */\npublic " ++ f.dataType ++ " " ++ getter ++
    ("() \x7b\n    return " ++ f.name ++ ";\n\x7d\n")

/-- Holds of the name under which the template for getters declares one for this field. -/
def Declares (f : FieldDef) (getter : String) : Prop :=
  Library.builtin.render Builtin.accessor.name f.context = .ok (f.getterText getter)

def writeGetter (indent : String) (f : FieldDef) (getter : String) : Writer → Writer :=
  inOrder [piece indent "/**\n * @return the ", piece indent f.name, piece indent "\n */\npublic ",
    piece indent f.dataType, piece indent " ", nested (·.indentNext) (piece indent getter),
    piece indent "() \x7b\n    return ", piece indent f.name, piece indent ";\n\x7d\n"]

theorem adds_getter (f : FieldDef) : Adds "" (f.getterText (Text.getterName f.name)) (writeAccessor "" f) := by
  unfold writeAccessor
  refine .of_eq (
    adds_textThen fits_plain fits_plain <|
    adds_textThen fits_plain fits_plain <|
    adds_cons (adds_piece fits_plain) <|
    adds_cons (adds_nested <| adds_piece fits_plain) <|
    adds_textThen fits_plain fits_plain <|
    adds_text fits_plain) ?_
  unfold getterText
  simp only [String.append_assoc]

theorem declares_iff {f : FieldDef} {getter : String} :
    f.Declares getter ↔ getter = Text.getterName f.name := by
  have writes : NodesWrite (3999 + 1) ⟨.builtin, .start f.context, "", [], 0⟩ "accessor" Builtin.accessorNodes
      (writeAccessor "" f) := writes_accessor (.start _)
  have rendered : Library.builtin.render Builtin.accessor.name f.context =
      .ok (f.getterText (Text.getterName f.name)) := by
    have start : Writer.empty.Settled := nofun
    rw [render_of_writes (Builtin.lookup_builtin .accessor) writes, adds_getter f _ start]
    simp [Writer.add, Writer.empty, indented, indentChars_nil_indent]
  unfold Declares
  rw [rendered]
  constructor
  · intro same
    exact (String.append_right_inj _).1 ((String.append_left_inj _).1 (Except.ok.inj same).symm)
  · rintro rfl
    rfl

end FieldDef

theorem nodup_getterNames_iff (c : ClassDef) :
    (c.fields.map fun f => Text.getterName f.name).Nodup ↔ (c.fields.map fun f => Text.upperFirst f.name).Nodup := by
  have prefixed : (c.fields.map fun f => Text.getterName f.name) =
      (c.fields.map fun f => Text.upperFirst f.name).map ("get" ++ ·) := by
    rw [List.map_map]
    rfl
  have injective : Function.Injective ("get" ++ · : String → String) := fun _ _ same =>
    (String.append_right_inj _).1 same
  rw [prefixed, List.nodup_map_iff injective]

/-- The getters that the copying constructor of a rendered class calls are, field by field, those that its
last blocks declare; each is declared once just when no two field names agree with their first characters
in upper case. -/
theorem getters_of_renderClass (p : Project) (policy : CollisionPolicy) {c : ClassDef} {text : String}
    (rendered : (⟨p, .builtin, policy⟩ : Renderer).renderClass c = .ok text) :
    ∃ getters : List String,
      (Constructor.ofKind c .copying).assignments =
        List.zipWith (fun f getter => ⟨f.name, "other." ++ getter ++ "()"⟩) c.fields getters ∧
      List.Forall₂ FieldDef.Declares c.fields getters ∧
      (∃ head, text = head ++
        ("\n" ++ block fun indent => writeConstructor indent c.name (.ofKind c .copying)) ++
        String.join (List.zipWith (fun f getter => "\n" ++ block fun indent => f.writeGetter indent getter)
          c.fields getters) ++ "\x7d\n") ∧
      ((∀ getter ∈ getters, getters.count getter = 1) ↔
        (c.fields.map fun f => Text.upperFirst f.name).Nodup) := by
  have complete : c.fault? = none := Renderer.complete_of_renderClass rendered
  have same : (⟨p, .builtin, policy⟩ : Renderer).renderClass c = .ok (classText p c) :=
    renderClass_of_complete p complete
  obtain rfl := Except.ok.inj (same.symm.trans rendered)
  refine ⟨c.fields.map fun f => Text.getterName f.name, ?called, ?declared, ?written, ?once⟩
  case called =>
    rw [List.zipWith_map_right, List.zipWith_self]
    change (c.fields.map FieldDef.member).map _ = _
    rw [List.map_map]
    have argument : Constructor.copyArgument ++ "." = "other." := by decide
    refine List.map_congr_left fun f _ => ?_
    exact congrArg (fun front => Assignment.mk f.name (front ++ Text.getterName f.name ++ "()")) argument
  case declared =>
    rw [List.forall₂_map_right_iff, List.forall₂_same]
    exact fun f _ => FieldDef.declares_iff.2 rfl
  case written =>
    rw [classText_eq_blocks, List.zipWith_map_right, List.zipWith_self, ofClass_eq, blocks_append, blocks_singleton]
    refine ⟨linesText (c.headLines p) ++ blocks writeField c.fields ++ blocks (fun indent k => writeConstructor indent c.name k)
      ([.ofKind c .default] ++ if c.invariantFields = [] then [] else [.ofKind c .required]), ?_⟩
    simp only [String.append_assoc]
    rfl
  case once => rw [← List.nodup_iff_count_eq_one, nodup_getterNames_iff]

theorem getters_stockItem :
    ∃ text getters,
      (Renderer.standard (.standard ⟨2024, 5, 17, by decide⟩)).renderClass stockItem = .ok text ∧
        List.Forall₂ FieldDef.Declares stockItem.fields getters ∧ ∀ getter ∈ getters, getters.count getter = 1 := by
  have complete : stockItem.fault? = none := by decide +kernel
  have rendered := renderClass_of_complete (.standard ⟨2024, 5, 17, by decide⟩) complete
  obtain ⟨getters, -, declared, -, once⟩ := getters_of_renderClass _ .reject rendered
  exact ⟨_, getters, rendered, declared, once.2 (by decide +kernel)⟩

/-- Two fields whose names differ in the case of their first letter. -/
def twoIds : ClassDef :=
  ⟨"Entry", "An entry.", [⟨"id", "long", "", "", false, []⟩, ⟨"Id", "String", "", "", false, []⟩]⟩

theorem getters_twoIds :
    (∃ text, (Renderer.standard (.standard ⟨2024, 5, 17, by decide⟩)).renderClass twoIds = .ok text) ∧
      (Constructor.ofKind twoIds .copying).assignments.map Assignment.value = ["other.getId()", "other.getId()"] ∧
      twoIds.fields.length = 2 ∧ ∀ f ∈ twoIds.fields, f.Declares "getId" := by
  have complete : twoIds.fault? = none := by decide +kernel
  have declared : ∀ f ∈ twoIds.fields, f.Declares "getId" := by
    simp only [FieldDef.declares_iff]
    decide +kernel
  exact ⟨⟨_, renderClass_of_complete _ complete⟩, by decide +kernel, rfl, declared⟩

end ClassTable
