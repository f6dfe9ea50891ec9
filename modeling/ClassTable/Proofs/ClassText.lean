import ClassTable.Proofs.Template.Parsing
import ClassTable.Proofs.Template.Writing
import ClassTable.Sources

set_option autoImplicit false

namespace ClassTable

open Template Template.Writer

def onlyIf (condition : Bool) (f : Writer → Writer) : Writer → Writer := if condition then f else id

def writeCopyright (indent : String) (p : Project) : Writer → Writer :=
  inOrder [piece indent "/*\n * Copyright (c) ", piece indent (Number.int p.year).text, piece indent " ",
    piece indent p.creator, piece indent ". All rights reserved.\n *\n * Project: ", piece indent p.project,
    piece indent " ", piece indent p.version,
    piece indent "\n * Generated by dtoforge. Do not edit by hand.\n */\n"]

def writeCommentLine (indent line : String) : Writer → Writer :=
  inOrder [piece indent " *",
    nested (startsBlock false) (onlyIf (!line.isEmpty) (inOrder [piece indent " ", piece indent line])),
    piece indent "\n"]

def writeComment (indent : String) (lines : List String) : Writer → Writer :=
  nested (startsBlock true) (inOrder (lines.map (writeCommentLine indent)))

def writeClassDoc (indent : String) (p : Project) (c : ClassDef) : Writer → Writer :=
  inOrder [piece indent "/**\n", writeComment indent ((Text.lines c.description).map Text.trimEnd),
    piece indent " *\n * @author ", piece indent p.creator, piece indent "\n * @version ",
    piece indent p.version, piece indent "\n * @since ", piece indent p.created.text,
    piece indent "\n */\n"]

def writeField (indent : String) (f : FieldDef) : Writer → Writer :=
  inOrder [
    nested (startsBlock true) (onlyIf (!f.description.isEmpty)
      (inOrder [piece indent "/** ", piece indent f.description, piece indent " */\n"])),
    nested (startsBlock true) (onlyIf (isNonNullType f.dataType) (inOrder [piece indent "@NonNull\n"])),
    piece indent "private ", piece indent f.dataType, piece indent " ", piece indent f.name,
    nested (startsBlock false) (onlyIf (!f.initialValue.isEmpty)
      (inOrder [piece indent " = ", piece indent f.initialValue])),
    piece indent ";\n"]

def writeParameter (indent : String) (count index : Nat) (p : Parameter) : Writer → Writer :=
  inOrder [piece indent p.dataType, piece indent " ", piece indent p.name,
    nested (startsBlock false) (onlyIf (!(index + 1 == count)) (inOrder [piece indent ", "]))]

def writeAssignment (indent : String) (a : Assignment) : Writer → Writer :=
  inOrder [piece indent "    this.", piece indent a.member, piece indent " = ", piece indent a.value,
    piece indent ";\n"]

def writeConstructor (indent className : String) (c : Constructor) : Writer → Writer :=
  inOrder [piece indent "/**\n", writeComment indent (c.kind.doc className), piece indent " */\npublic ",
    piece indent className, piece indent "(",
    nested (startsBlock false) (inOrder (c.parameters.mapIdx (writeParameter indent c.parameters.length))),
    piece indent ") \x7b\n",
    nested (startsBlock true) (inOrder (c.assignments.map (writeAssignment indent))),
    piece indent "\x7d\n"]

def writeAccessor (indent : String) (f : FieldDef) : Writer → Writer :=
  inOrder [piece indent "/**\n * @return the ", piece indent f.name, piece indent "\n */\npublic ",
    piece indent f.dataType, piece indent " ",
    nested (·.indentNext) (piece indent (Text.getterName f.name)), piece indent "() \x7b\n    return ",
    piece indent f.name, piece indent ";\n\x7d\n"]

def writeMembers {α : Type} (indent : String) (write : String → α → Writer → Writer) (members : List α) :
    Writer → Writer :=
  nested (startsBlock true) (inOrder (members.map fun x =>
    inOrder [piece indent "\n", nested (startsEmbed true "    ") (write (indent ++ "    ") x)]))

def writeClass (indent : String) (p : Project) (c : ClassDef) : Writer → Writer :=
  inOrder [nested (startsEmbed true "") (writeCopyright (indent ++ "") p), piece indent "package ",
    piece indent p.package, piece indent ";\n\nimport lombok.Data;\n",
    nested (startsBlock true) (onlyIf (c.fields.any fun f => isNonNullType f.dataType)
      (inOrder [piece indent "import lombok.NonNull;\n"])),
    piece indent "\n", nested (startsEmbed true "") (writeClassDoc (indent ++ "") p c),
    piece indent "@Data\npublic class ", piece indent c.name, piece indent " \x7b\n",
    writeMembers indent writeField c.fields,
    writeMembers indent (fun indent k => writeConstructor indent c.name k) (Constructor.ofClass c),
    writeMembers indent writeAccessor c.fields, piece indent "\x7d\n"]

section Templates

variable {fuel : Nat} {env : Env} {running : String}

theorem writes_copyright {p : Project} {c : ClassDef} (sees : env.scope.Sees (c.context p)) :
    NodesWrite (fuel + 1) env running Builtin.copyrightNodes (writeCopyright env.indent p) := by
  refine nodesWrite_inOrder ?_
  refine textThenPath (v := .num (.int p.year)) sees rfl rfl ?_
  refine textThenPath (v := .str p.creator) sees rfl rfl ?_
  refine textThenPath (v := .str p.project) sees rfl rfl ?_
  refine textThenPath (v := .str p.version) sees rfl rfl ?_
  exact .cons (nodeWrites_text _) .nil

theorem writes_commentLine {line : String} (sees : env.scope.Sees (.str line)) :
    NodesWrite (fuel + 3) env running Builtin.commentLineNodes (writeCommentLine env.indent line) := by
  refine nodesWrite_inOrder (.cons (nodeWrites_text _) (.cons ?_ (.cons (nodeWrites_text _) .nil)))
  refine nodeWrites_if (v := .str line) (sees.leads rfl) fun _ => nodesWrite_inOrder ?_
  exact textThenPath (v := .str line) sees rfl rfl .nil

theorem nodeWrites_comment {data : Json} {raw key : String} {lines : List String}
    (sees : env.scope.Sees data)
    (found : Scope.descend data [key] = .ok (some (.arr (lines.map .str)))) :
    NodeWrites (fuel + 5) env running (.blockOn "each" raw [key] true Builtin.commentLineNodes)
      (writeComment env.indent lines) :=
  nodeWrites_each (sees.leads found) (forall₂_itemFrames_map fun i _ _ =>
    writes_commentLine (sees.item lines.length i "index" (.nat i)))

theorem writes_classDoc {p : Project} {c : ClassDef} (sees : env.scope.Sees (c.context p)) :
    NodesWrite (fuel + 5) env running Builtin.classDocNodes (writeClassDoc env.indent p c) := by
  have lines : Scope.descend (c.context p) ["description_lines"] =
      .ok (some (.arr (((Text.lines c.description).map Text.trimEnd).map .str))) := by
    rw [List.map_map]
    rfl
  refine nodesWrite_inOrder (.cons (nodeWrites_text _) (.cons (nodeWrites_comment sees lines) ?_))
  refine textThenPath (v := .str p.creator) sees rfl rfl ?_
  refine textThenPath (v := .str p.version) sees rfl rfl ?_
  refine textThenPath (v := .str p.created.text) sees rfl rfl ?_
  exact .cons (nodeWrites_text _) .nil

theorem writes_field {f : FieldDef} (sees : env.scope.Sees f.context) :
    NodesWrite (fuel + 3) env running Builtin.fieldNodes (writeField env.indent f) := by
  refine nodesWrite_inOrder (.cons ?_ (.cons ?_ ?_))
  · refine nodeWrites_if (v := .str f.description) (sees.leads rfl) fun _ => nodesWrite_inOrder ?_
    exact textThenPath (v := .str f.description) sees rfl rfl (.cons (nodeWrites_text _) .nil)
  · refine nodeWrites_if (v := .bool (isNonNullType f.dataType)) (sees.leads rfl) fun _ => ?_
    exact nodesWrite_inOrder (.cons (nodeWrites_text _) .nil)
  refine textThenPath (v := .str f.dataType) sees rfl rfl ?_
  refine textThenPath (v := .str f.name) sees rfl rfl ?_
  refine .cons ?_ (.cons (nodeWrites_text _) .nil)
  refine nodeWrites_if (v := .str f.initialValue) (sees.leads rfl) fun _ => nodesWrite_inOrder ?_
  exact textThenPath (v := .str f.initialValue) sees rfl rfl .nil

theorem writes_accessor {f : FieldDef} (sees : env.scope.Sees f.context) :
    NodesWrite (fuel + 1) env running Builtin.accessorNodes (writeAccessor env.indent f) := by
  have name : env.scope.find (["name"].map .key) = .ok (some (.str f.name)) := sees.leads rfl
  refine nodesWrite_inOrder (textThenPath (v := .str f.name) sees rfl rfl ?_)
  refine textThenPath (v := .str f.dataType) sees rfl rfl ?_
  refine .cons (nodeWrites_text _) (.cons ?_ ?_)
  · exact nodeWrites_function (g := .getter) (r := .str (Text.getterName f.name)) rfl name rfl
  · exact textThenPath (v := .str f.name) sees rfl rfl (.cons (nodeWrites_text _) .nil)

theorem writes_parameter {p : Parameter} {count index : Nat} (sees : env.scope.Sees p.context)
    (last : env.scope.find [.data, .key "last"] = .ok (some (.bool (index + 1 == count)))) :
    NodesWrite (fuel + 3) env running Builtin.parameterNodes (writeParameter env.indent count index p) := by
  refine nodesWrite_inOrder (.cons (nodeWrites_path (v := .str p.dataType) rfl (sees.leads rfl)) ?_)
  refine textThenPath (v := .str p.name) sees rfl rfl ?_
  refine .cons (nodeWrites_unless last fun _ => ?_) .nil
  exact nodesWrite_inOrder (.cons (nodeWrites_text _) .nil)

theorem writes_assignment {a : Assignment} (sees : env.scope.Sees a.context) :
    NodesWrite (fuel + 1) env running
      [.text "    this.", .valueAt "member" ["member"], .text " = ", .valueAt "value" ["value"], .text ";\n"]
      (writeAssignment env.indent a) := by
  refine nodesWrite_inOrder (textThenPath (v := .str a.member) sees rfl rfl ?_)
  exact textThenPath (v := .str a.value) sees rfl rfl (.cons (nodeWrites_text _) .nil)

theorem writes_constructor {className : String} {k : Constructor}
    (sees : env.scope.Sees (k.context className)) :
    NodesWrite (fuel + 5) env running Builtin.constructorNodes
      (writeConstructor env.indent className k) := by
  refine nodesWrite_inOrder (.cons (nodeWrites_text _) (.cons (nodeWrites_comment sees rfl) ?_))
  refine textThenPath (v := .str className) sees rfl rfl ?_
  refine .cons (nodeWrites_text _) (.cons ?_ (.cons (nodeWrites_text _) (.cons ?_ ?_)))
  · exact nodeWrites_each (sees.leads rfl) (forall₂_itemFrames fun i p _ =>
      writes_parameter (sees.item k.parameters.length i "index" (.nat i)) rfl)
  · exact nodeWrites_each (sees.leads rfl) (forall₂_itemFrames_map fun i _ _ =>
      writes_assignment (sees.item k.assignments.length i "index" (.nat i)))
  · exact .cons (nodeWrites_text _) .nil

theorem nodeWrites_members {α : Type} {data : Json} {key name : String} {nodes : List Node}
    {members : List α} {context : α → Json} {write : String → α → Writer → Writer}
    (sees : env.scope.Sees data)
    (found : Scope.descend data [key] = .ok (some (.arr (members.map context))))
    (known : env.library.lookup name = some nodes) (other : running ≠ name) (noBody : name ≠ bodyName)
    (run : ∀ x ∈ members,
      NodesWrite fuel (env.placed (context x) "    ") name nodes (write (env.indent ++ "    ") x)) :
    NodeWrites (fuel + 3) env running (.blockOn "each" key [key] true [.text "\n", .place name "    "])
      (writeMembers env.indent write members) := by
  refine nodeWrites_each (sees.leads found) (forall₂_itemFrames_map fun i x mem => ?_)
  refine nodesWrite_inOrder (.cons (nodeWrites_text _) (.cons ?_ .nil))
  exact nodeWrites_embed known other noBody (run x mem)

/-- What the blocks of a class file write, each in its place. -/
structure BlockWriting where
  copyright : Writer → Writer
  classDoc : Writer → Writer
  field : FieldDef → Writer → Writer
  constructor : Constructor → Writer → Writer
  accessor : FieldDef → Writer → Writer

def BlockWriting.standard (indent : String) (p : Project) (c : ClassDef) : BlockWriting where
  copyright := writeCopyright (indent ++ "") p
  classDoc := writeClassDoc (indent ++ "") p c
  field := writeField (indent ++ "    ")
  constructor := writeConstructor (indent ++ "    ") c.name
  accessor := writeAccessor (indent ++ "    ")

def writeClassAround (indent : String) (w : BlockWriting) (p : Project) (c : ClassDef) : Writer → Writer :=
  inOrder [nested (startsEmbed true "") w.copyright, piece indent "package ",
    piece indent p.package, piece indent ";\n\nimport lombok.Data;\n",
    nested (startsBlock true) (onlyIf (c.fields.any fun f => isNonNullType f.dataType)
      (inOrder [piece indent "import lombok.NonNull;\n"])),
    piece indent "\n", nested (startsEmbed true "") w.classDoc,
    piece indent "@Data\npublic class ", piece indent c.name, piece indent " \x7b\n",
    writeMembers indent (fun _ => w.field) c.fields,
    writeMembers indent (fun _ => w.constructor) (Constructor.ofClass c),
    writeMembers indent (fun _ => w.accessor) c.fields, piece indent "\x7d\n"]

theorem writeClass_eq (indent : String) (p : Project) (c : ClassDef) :
    writeClass indent p c = writeClassAround indent (.standard indent p c) p c := by
  unfold writeClass writeClassAround writeMembers
  rfl

structure BlockWriting.Holds (w : BlockWriting) (fuel : Nat) (env : Env) (p : Project) (c : ClassDef)
    (blocks : Builtin → List Node) : Prop where
  copyright : NodesWrite (fuel + 7) (env.placed (c.context p) "") "copyright" (blocks .copyright) w.copyright
  classDoc : NodesWrite (fuel + 7) (env.placed (c.context p) "") "class_doc" (blocks .classDoc) w.classDoc
  field : ∀ f ∈ c.fields,
    NodesWrite (fuel + 5) (env.placed f.context "    ") "field" (blocks .field) (w.field f)
  constructor : ∀ k ∈ Constructor.ofClass c,
    NodesWrite (fuel + 5) (env.placed (k.context c.name) "    ") "constructor" (blocks .constructor)
      (w.constructor k)
  accessor : ∀ f ∈ c.fields,
    NodesWrite (fuel + 5) (env.placed f.context "    ") "accessor" (blocks .accessor) (w.accessor f)

theorem holds_standard (p : Project) (c : ClassDef) :
    (BlockWriting.standard env.indent p c).Holds fuel env p c Builtin.nodes where
  copyright := writes_copyright (.only _ _)
  classDoc := writes_classDoc (.only _ _)
  field _ _ := writes_field (.only _ _)
  constructor _ _ := writes_constructor (.only _ _)
  accessor _ _ := writes_accessor (.only _ _)

theorem writes_classAround {p : Project} {c : ClassDef} {blocks : Builtin → List Node} {w : BlockWriting}
    (sees : env.scope.Sees (c.context p)) (known : ∀ b, env.library.lookup b.name = some (blocks b))
    (holds : w.Holds fuel env p c blocks) :
    NodesWrite (fuel + 8) env "class" Builtin.classFileNodes (writeClassAround env.indent w p c) := by
  have here := Env.embedded_eq_placed sees
  refine nodesWrite_inOrder (.cons ?_ ?_)
  · exact nodeWrites_embed (known .copyright) (by decide) (by decide) (here "" ▸ holds.copyright)
  refine textThenPath (v := .str p.package) sees rfl rfl ?_
  refine .cons (nodeWrites_text _) (.cons ?_ (.cons (nodeWrites_text _) (.cons ?_ ?_)))
  · exact nodeWrites_if (v := .bool (c.fields.any fun f => isNonNullType f.dataType)) (sees.leads rfl)
      fun _ => nodesWrite_inOrder (.cons (nodeWrites_text _) .nil)
  · exact nodeWrites_embed (known .classDoc) (by decide) (by decide) (here "" ▸ holds.classDoc)
  refine textThenPath (v := .str c.name) sees rfl rfl (.cons (nodeWrites_text _) ?_)
  refine .cons ?_ (.cons ?_ (.cons ?_ (.cons (nodeWrites_text _) .nil)))
  · exact nodeWrites_members sees rfl (known .field) (by decide) (by decide) holds.field
  · exact nodeWrites_members sees rfl (known .constructor) (by decide) (by decide) holds.constructor
  · exact nodeWrites_members sees rfl (known .accessor) (by decide) (by decide) holds.accessor

theorem writes_classFile {p : Project} {c : ClassDef} (builtin : env.library = .builtin)
    (sees : env.scope.Sees (c.context p)) :
    NodesWrite (fuel + 8) env "class" Builtin.classFileNodes (writeClass env.indent p c) := by
  rw [writeClass_eq]
  exact writes_classAround sees (fun b => builtin ▸ Builtin.lookup_builtin b) (holds_standard p c)

end Templates

def classText (p : Project) (c : ClassDef) : String := (writeClass "" p c .empty).text

theorem render_of_writes {library : Library} {name : String} {nodes : List Node} {data : Json}
    {f : Writer → Writer} (found : library.lookup name = some nodes)
    (writes : NodesWrite Library.maxNesting ⟨library, .start data, "", [], 0⟩ name nodes f) :
    library.render name data = .ok (f .empty).text := by
  let env : Env := ⟨library, .start data, "", [], 0⟩
  obtain ⟨s, run, -, written⟩ := writes (.start name) ⟨rfl, .inr rfl⟩
  have run : nodes.foldlM (renderNode Library.maxNesting env) (.start name) = .ok s := run
  have found : library.find? name = some nodes := found
  unfold Library.render
  rw [found]
  change (nodes.foldlM (renderNode Library.maxNesting env) (.start name) >>= _) = _
  rw [run]
  exact congrArg (Except.ok ∘ Writer.text) written

theorem renderClass_of_writes {r : Renderer} {c : ClassDef} {f : Writer → Writer} (complete : c.fault? = none)
    (found : r.library.lookup "class" = some Builtin.classFileNodes)
    (writes : NodesWrite Library.maxNesting ⟨r.library, .start (c.context r.project), "", [], 0⟩ "class"
      Builtin.classFileNodes f) :
    r.renderClass c = .ok (f .empty).text := by
  have rendered := render_of_writes found writes
  unfold Renderer.renderClass
  rw [complete]
  change (r.library.render "class" (c.context r.project)).mapError Fault.template = _
  rw [rendered]
  rfl

theorem run_of_renderClass {r : Renderer} {c : ClassDef} {text : String}
    (found : r.library.lookup "class" = some Builtin.classFileNodes) (rendered : r.renderClass c = .ok text) :
    c.fault? = none ∧ ∃ s, Builtin.classFileNodes.foldlM
      (renderNode Library.maxNesting ⟨r.library, .start (c.context r.project), "", [], 0⟩) (.start "class") = .ok s := by
  unfold Renderer.renderClass at rendered
  cases lacks : c.fault? with
  | some fault =>
    rw [lacks] at rendered
    exact absurd rendered nofun
  | none =>
    rw [lacks] at rendered
    have found : r.library.find? "class" = some Builtin.classFileNodes := found
    have rendered : (r.library.render "class" (c.context r.project)).mapError Fault.template = .ok text := rendered
    refine ⟨rfl, ?_⟩
    cases render : r.library.render "class" (c.context r.project) with
    | error fault =>
      rw [render] at rendered
      exact absurd rendered nofun
    | ok text' =>
      unfold Library.render at render
      rw [found] at render
      obtain ⟨s, run, -⟩ := except_bind_eq_ok.1 render
      exact ⟨s, run⟩

theorem renderClass_of_complete (p : Project) {c : ClassDef} (complete : c.fault? = none) :
    (Renderer.standard p).renderClass c = .ok (classText p c) := by
  have writes : NodesWrite (3992 + 8) ⟨.builtin, .start (c.context p), "", [], 0⟩ "class"
      Builtin.classFileNodes (writeClass "" p c) := writes_classFile rfl (.start _)
  exact renderClass_of_writes complete (Builtin.lookup_builtin .classFile) writes

end ClassTable
