import ClassTable.Proofs.Keyed
import ClassTable.Proofs.MemberBlocks

/-!
Class files with one block of their own.  A block that neither puts other templates in its place nor defines
any is written into the same surroundings whatever its source: the file is fixed pieces of text with the
block's renderings between them, one for each use (`renderClass_replaced`).  Nothing of a rendering reaches
the text behind it, neither a line break that is missing at its end nor the indent of its lines.
-/

set_option autoImplicit false

namespace ClassTable

open Template Template.Writer

namespace Template.Builtin

def callIndent : Builtin → String
  | field | constructor | accessor => "    "
  | copyright | classDoc | classFile => ""

def callDepth : Builtin → Nat
  | field | constructor | accessor => 3
  | copyright | classDoc => 1
  | classFile => 0

theorem maxNesting_sub_callDepth (b : Builtin) :
    Library.maxNesting - b.callDepth = 3992 + (8 - b.callDepth) := by
  cases b <;> rfl

/-- What the file of a class hands over to a block, use by use. -/
def uses (b : Builtin) (p : Project) (c : ClassDef) : List Json :=
  match b with
  | copyright | classDoc => [c.context p]
  | field | accessor => c.fields.map FieldDef.context
  | constructor => (Constructor.ofClass c).map (·.context c.name)
  | classFile => []

theorem name_inj {b other : Builtin} : b.name = other.name ↔ b = other := by
  cases b <;> cases other <;> decide

/-- One use of a block with the given nodes: over `data`, in the file of a class whose data is `root`, from
the start of a line and behind the indent of the call. -/
def renderUse (b : Builtin) (library : Library) (nodes : List Node) (root data : Json) :
    Except Template.Fault String := do
  let file : Env := ⟨library, .start root, "", [], 0⟩
  let s ← nodes.foldlM (renderNode (Library.maxNesting - b.callDepth) (file.placed data b.callIndent))
    ⟨lineStart, [], some b.name⟩
  pure s.writer.text

def useWriting (b : Builtin) (library : Library) (nodes : List Node) (root data : Json) : Writer → Writer :=
  let file : Env := ⟨library, .start root, "", [], 0⟩
  writing (Library.maxNesting - b.callDepth) (file.placed data b.callIndent) nodes

theorem useWriting_of_renderUse {b : Builtin} {library : Library} {nodes : List Node} {root data : Json}
    {text : String} (closed : nodesAreClosed nodes = true) (ok : b.renderUse library nodes root data = .ok text) :
    NodesWrite (Library.maxNesting - b.callDepth)
        (Env.placed ⟨library, .start root, "", [], 0⟩ data b.callIndent) b.name nodes
        (b.useWriting library nodes root data) ∧
      (b.useWriting library nodes root data lineStart).text = text := by
  obtain ⟨s, run, same⟩ := except_bind_eq_ok.1 ok
  obtain ⟨-, writes, written⟩ := writing_of_ok closed run
  refine ⟨writes b.name, ?_⟩
  rw [← Except.ok.inj same, written]
  rfl

theorem renderUse_of_writes {b : Builtin} {library : Library} {nodes : List Node} {root data : Json}
    {f : Writer → Writer} (writes : NodesWrite (Library.maxNesting - b.callDepth)
      (Env.placed ⟨library, .start root, "", [], 0⟩ data b.callIndent) b.name nodes f) :
    b.renderUse library nodes root data = .ok (f lineStart).text := by
  obtain ⟨s, run, -, written⟩ := writes ⟨lineStart, [], some b.name⟩ ⟨rfl, .inr rfl⟩
  exact except_bind_eq_ok.2 ⟨s, run, congrArg (Except.ok ∘ Writer.text) written⟩

end Template.Builtin

/-- Texts between pieces, of which there is one more. -/
def interleave : List String → List String → String
  | piece :: pieces, text :: texts => piece ++ (text ++ interleave pieces texts)
  | pieces, _ => String.join pieces

theorem exists_pieces (count : Nat) (front behind : String) :
    ∃ pieces : List String, pieces.length = count + 1 ∧ ∀ texts : List String, texts.length = count →
      interleave pieces texts = front ++ (String.join (texts.map ("\n" ++ ·)) ++ behind) := by
  induction count generalizing front with
  | zero =>
    refine ⟨[front ++ behind], rfl, fun texts none => ?_⟩
    rw [List.length_eq_zero_iff.1 none]
    simp [interleave]
  | succ count ih =>
    obtain ⟨pieces, length, same⟩ := ih ""
    refine ⟨(front ++ "\n") :: pieces, congrArg (· + 1) length, fun texts some => ?_⟩
    cases texts with
    | nil => exact absurd some (Nat.succ_ne_zero count).symm
    | cons text texts =>
      rw [interleave, same texts (Nat.succ.inj some)]
      simp [String.append_assoc]

def memberText (members : List String) : String := String.join (members.map ("\n" ++ ·))

def importText (p : Project) (c : ClassDef) : String :=
  String.join ["package ", p.package, ";\n\nimport lombok.Data;\n",
    if c.fields.any fun f => isNonNullType f.dataType then "import lombok.NonNull;\n" else "", "\n"]

def openingText (c : ClassDef) : String := String.join ["@Data\npublic class ", c.name, " \x7b\n"]

/-- The file of a class whose blocks have these texts, use by use. -/
def fileText (p : Project) (c : ClassDef) (texts : Builtin → List String) : String :=
  String.join (texts .copyright) ++ (importText p c ++ (String.join (texts .classDoc) ++ (openingText c ++
    (memberText (texts .field) ++ (memberText (texts .constructor) ++ (memberText (texts .accessor) ++ "\x7d\n"))))))

theorem exists_surroundings (p : Project) (c : ClassDef) (texts : Builtin → List String) {b : Builtin}
    (part : b ≠ .classFile) :
    ∃ pieces : List String, pieces.length = (b.uses p c).length + 1 ∧
      ∀ own : List String, own.length = (b.uses p c).length →
        fileText p c (Function.update texts b own) = interleave pieces own := by
  have single (front behind : String) : ∃ pieces : List String, pieces.length = 1 + 1 ∧
      ∀ own : List String, own.length = 1 → front ++ (String.join own ++ behind) = interleave pieces own := by
    refine ⟨[front, behind], rfl, fun own one => ?_⟩
    obtain ⟨text, rfl⟩ := List.length_eq_one_iff.1 one
    simp [interleave]
  let accessors := memberText (texts .accessor) ++ "\x7d\n"
  let members := memberText (texts .constructor) ++ accessors
  let opening := importText p c ++ (String.join (texts .classDoc) ++ openingText c)
  cases b with
  | copyright =>
    obtain ⟨pieces, length, same⟩ := single "" (opening ++ (memberText (texts .field) ++ members))
    refine ⟨pieces, length, fun own one => ?_⟩
    rw [← same own one]
    simp [fileText, opening, members, accessors, String.append_assoc]
  | classDoc =>
    obtain ⟨pieces, length, same⟩ := single (String.join (texts .copyright) ++ importText p c)
      (openingText c ++ (memberText (texts .field) ++ members))
    refine ⟨pieces, length, fun own one => ?_⟩
    rw [← same own one]
    simp [fileText, members, accessors, String.append_assoc]
  | field =>
    obtain ⟨pieces, length, same⟩ := exists_pieces (Builtin.field.uses p c).length
      (String.join (texts .copyright) ++ opening) members
    refine ⟨pieces, length, fun own all => ?_⟩
    rw [same own all]
    simp [fileText, memberText, opening, members, accessors, String.append_assoc]
  | constructor =>
    obtain ⟨pieces, length, same⟩ := exists_pieces (Builtin.constructor.uses p c).length
      (String.join (texts .copyright) ++ (opening ++ memberText (texts .field))) accessors
    refine ⟨pieces, length, fun own all => ?_⟩
    rw [same own all]
    simp [fileText, memberText, opening, accessors, String.append_assoc]
  | accessor =>
    obtain ⟨pieces, length, same⟩ := exists_pieces (Builtin.accessor.uses p c).length
      (String.join (texts .copyright) ++ (opening ++ (memberText (texts .field) ++ memberText (texts .constructor))))
      "\x7d\n"
    refine ⟨pieces, length, fun own all => ?_⟩
    rw [same own all]
    simp [fileText, memberText, opening, String.append_assoc]
  | classFile => exact absurd rfl part

def BlockWriting.texts (w : BlockWriting) (c : ClassDef) : Builtin → List String
  | .copyright => [(w.copyright lineStart).text]
  | .classDoc => [(w.classDoc lineStart).text]
  | .field => c.fields.map fun f => (w.field f lineStart).text
  | .constructor => (Constructor.ofClass c).map fun k => (w.constructor k lineStart).text
  | .accessor => c.fields.map fun f => (w.accessor f lineStart).text
  | .classFile => []

section Around

variable {p : Project} {c : ClassDef} {w : BlockWriting} {fs : List (Writer → Writer)} {ts : List String}

theorem text_inOrder (each : List.Forall₂ (fun f t => ∀ w : Writer, (f w).text = w.text ++ t) fs ts)
    (out : Writer) :
    (inOrder fs out).text = out.text ++ String.join ts := by
  induction each generalizing out with
  | nil => simp [inOrder]
  | @cons f t fs ts first _ ih =>
    change (inOrder fs (f out)).text = _
    rw [ih, first, String.join_cons, String.append_assoc]

theorem blocks_eq {α : Type} (write : α → Writer → Writer) (members : List α) :
    blocks (fun _ => write) members = memberText (members.map fun x => (write x lineStart).text) := by
  rw [memberText, List.map_map]
  rfl

theorem text_classAround {library : Library} {blocks : Builtin → List Node}
    (closed : ∀ b, b ≠ .classFile → nodesAreClosed (blocks b) = true)
    (holds : w.Holds 3992 ⟨library, .start (c.context p), "", [], 0⟩ p c blocks) :
    (writeClassAround "" w p c .empty).text = fileText p c (w.texts c) := by
  have called {f : Writer → Writer} (isLocal : Local "" f) (out : Writer) :
      (nested (startsEmbed true "") f out).text = out.text ++ (f lineStart).text :=
    (text_nested _ f out).trans (isLocal.text_plain _)
  have imported (out : Writer) : (nested (startsBlock true) (onlyIf (c.fields.any fun f => isNonNullType f.dataType)
      (inOrder [piece "" "import lombok.NonNull;\n"])) out).text =
        out.text ++ if c.fields.any fun f => isNonNullType f.dataType then "import lombok.NonNull;\n" else "" := by
    rw [text_nested, onlyIf]
    split
    · exact text_piece "import lombok.NonNull;\n" _
    · exact String.append_empty.symm
  refine (text_inOrder (.cons (called ?copyright) <| .cons (text_piece _) <| .cons (text_piece _) <|
    .cons (text_piece _) <| .cons imported <| .cons (text_piece _) <| .cons (called ?classDoc) <|
    .cons (text_piece _) <| .cons (text_piece _) <| .cons (text_piece _) <| .cons (text_members ?field) <|
    .cons (text_members ?constructor) <| .cons (text_members ?accessor) <| .cons (text_piece _) .nil) .empty).trans ?_
  case copyright => exact local_of_writes (closed .copyright nofun) holds.copyright
  case classDoc => exact local_of_writes (closed .classDoc nofun) holds.classDoc
  case field => exact fun f mem => (local_of_writes (closed .field nofun) (holds.field f mem)).appends
  case constructor => exact fun k mem => (local_of_writes (closed .constructor nofun) (holds.constructor k mem)).appends
  case accessor => exact fun f mem => (local_of_writes (closed .accessor nofun) (holds.accessor f mem)).appends
  simp only [fileText, BlockWriting.texts, String.join_cons, String.join_nil, importText, openingText,
    String.append_assoc, Writer.empty, String.empty_append, String.append_empty, blocks_eq]

end Around

def BlockWriting.replace (w : BlockWriting) (b : Builtin) (f : Json → Writer → Writer) (p : Project)
    (c : ClassDef) :
    BlockWriting :=
  match b with
  | .copyright => { w with copyright := f (c.context p) }
  | .classDoc => { w with classDoc := f (c.context p) }
  | .field => { w with field := fun x => f x.context }
  | .constructor => { w with constructor := fun k => f (k.context c.name) }
  | .accessor => { w with accessor := fun x => f x.context }
  | .classFile => w

def nodesReplacing (b : Builtin) (nodes : List Node) (other : Builtin) : List Node :=
  if other = b then nodes else other.nodes

section Replacing

variable {p : Project} {c : ClassDef} {b : Builtin} {nodes : List Node} {library : Library}
  {f : Json → Writer → Writer}

theorem closed_nodesReplacing (closed : nodesAreClosed nodes = true) (other : Builtin)
    (part : other ≠ .classFile) :
    nodesAreClosed (nodesReplacing b nodes other) = true := by
  unfold nodesReplacing
  split
  · exact closed
  · cases other with
    | classFile => exact absurd rfl part
    | _ => rfl

theorem lookup_nodesReplacing {source : String} (parsed : parse? source = some nodes)
    (registered : Library.builtin.register? b.name source = some library) (other : Builtin) :
    library.lookup other.name = some (nodesReplacing b nodes other) := by
  unfold Library.register? at registered
  rw [parsed] at registered
  obtain rfl := Option.some.inj registered
  unfold Library.insert nodesReplacing
  rw [List.lookup_cons, Keyed.lookup_filter_bne]
  by_cases same : other = b
  · simp [same]
  · have differs : (other.name == b.name) = false := beq_eq_false_iff_ne.2 (mt Builtin.name_inj.1 same)
    rw [differs, if_neg same]
    exact Builtin.lookup_builtin other

theorem lookup_classFile {source : String} (part : b ≠ .classFile) (parsed : parse? source = some nodes)
    (registered : Library.builtin.register? b.name source = some library) :
    library.lookup "class" = some Builtin.classFileNodes := by
  have kept : nodesReplacing b nodes .classFile = Builtin.classFileNodes := if_neg part.symm
  exact kept ▸ lookup_nodesReplacing parsed registered .classFile

theorem BlockWriting.Holds.replace {w : BlockWriting} {fuel : Nat} {env : Env}
    {blocks blocks' : Builtin → List Node}
    (holds : w.Holds fuel env p c blocks) (others : ∀ other, other ≠ b → blocks other = blocks' other)
    (each : ∀ data ∈ b.uses p c, NodesWrite (fuel + (8 - b.callDepth)) (env.placed data b.callIndent) b.name
      (blocks' b) (f data)) :
    (w.replace b f p c).Holds fuel env p c blocks' := by
  obtain ⟨copyright, classDoc, field, constructor, accessor⟩ := holds
  cases b with
  | copyright =>
    exact ⟨each _ (List.mem_singleton_self _), others .classDoc nofun ▸ classDoc, others .field nofun ▸ field,
      others .constructor nofun ▸ constructor, others .accessor nofun ▸ accessor⟩
  | classDoc =>
    exact ⟨others .copyright nofun ▸ copyright, each _ (List.mem_singleton_self _), others .field nofun ▸ field,
      others .constructor nofun ▸ constructor, others .accessor nofun ▸ accessor⟩
  | field =>
    exact ⟨others .copyright nofun ▸ copyright, others .classDoc nofun ▸ classDoc,
      fun x mem => each _ (List.mem_map_of_mem mem), others .constructor nofun ▸ constructor,
      others .accessor nofun ▸ accessor⟩
  | constructor =>
    exact ⟨others .copyright nofun ▸ copyright, others .classDoc nofun ▸ classDoc, others .field nofun ▸ field,
      fun k mem => each _ (List.mem_map_of_mem mem), others .accessor nofun ▸ accessor⟩
  | accessor =>
    exact ⟨others .copyright nofun ▸ copyright, others .classDoc nofun ▸ classDoc, others .field nofun ▸ field,
      others .constructor nofun ▸ constructor, fun x mem => each _ (List.mem_map_of_mem mem)⟩
  | classFile =>
    exact ⟨others .copyright nofun ▸ copyright, others .classDoc nofun ▸ classDoc, others .field nofun ▸ field,
      others .constructor nofun ▸ constructor, others .accessor nofun ▸ accessor⟩

theorem texts_replace (w : BlockWriting) (part : b ≠ .classFile) :
    (w.replace b f p c).texts c =
      Function.update (w.texts c) b ((b.uses p c).map fun data => (f data lineStart).text) := by
  funext other
  by_cases same : other = b
  · subst same
    rw [Function.update_self]
    cases other with
    | classFile => exact absurd rfl part
    | copyright | classDoc => rfl
    | field | constructor | accessor =>
      simp only [BlockWriting.texts, BlockWriting.replace, Builtin.uses, List.map_map, Function.comp_def]
  · rw [Function.update_of_ne same]
    cases b <;> cases other <;> first | rfl | exact absurd rfl same

theorem holds_replacing
    (writes : ∀ data ∈ b.uses p c, NodesWrite (Library.maxNesting - b.callDepth)
      (Env.placed ⟨library, .start (c.context p), "", [], 0⟩ data b.callIndent) b.name nodes (f data)) :
    ((BlockWriting.standard "" p c).replace b f p c).Holds 3992 ⟨library, .start (c.context p), "", [], 0⟩ p c
      (nodesReplacing b nodes) := by
  let file : Env := ⟨library, .start (c.context p), "", [], 0⟩
  have standard : (BlockWriting.standard file.indent p c).Holds 3992 file p c Builtin.nodes := holds_standard p c
  have own : nodesReplacing b nodes b = nodes := if_pos rfl
  refine standard.replace (fun other differs => (if_neg differs).symm) fun data mem => ?_
  rw [own, ← b.maxNesting_sub_callDepth]
  exact writes data mem

theorem nodeRequires_members {α : Type} {fuel : Nat} {env : Env} {running : String} {data : Json}
    {key name : String}
    {nodes : List Node} {members : List α} {context : α → Json} {P : Json → Prop}
    (sees : env.scope.Sees data)
    (found : Scope.descend data [key] = .ok (some (.arr (members.map context))))
    (known : env.library.lookup name = some nodes) (other : running ≠ name) (noBody : name ≠ bodyName)
    (run : ∀ v ∈ members.map context, NodesRequire fuel (env.placed v "    ") name nodes (P v)) :
    NodeRequires (fuel + 3) env running (.blockOn "each" key [key] true [.text "\n", .place name "    "])
      (∀ v ∈ members.map context, P v) := by
  have each : NodeRequires (fuel + 3) env running
      (.blockOn "each" key [key] true [.text "\n", .place name "    "]) (∀ P' ∈ members.map (P ∘ context), P') := by
    refine nodeRequires_each (sees.leads found) (forall₂_itemFrames_map fun i x mem => ?_)
    have placed := run (context x) (List.mem_map_of_mem mem)
    refine (nodesRequire_each (.cons (nodeWrites_text "\n").requires (.cons ?_ .nil))).imp
      fun all => all _ (.tail _ (.head _))
    exact nodeRequires_embed known other noBody placed
  exact each.imp fun all => List.forall_mem_map.2 fun x mem => all _ (List.mem_map_of_mem mem)

/-- The class file is written only where each block has been, for each of its uses. -/
theorem requires_classAround {fuel : Nat} {env : Env} {blocks : Builtin → List Node} {P : Builtin → Json → Prop}
    (sees : env.scope.Sees (c.context p)) (known : ∀ b, env.library.lookup b.name = some (blocks b))
    (each : ∀ b, ∀ data ∈ b.uses p c,
      NodesRequire (fuel + (8 - b.callDepth)) (env.placed data b.callIndent) b.name (blocks b) (P b data)) :
    NodesRequire (fuel + 8) env "class" Builtin.classFileNodes (∀ b, ∀ data ∈ b.uses p c, P b data) := by
  have here := Env.embedded_eq_placed sees
  have text (t : String) : NodeRequires (fuel + 8) env "class" (.text t) True := (nodeWrites_text t).requires
  have path {raw : String} {keys : List String} {v : Json} (plainName : Callee.ofName? raw = none)
      (found : Scope.descend (c.context p) keys = .ok (some v)) :
      NodeRequires (fuel + 8) env "class" (.valueAt raw keys) True :=
    (nodeWrites_path plainName (sees.leads found)).requires
  have single (b : Builtin) (other : "class" ≠ b.name) (noBody : b.name ≠ bodyName) (depth : b.callDepth = 1)
      (indent : b.callIndent = "") (use : b.uses p c = [c.context p]) :
      NodeRequires (fuel + 8) env "class" (.place b.name "") (P b (c.context p)) := by
    have run := each b (c.context p) (use ▸ List.mem_singleton_self _)
    rw [depth, indent] at run
    exact nodeRequires_embed (known b) other noBody (here "" ▸ run)
  have imports : NodeRequires (fuel + 8) env "class"
      (.blockOn "if" "uses_non_null" ["uses_non_null"] true [.text "import lombok.NonNull;\n"]) True :=
    (nodeWrites_if (v := .bool (c.fields.any fun f => isNonNullType f.dataType)) (sees.leads rfl)
      fun _ => nodesWrite_inOrder (.cons (nodeWrites_text _) .nil)).requires
  have whole : NodesRequire (fuel + 8) env "class" Builtin.classFileNodes (∀ P' ∈
      [P .copyright (c.context p), True, True, True, True, True, P .classDoc (c.context p), True, True, True,
        ∀ v ∈ Builtin.field.uses p c, P .field v, ∀ v ∈ Builtin.constructor.uses p c, P .constructor v,
        ∀ v ∈ Builtin.accessor.uses p c, P .accessor v, True], P') := by
    refine nodesRequire_each (.cons (single .copyright (by decide) (by decide) rfl rfl rfl) <| .cons (text _) <|
      .cons (path rfl rfl) <| .cons (text _) <| .cons imports <| .cons (text _) <|
      .cons (single .classDoc (by decide) (by decide) rfl rfl rfl) <| .cons (text _) <| .cons (path rfl rfl) <|
      .cons (text _) <| .cons ?field <| .cons ?constructor <| .cons ?accessor <| .cons (text _) .nil)
    case field => exact nodeRequires_members sees rfl (known .field) (by decide) (by decide) (each .field)
    case constructor =>
      exact nodeRequires_members sees rfl (known .constructor) (by decide) (by decide) (each .constructor)
    case accessor => exact nodeRequires_members sees rfl (known .accessor) (by decide) (by decide) (each .accessor)
  refine whole.imp fun all b => ?_
  simp only [List.forall_mem_cons] at all
  obtain ⟨copyright, -, -, -, -, -, classDoc, -, -, -, field, constructor, accessor, -⟩ := all
  cases b with
  | copyright => exact List.forall_mem_singleton.2 copyright
  | classDoc => exact List.forall_mem_singleton.2 classDoc
  | field => exact field
  | constructor => exact constructor
  | accessor => exact accessor
  | classFile => exact List.forall_mem_nil _

theorem renderClass_of_uses {source : String} {policy : CollisionPolicy} {texts : List String}
    (complete : c.fault? = none) (part : b ≠ .classFile) (parsed : parse? source = some nodes)
    (closed : nodesAreClosed nodes = true) (registered : Library.builtin.register? b.name source = some library)
    (rendered : List.Forall₂ (fun data text => b.renderUse library nodes (c.context p) data = .ok text)
      (b.uses p c) texts) :
    (⟨p, library, policy⟩ : Renderer).renderClass c =
      .ok (fileText p c (Function.update ((BlockWriting.standard "" p c).texts c) b texts)) := by
  let w := BlockWriting.standard "" p c
  let f := b.useWriting library nodes (c.context p)
  have known := lookup_nodesReplacing parsed registered
  have uses := rendered.imp fun _ _ ok => Builtin.useWriting_of_renderUse closed ok
  obtain ⟨writes, same⟩ := (List.forall₂_and_left _ _).1 uses
  have each : (b.uses p c).map (fun data => (f data lineStart).text) = texts :=
    List.forall₂_eq_eq_eq ▸ List.forall₂_map_left_iff.2 same
  have holds : (w.replace b f p c).Holds 3992 ⟨library, .start (c.context p), "", [], 0⟩ p c
      (nodesReplacing b nodes) :=
    holds_replacing writes
  have run : NodesWrite (3992 + 8) ⟨library, .start (c.context p), "", [], 0⟩ "class" Builtin.classFileNodes
      (writeClassAround "" (w.replace b f p c) p c) :=
    writes_classAround (.start _) known holds
  have text := text_classAround (closed_nodesReplacing closed) holds
  rw [texts_replace w part, each] at text
  rw [← text]
  exact renderClass_of_writes complete (lookup_classFile part parsed registered) run

theorem uses_of_renderClass {source text : String} {policy : CollisionPolicy}
    (part : b ≠ .classFile) (parsed : parse? source = some nodes) (closed : nodesAreClosed nodes = true)
    (registered : Library.builtin.register? b.name source = some library)
    (rendered : (⟨p, library, policy⟩ : Renderer).renderClass c = .ok text) :
    c.fault? = none ∧ ∃ texts, List.Forall₂ (fun data text => b.renderUse library nodes (c.context p) data = .ok text)
      (b.uses p c) texts := by
  let file : Env := ⟨library, .start (c.context p), "", [], 0⟩
  have known := lookup_nodesReplacing parsed registered
  have found := lookup_classFile part parsed registered
  obtain ⟨complete, last, run⟩ := run_of_renderClass (r := ⟨p, library, policy⟩) found rendered
  refine ⟨complete, ?_⟩
  have requires : NodesRequire (3992 + 8) file "class" Builtin.classFileNodes
      (∀ other : Builtin, ∀ data ∈ other.uses p c,
        ∃ text, other.renderUse library (nodesReplacing b nodes other) (c.context p) data = .ok text) := by
    refine requires_classAround (.start _) known fun other data mem => ?_
    have notFile : other ≠ .classFile := by
      rintro rfl
      exact absurd mem List.not_mem_nil
    rw [← other.maxNesting_sub_callDepth]
    refine (nodesRequire_closed (closed_nodesReplacing closed other notFile) other.name lineStart).imp ?_
    rintro ⟨last, ran⟩
    exact ⟨last.writer.text, except_bind_eq_ok.2 ⟨last, ran, rfl⟩⟩
  obtain ⟨-, each⟩ := requires _ last ⟨rfl, .inr rfl⟩ run
  have own : nodesReplacing b nodes b = nodes := if_pos rfl
  have each (data : Json) : ∃ text, data ∈ b.uses p c →
      b.renderUse library nodes (c.context p) data = .ok text := by
    by_cases mem : data ∈ b.uses p c
    · obtain ⟨text, ok⟩ := each b data mem
      exact ⟨text, fun _ => own ▸ ok⟩
    · exact ⟨"", fun mem' => absurd mem' mem⟩
  choose text ok using each
  exact ⟨(b.uses p c).map text, List.forall₂_map_right_iff.2 (List.forall₂_same.2 ok)⟩

/-- A block of the class file that is replaced by a source of its own leaves the rest of the file as it is:
for each class there are pieces of text between which any such source puts its renderings, each of which is
told by the data of its use alone.  The file fails with the block only. -/
theorem renderClass_replaced (p : Project) (c : ClassDef) {b : Builtin} (part : b ≠ .classFile) :
    ∃ pieces : List String, pieces.length = (b.uses p c).length + 1 ∧
      ∀ (source : String) (nodes : List Node) (library : Library) (policy : CollisionPolicy),
        parse? source = some nodes → nodesAreClosed nodes = true →
        Library.builtin.register? b.name source = some library →
        ∀ text, (⟨p, library, policy⟩ : Renderer).renderClass c = .ok text ↔ c.fault? = none ∧
          ∃ texts, List.Forall₂ (fun data text => b.renderUse library nodes (c.context p) data = .ok text)
              (b.uses p c) texts ∧
            text = interleave pieces texts := by
  obtain ⟨pieces, length, around⟩ := exists_surroundings p c ((BlockWriting.standard "" p c).texts c) part
  refine ⟨pieces, length, fun source nodes library policy parsed closed registered text => ?_⟩
  have file {texts : List String} (complete : c.fault? = none) (each : List.Forall₂ (fun data text =>
      b.renderUse library nodes (c.context p) data = .ok text) (b.uses p c) texts) :
      (⟨p, library, policy⟩ : Renderer).renderClass c = .ok (interleave pieces texts) := by
    rw [← around texts each.length_eq.symm]
    exact renderClass_of_uses complete part parsed closed registered each
  constructor
  · intro rendered
    obtain ⟨complete, texts, each⟩ := uses_of_renderClass part parsed closed registered rendered
    exact ⟨complete, texts, each, Except.ok.inj (rendered.symm.trans (file complete each))⟩
  · rintro ⟨complete, texts, each, rfl⟩
    exact file complete each

end Replacing

section Sources

-- A source is parsed by evaluation, which goes as deep as the source is long.
set_option maxRecDepth 100000

theorem parse_bareField :
    parse? "\x7b\x7bname\x7d\x7d;" = some [.valueAt "name" ["name"], .text ";"] := by
  unfold parse?
  rw [String.toList_ofList]
  rfl

theorem parse_markedField :
    parse? "\x7b\x7b#if invariant\x7d\x7d\n// set once\n\x7b\x7b/if\x7d\x7d\n\x7b\x7bname\x7d\x7d;\n" =
      some [.blockOn "if" "invariant" ["invariant"] true [.text "// set once\n"], .valueAt "name" ["name"],
        .text ";\n"] := by
  unfold parse?
  rw [String.toList_ofList]
  rfl

end Sources

/-- Two sources for fields, one of which leaves its last line open and one that has a condition. -/
theorem renderClass_ownFields :
    ∃ pieces : List String, pieces.length = 3 ∧
      (∃ library : Library, Library.builtin.register? "field" "\x7b\x7bname\x7d\x7d;" = some library ∧
        (⟨.standard ⟨2024, 5, 17, by decide⟩, library, .reject⟩ : Renderer).renderClass stockItem =
          .ok (interleave pieces ["    sku;", "    bins;"])) ∧
      ∃ library : Library, Library.builtin.register? "field"
          "\x7b\x7b#if invariant\x7d\x7d\n// set once\n\x7b\x7b/if\x7d\x7d\n\x7b\x7bname\x7d\x7d;\n" = some library ∧
        (⟨.standard ⟨2024, 5, 17, by decide⟩, library, .reject⟩ : Renderer).renderClass stockItem =
          .ok (interleave pieces ["    // set once\n    sku;\n", "    bins;\n"]) := by
  let p : Project := .standard ⟨2024, 5, 17, by decide⟩
  obtain ⟨pieces, length, files⟩ := renderClass_replaced p stockItem (b := .field) nofun
  have complete : stockItem.fault? = none := by decide +kernel
  have registers {source : String} {nodes : List Node} (parsed : parse? source = some nodes) :
      Library.builtin.register? "field" source = some (Library.builtin.insert "field" nodes) := by
    rw [Library.register?, parsed]
    rfl
  refine ⟨pieces, length, ⟨_, registers parse_bareField, ?bare⟩, ⟨_, registers parse_markedField, ?marked⟩⟩
  case bare =>
    refine (files _ _ _ _ parse_bareField rfl (registers parse_bareField) _).2 ⟨complete, _, ?_, rfl⟩
    have bare (library : Library) (f : FieldDef) :
        Builtin.field.renderUse library [.valueAt "name" ["name"], .text ";"] (stockItem.context p) f.context =
          .ok (inOrder [piece "    " f.name, piece "    " ";"] lineStart).text := by
      have sees := Scope.Sees.only (.start (stockItem.context p)) f.context
      refine Builtin.renderUse_of_writes (nodesWrite_inOrder (.cons ?_ (.cons (nodeWrites_text _) .nil)))
      exact nodeWrites_path (v := .str f.name) rfl (sees.leads rfl)
    refine .cons ((bare _ _).trans (congrArg _ ?_)) (.cons ((bare _ _).trans (congrArg _ ?_)) .nil) <;>
      decide +kernel
  case marked =>
    refine (files _ _ _ _ parse_markedField rfl (registers parse_markedField) _).2 ⟨complete, _, ?_, rfl⟩
    have marked (library : Library) (f : FieldDef) :
        Builtin.field.renderUse library [.blockOn "if" "invariant" ["invariant"] true [.text "// set once\n"],
            .valueAt "name" ["name"], .text ";\n"] (stockItem.context p) f.context =
          .ok (inOrder [nested (startsBlock true) (onlyIf f.invariant (inOrder [piece "    " "// set once\n"])),
            piece "    " f.name, piece "    " ";\n"] lineStart).text := by
      have sees := Scope.Sees.only (.start (stockItem.context p)) f.context
      refine Builtin.renderUse_of_writes (nodesWrite_inOrder (.cons ?_ (.cons ?_ (.cons (nodeWrites_text _) .nil))))
      · exact nodeWrites_if (v := .bool f.invariant) (sees.leads rfl) fun _ =>
          nodesWrite_inOrder (.cons (nodeWrites_text _) .nil)
      · exact nodeWrites_path (v := .str f.name) rfl (sees.leads rfl)
    refine .cons ((marked _ _).trans (congrArg _ ?_)) (.cons ((marked _ _).trans (congrArg _ ?_)) .nil) <;>
      decide +kernel

end ClassTable
