import ClassTable.Log
import ClassTable.Template.Render
import Mathlib.Data.List.Forall2

/-!
What rendered nodes add to the output, as rules.  Apart from the output a run carries the templates defined
on the way and the name of the running template; nodes that define nothing keep the former empty and leave
of the latter the name or nothing, so their effect is one on the output alone.
-/

set_option autoImplicit false

namespace ClassTable.Template

namespace Writer

def inOrder (fs : List (Writer → Writer)) (w : Writer) : Writer := fs.foldl (fun w f => f w) w

def piece (indent text : String) (w : Writer) : Writer := w.write indent text

def nested (start : Writer → Bool) (f : Writer → Writer) (w : Writer) : Writer :=
  w.leave (f (w.enter (start w)))

def startsBlock (alone : Bool) (w : Writer) : Bool := w.indentNext || (alone && w.atLineStart)

def startsEmbed (alone : Bool) (indent : String) (w : Writer) : Bool :=
  w.indentNext || (alone && (w.atLineStart || !indent.isEmpty))

end Writer

/-- Holds where paths lead into `data`, because no block around gives names to values. -/
structure Scope.Sees (s : Scope) (data : Json) : Prop where
  value : s.nearest.value = data
  unnamed : ∀ frame ∈ s.frames, frame.names = []

namespace Scope.Sees

variable {s : Scope} {data v : Json}

theorem start (data : Json) : (Scope.start data).Sees data :=
  ⟨rfl, fun frame h => by rw [List.mem_singleton.1 h]; rfl⟩

theorem only (s : Scope) (data : Json) : (s.only data).Sees data :=
  ⟨rfl, fun frame h => by rw [List.mem_singleton.1 h]; rfl⟩

theorem item (h : s.Sees data) (count index : Nat) (kind : String) (position : Json) :
    (s.push (BlockFunction.itemFrame [] count index kind position v)).Sees v := by
  refine ⟨rfl, fun frame mem => ?_⟩
  rcases List.mem_cons.1 mem with rfl | mem
  · rfl
  · exact h.unnamed frame mem

theorem named? (h : s.Sees data) (name : String) : s.named? name = none := by
  rw [Scope.named?, List.findSome?_eq_none_iff]
  intro frame mem
  rw [h.unnamed frame mem, List.lookup_nil]

theorem keysOf_map (keys : List String) : keysOf (keys.map .key) = keys := by
  induction keys with
  | nil => rfl
  | cons key keys ih => simp [keysOf, ih]

theorem find (h : s.Sees data) (keys : List String) : s.find (keys.map .key) = descend data keys := by
  cases keys with
  | nil =>
    change descend s.nearest.value [] = _
    rw [h.value]
  | cons key keys =>
    have path : s.findValue (.key key :: keys.map .key) = descend s.nearest.value (key :: keys) := by
      simp only [findValue, leadingUps, List.drop_zero, h.named?, keysOf, keysOf_map]
      rfl
    change s.findValue (.key key :: keys.map .key) = _
    rw [path, h.value]

theorem leads (h : s.Sees data) {keys : List String} (found : descend data keys = .ok (some v)) :
    s.find (keys.map .key) = .ok (some v) :=
  (h.find keys).trans found

end Scope.Sees

/-- Holds in a run of the template `running` that has defined no template. -/
structure State.Plain (running : String) (s : State) : Prop where
  defined : s.defined = []
  current : s.current = none ∨ s.current = some running

/-- From plain states a run succeeds, ends in a plain state and changes the output by `f`. -/
def Writes (running : String) (run : State → Except Fault State) (f : Writer → Writer) : Prop :=
  ∀ s, s.Plain running → ∃ s', run s = .ok s' ∧ s'.Plain running ∧ s'.writer = f s.writer

def NodeWrites (fuel : Nat) (env : Env) (running : String) (node : Node) (f : Writer → Writer) : Prop :=
  Writes running (fun s => renderNode fuel env s node) f

def NodesWrite (fuel : Nat) (env : Env) (running : String) (nodes : List Node) (f : Writer → Writer) : Prop :=
  Writes running (fun s => nodes.foldlM (renderNode fuel env) s) f

section Rules

variable {fuel : Nat} {env : Env} {running name raw : String} {segments : List Segment} {alone : Bool}
  {nodes body : List Node} {f : Writer → Writer} {v : Json} {s : State}

theorem State.Plain.withWriter (h : s.Plain running) (w : Writer) : State.Plain running { s with writer := w } :=
  ⟨h.defined, h.current⟩

theorem ok_bind {α β : Type} (a : α) (next : α → Except Fault β) : (Except.ok a >>= next) = next a := rfl

theorem writes_id : Writes running (fun s => .ok s) id := fun s plain => ⟨s, rfl, plain, rfl⟩

theorem writes_foldlM {α : Type} {step : State → α → Except Fault State} {xs : List α}
    {fs : List (Writer → Writer)} (h : List.Forall₂ (fun x f => Writes running (step · x) f) xs fs) :
    Writes running (fun s => xs.foldlM step s) (Writer.inOrder fs) := by
  induction h with
  | nil => exact writes_id
  | @cons x f xs fs first _ rest =>
    intro s plain
    obtain ⟨s', run, plain', written⟩ := first s plain
    obtain ⟨s'', run', plain'', written'⟩ := rest s' plain'
    have run : step s x = .ok s' := run
    refine ⟨s'', ?_, plain'', ?_⟩
    · change List.foldlM step s (x :: xs) = .ok s''
      rw [List.foldlM_cons, run]
      exact run'
    · rw [written', written]
      rfl

theorem nodesWrite_inOrder {fs : List (Writer → Writer)}
    (h : List.Forall₂ (NodeWrites fuel env running) nodes fs) :
    NodesWrite fuel env running nodes (Writer.inOrder fs) :=
  writes_foldlM h

theorem writes_body (h : NodesWrite fuel env running nodes f) :
    Writes running (fun s => renderBody (fuel + 1) env s nodes) f := by
  intro s plain
  obtain ⟨s', run, plain', written⟩ := h { s with current := none } ⟨plain.defined, .inl rfl⟩
  refine ⟨s', ?_, plain', written⟩
  simp only [renderBody]
  exact run

theorem writes_nested {run : State → Except Fault State} (start : Writer → Bool) (h : Writes running run f) :
    Writes running (fun s => (run (s.enter (start s.writer))).map s.leave) (Writer.nested start f) := by
  intro s plain
  obtain ⟨s', ok, plain', written⟩ := h (s.enter (start s.writer)) (plain.withWriter _)
  refine ⟨s.leave s', ?_, plain'.withWriter _, ?_⟩
  · simp only [ok, Except.map]
  · simp only [State.leave, written, State.enter, Writer.nested]

theorem nodeWrites_text (text : String) :
    NodeWrites (fuel + 1) env running (.text text) (Writer.piece env.indent text) := by
  intro s plain
  refine ⟨s.write env text, ?_, plain.withWriter _, rfl⟩
  simp only [renderNode]

theorem nodeWrites_path (plainName : Callee.ofName? raw = none)
    (found : env.scope.find segments = .ok (some v)) :
    NodeWrites (fuel + 1) env running (.value (.call (.path raw segments) [] []))
      (Writer.piece env.indent (textOf v)) := by
  intro s plain
  refine ⟨s.write env (textOf v), ?_, plain.withWriter _, rfl⟩
  simp only [renderNode, renderValue, evalCall, evalName, Expr.plainName?, evalArgs, evalNamed, ok_bind,
    pure_bind, plainName, evalExpr, found]
  rfl

theorem evalCall_path (found : env.scope.find segments = .ok (some v)) :
    evalCall env.scope (.call (.name name) [.path raw segments] []) =
      .ok ⟨name, [⟨some v, some raw⟩], []⟩ := by
  simp only [evalCall, evalName, Expr.plainName?, evalArgs, evalNamed, evalExpr, found, ok_bind, pure_bind]
  rfl

theorem nodeWrites_function {g : Function} {r : Json}
    (known : Callee.ofName? g.name = some (.function g))
    (found : env.scope.find segments = .ok (some v))
    (apply : g.apply [⟨some v, some raw⟩] = .ok r) :
    NodeWrites (fuel + 1) env running (.value (.call (.name g.name) [.path raw segments] []))
      (Writer.nested (·.indentNext) (Writer.piece env.indent (textOf r))) := by
  intro s plain
  refine ⟨s.leave ((s.enter s.writer.indentNext).write env (textOf r)), ?_, plain.withWriter _, rfl⟩
  simp only [renderNode, renderValue, evalCall_path found, ok_bind, Call.callee, known, apply]
  rfl

def Choice.run (fuel : Nat) (env : Env) (body : List Node) (choice : Choice) (s : State) :
    Except Fault State :=
  match choice with
  | .nothing | .inverse => .ok s
  | .body => renderBody fuel env s body
  | .bodyIn frames =>
    frames.foldlM (fun s frame => renderBody fuel { env with scope := env.scope.push frame } s body) s

theorem renderNode_block {b : BlockFunction} {choice : Choice}
    (known : Callee.ofName? b.name = some (.block b))
    (found : env.scope.find segments = .ok (some v))
    (chosen : b.choose ⟨b.name, [⟨some v, some raw⟩], []⟩ [] true false = .ok choice) (s : State) :
    renderNode (fuel + 1) env s (.block (.call (.name b.name) [.path raw segments] []) [] alone body none) =
      (choice.run fuel env body (s.enter (Writer.startsBlock alone s.writer))).map s.leave := by
  simp only [renderNode, evalCall_path found, ok_bind, Call.callee, known, chosen, Option.isSome]
  cases choice <;> rfl

theorem nodeWrites_block {b : BlockFunction} {choice : Choice}
    (known : Callee.ofName? b.name = some (.block b))
    (found : env.scope.find segments = .ok (some v))
    (chosen : b.choose ⟨b.name, [⟨some v, some raw⟩], []⟩ [] true false = .ok choice)
    (run : Writes running (choice.run fuel env body) f) :
    NodeWrites (fuel + 1) env running (.block (.call (.name b.name) [.path raw segments] []) [] alone body none)
      (Writer.nested (Writer.startsBlock alone) f) := by
  intro s plain
  obtain ⟨s', ok, rest⟩ := writes_nested (Writer.startsBlock alone) run s plain
  exact ⟨s', (renderNode_block known found chosen s).trans ok, rest⟩

theorem choose_if (path : Option String) (binders : List String) :
    BlockFunction.if.choose ⟨name, [⟨some v, path⟩], []⟩ binders true false =
      .ok (if isTruthy false v then .body else .inverse) := rfl

theorem choose_unless (path : Option String) (binders : List String) :
    BlockFunction.unless.choose ⟨name, [⟨some v, path⟩], []⟩ binders true false =
      .ok (if isTruthy false v then .inverse else .body) := rfl

theorem choose_each (path : Option String) (binders : List String) (items : List Json) :
    BlockFunction.each.choose ⟨name, [⟨some (.arr items), path⟩], []⟩ binders true false =
      .ok (.bodyIn (BlockFunction.itemFrames binders items)) := by
  cases items <;> rfl

theorem writes_bodyWhen {condition : Bool} (run : condition = true → NodesWrite fuel env running body f) :
    Writes running ((if condition then Choice.body else .inverse).run (fuel + 1) env body)
      (if condition then f else id) := by
  cases condition with
  | true => exact writes_body (run rfl)
  | false => exact writes_id

theorem nodeWrites_if (found : env.scope.find segments = .ok (some v))
    (run : isTruthy false v = true → NodesWrite fuel env running body f) :
    NodeWrites (fuel + 2) env running (.block (.call (.name "if") [.path raw segments] []) [] alone body none)
      (Writer.nested (Writer.startsBlock alone) (if isTruthy false v then f else id)) :=
  nodeWrites_block (b := .if) rfl found (choose_if _ _) (writes_bodyWhen run)

theorem nodeWrites_unless (found : env.scope.find segments = .ok (some v))
    (run : isTruthy false v = false → NodesWrite fuel env running body f) :
    NodeWrites (fuel + 2) env running (.block (.call (.name "unless") [.path raw segments] []) [] alone body none)
      (Writer.nested (Writer.startsBlock alone) (if !isTruthy false v then f else id)) := by
  have choice : (if isTruthy false v then Choice.inverse else .body) =
      if !isTruthy false v then .body else .inverse := by
    cases isTruthy false v <;> rfl
  have body : Writes running ((if !isTruthy false v then Choice.body else .inverse).run (fuel + 1) env body)
      (if !isTruthy false v then f else id) :=
    writes_bodyWhen fun h => run (by simpa using h)
  exact nodeWrites_block (b := .unless) rfl found (choose_unless _ _) (choice ▸ body)

theorem nodeWrites_each {items : List Json} {fs : List (Writer → Writer)}
    (found : env.scope.find segments = .ok (some (.arr items)))
    (run : List.Forall₂ (fun frame f =>
      NodesWrite fuel { env with scope := env.scope.push frame } running body f)
      (BlockFunction.itemFrames [] items) fs) :
    NodeWrites (fuel + 2) env running (.block (.call (.name "each") [.path raw segments] []) [] alone body none)
      (Writer.nested (Writer.startsBlock alone) (Writer.inOrder fs)) :=
  nodeWrites_block (b := .each) rfl found (choose_each _ _ items)
    (writes_foldlM (run.imp fun _ _ => writes_body))

def Env.embedded (env : Env) (indent : String) : Env :=
  { library := env.library
    scope := env.scope.only env.scope.nearest.value
    indent := env.indent ++ indent
    bodies := env.bodies
    depth := env.depth - 1 }

def Env.placed (env : Env) (data : Json) (indent : String) : Env :=
  { env.embedded indent with scope := env.scope.only data }

theorem renderNode_embed {indent : String} (known : env.library.lookup name = some nodes)
    (other : running ≠ name) (noBody : name ≠ bodyName) (plain : s.Plain running) :
    renderNode (fuel + 1) env s (.embed (.call (.name name) [] []) alone indent none) =
      (nodes.foldlM (renderNode fuel (env.embedded indent))
        { s.enter (Writer.startsEmbed alone indent s.writer) with current := some name }).map
        fun inner => { s.leave inner with current := s.current } := by
  let entered := s.enter (Writer.startsEmbed alone indent s.writer)
  have notItself : entered.current ≠ some name := by
    change s.current ≠ some name
    rcases plain.current with h | h <;> simp [h, other]
  have undefined : entered.defined.lookup name = none := by
    change s.defined.lookup name = none
    rw [plain.defined, List.lookup_nil]
  have found : findTemplate env entered name none = .ok ⟨nodes, some name⟩ := by
    simp [findTemplate, noBody, undefined, known]
  have call : evalCall env.scope (.call (.name name) [] []) = .ok ⟨name, [], []⟩ := rfl
  simp only [renderNode, call, ok_bind]
  change (if entered.current = some name then _ else _) = _
  rw [if_neg notItself]
  change (findTemplate env entered name none >>= _) = _
  rw [found, ok_bind, if_neg noBody]
  rfl

theorem State.Plain.start_embed (h : s.Plain running) (entered : Bool) (name : String) :
    State.Plain name { s.enter entered with current := some name } :=
  ⟨h.defined, .inr rfl⟩

theorem Env.embedded_eq_placed {data : Json} (sees : env.scope.Sees data) (indent : String) :
    env.embedded indent = env.placed data indent := by
  have value : env.scope.nearest.value = data := sees.value
  rw [Env.placed, ← value]
  rfl

theorem nodeWrites_embed {indent : String} (known : env.library.lookup name = some nodes)
    (other : running ≠ name) (noBody : name ≠ bodyName)
    (run : NodesWrite fuel (env.embedded indent) name nodes f) :
    NodeWrites (fuel + 1) env running (.embed (.call (.name name) [] []) alone indent none)
      (Writer.nested (Writer.startsEmbed alone indent) f) := by
  intro s plain
  obtain ⟨inner, ok, plain', written⟩ := run _ (plain.start_embed (Writer.startsEmbed alone indent s.writer) name)
  refine ⟨{ s.leave inner with current := s.current }, ?_, ⟨plain'.defined, plain.current⟩, ?_⟩
  · exact (renderNode_embed known other noBody plain).trans (congrArg _ ok)
  · simp only [State.leave, written, State.enter, Writer.nested]

theorem textThenPath {data : Json} {keys : List String} {fs : List (Writer → Writer)} {text : String}
    (sees : env.scope.Sees data) (plainName : Callee.ofName? raw = none)
    (found : Scope.descend data keys = .ok (some v))
    (rest : List.Forall₂ (NodeWrites (fuel + 1) env running) nodes fs) :
    List.Forall₂ (NodeWrites (fuel + 1) env running)
      (.text text :: .value (.call (.path raw (keys.map .key)) [] []) :: nodes)
      (Writer.piece env.indent text :: Writer.piece env.indent (textOf v) :: fs) :=
  .cons (nodeWrites_text text) (.cons (nodeWrites_path plainName (sees.leads found)) rest)

theorem forall₂_itemFrames {α β : Type} {R : Frame → β → Prop} {g : α → Json} {f : Nat → α → β} {xs : List α}
    (h : ∀ i x, xs[i]? = some x →
      R (BlockFunction.itemFrame [] xs.length i "index" (.nat i) (g x)) (f i x)) :
    List.Forall₂ R (BlockFunction.itemFrames [] (xs.map g)) (xs.mapIdx f) := by
  have frames : BlockFunction.itemFrames [] (xs.map g) =
      xs.zipIdx.map fun (x, i) => BlockFunction.itemFrame [] xs.length i "index" (.nat i) (g x) := by
    simp [BlockFunction.itemFrames, List.zipIdx_map]
  rw [frames, List.mapIdx_eq_zipIdx_map, List.forall₂_map_left_iff, List.forall₂_map_right_iff,
    List.forall₂_same]
  rintro ⟨x, i⟩ mem
  exact h i x (List.mem_zipIdx_iff_getElem?.1 mem)

theorem forall₂_itemFrames_map {α β : Type} {R : Frame → β → Prop} {g : α → Json} {f : α → β} {xs : List α}
    (h : ∀ i, ∀ x ∈ xs, R (BlockFunction.itemFrame [] xs.length i "index" (.nat i) (g x)) (f x)) :
    List.Forall₂ R (BlockFunction.itemFrames [] (xs.map g)) (xs.map f) := by
  have same : xs.map f = xs.mapIdx fun _ x => f x := List.ext_getElem (by simp) (by simp)
  rw [same]
  exact forall₂_itemFrames fun i x found => h i x (List.mem_of_getElem? found)

end Rules

/-- From plain states a run ends in one, if at all, and only where `P` holds. -/
def Requires (running : String) (run : State → Except Fault State) (P : Prop) : Prop :=
  ∀ s s', s.Plain running → run s = .ok s' → s'.Plain running ∧ P

def NodeRequires (fuel : Nat) (env : Env) (running : String) (node : Node) (P : Prop) : Prop :=
  Requires running (fun s => renderNode fuel env s node) P

def NodesRequire (fuel : Nat) (env : Env) (running : String) (nodes : List Node) (P : Prop) : Prop :=
  Requires running (fun s => nodes.foldlM (renderNode fuel env) s) P

section Requirements

variable {fuel : Nat} {env : Env} {running name raw : String} {segments : List Segment} {alone : Bool}
  {node : Node} {nodes body : List Node} {f : Writer → Writer} {v : Json} {P : Prop} {ps : List Prop}

theorem Writes.requires {run : State → Except Fault State} (h : Writes running run f) :
    Requires running run True := by
  intro s s' plain ok
  obtain ⟨t, run, plain', -⟩ := h s plain
  obtain rfl := Except.ok.inj (ok.symm.trans run)
  exact ⟨plain', trivial⟩

theorem Requires.imp {run : State → Except Fault State} {Q : Prop} (h : Requires running run P) (imp : P → Q) :
    Requires running run Q := by
  intro s s' plain ok
  obtain ⟨plain', holds⟩ := h s s' plain ok
  exact ⟨plain', imp holds⟩

theorem NodeWrites.requires (h : NodeWrites fuel env running node f) : NodeRequires fuel env running node True :=
  Writes.requires h

theorem requires_foldlM {α : Type} {step : State → α → Except Fault State} {xs : List α}
    (h : List.Forall₂ (fun x P => Requires running (step · x) P) xs ps) :
    Requires running (fun s => xs.foldlM step s) (∀ P ∈ ps, P) := by
  induction h with
  | nil =>
    intro s s' plain ok
    obtain rfl : s = s' := Except.ok.inj ok
    exact ⟨plain, List.forall_mem_nil _⟩
  | @cons x P xs ps first _ rest =>
    intro s s' plain ok
    have ok : List.foldlM step s (x :: xs) = .ok s' := ok
    rw [List.foldlM_cons] at ok
    cases run : step s x with
    | error fault =>
      rw [run] at ok
      exact absurd ok nofun
    | ok t =>
      rw [run] at ok
      obtain ⟨plain', here⟩ := first s t plain run
      obtain ⟨plain'', there⟩ := rest t s' plain' ok
      exact ⟨plain'', List.forall_mem_cons.2 ⟨here, there⟩⟩

theorem nodesRequire_each (h : List.Forall₂ (NodeRequires fuel env running) nodes ps) :
    NodesRequire fuel env running nodes (∀ P ∈ ps, P) :=
  requires_foldlM h

theorem requires_body (h : NodesRequire fuel env running nodes P) :
    Requires running (fun s => renderBody (fuel + 1) env s nodes) P := by
  intro s s' plain ok
  simp only [renderBody] at ok
  exact h { s with current := none } s' ⟨plain.defined, .inl rfl⟩ ok

theorem nodeRequires_block {b : BlockFunction} {choice : Choice}
    (known : Callee.ofName? b.name = some (.block b))
    (found : env.scope.find segments = .ok (some v))
    (chosen : b.choose ⟨b.name, [⟨some v, some raw⟩], []⟩ [] true false = .ok choice)
    (run : Requires running (choice.run fuel env body) P) :
    NodeRequires (fuel + 1) env running
      (.block (.call (.name b.name) [.path raw segments] []) [] alone body none) P := by
  intro s s' plain ok
  obtain ⟨inner, ran, rfl⟩ := except_map_eq_ok.1 ((renderNode_block known found chosen s).symm.trans ok)
  obtain ⟨plain', holds⟩ := run _ inner (plain.withWriter _) ran
  exact ⟨plain'.withWriter _, holds⟩

theorem nodeRequires_each {items : List Json} (found : env.scope.find segments = .ok (some (.arr items)))
    (run : List.Forall₂ (fun frame P =>
      NodesRequire fuel { env with scope := env.scope.push frame } running body P)
      (BlockFunction.itemFrames [] items) ps) :
    NodeRequires (fuel + 2) env running (.block (.call (.name "each") [.path raw segments] []) [] alone body none)
      (∀ P ∈ ps, P) :=
  nodeRequires_block (b := .each) rfl found (choose_each _ _ items)
    (requires_foldlM (run.imp fun _ _ => requires_body))

theorem nodeRequires_embed {indent : String} (known : env.library.lookup name = some nodes)
    (other : running ≠ name) (noBody : name ≠ bodyName)
    (run : NodesRequire fuel (env.embedded indent) name nodes P) :
    NodeRequires (fuel + 1) env running (.embed (.call (.name name) [] []) alone indent none) P := by
  intro s s' plain ok
  obtain ⟨inner, ran, rfl⟩ := except_map_eq_ok.1 ((renderNode_embed known other noBody plain).symm.trans ok)
  obtain ⟨plain', holds⟩ := run _ inner (plain.start_embed (Writer.startsEmbed alone indent s.writer) name) ran
  exact ⟨⟨plain'.defined, plain.current⟩, holds⟩

end Requirements

end ClassTable.Template
