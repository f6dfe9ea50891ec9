import ClassTable.Proofs.Template.Writing

/-!
Output that only grows.  What nodes without templates of their own write does not depend on the text in
front of it (`Appends`), nor, where no indent is asked for, on whether that text ends a line (`Local`).  Such
nodes take no notice of the state of a run but for its output: they fail from every state, with one fault,
or from none (`uniform_nodes`).
-/

set_option autoImplicit false

namespace ClassTable.Template

namespace Writer

def behind (front : String) (w : Writer) : Writer := { w with text := front ++ w.text }

/-- Holds of writing that does not depend on the text so far. -/
def Appends (f : Writer → Writer) : Prop := ∀ front w, f (w.behind front) = (f w).behind front

section Appends

variable {f : Writer → Writer} {fs : List (Writer → Writer)} {indent text : String} {w w' : Writer}

theorem appends_piece (indent text : String) : Appends (piece indent text) := by
  intro front w
  by_cases empty : text = ""
  · simp [piece, write, behind, empty]
  · simp [piece, write, behind, empty, String.append_assoc]

theorem appends_inOrder (each : ∀ f ∈ fs, Appends f) : Appends (inOrder fs) := by
  induction fs with
  | nil => exact fun _ _ => rfl
  | cons f fs ih =>
    obtain ⟨first, rest⟩ := List.forall_mem_cons.1 each
    intro front w
    change inOrder fs (f (w.behind front)) = (inOrder fs (f w)).behind front
    rw [first, ih rest]

theorem appends_nested {start : Writer → Bool} (same : ∀ front w, start (w.behind front) = start w)
    (h : Appends f) : Appends (nested start f) := by
  intro front w
  have inner : f ((w.behind front).enter (start w)) = (f (w.enter (start w))).behind front :=
    h front (w.enter (start w))
  unfold nested
  rw [same, inner]
  cases produced : (f (w.enter (start w))).produced <;> simp [leave, behind, produced]

theorem text_piece (text : String) (w : Writer) : (piece "" text w).text = w.text ++ text := by
  by_cases empty : text = ""
  · simp [piece, write, empty]
  · simp [piece, write, empty]

theorem text_nested (start : Writer → Bool) (f : Writer → Writer) (w : Writer) :
    (nested start f w).text = (f (w.enter (start w))).text := by
  unfold nested leave
  split <;> rfl

/-- Holds of writing that depends on the place where it starts only by its indent. -/
structure Local (indent : String) (f : Writer → Writer) : Prop where
  appends : Appends f
  steady : indent = "" → ∀ w w', w.text = w'.text → (f w).text = (f w').text

theorem local_id : Local indent id := ⟨fun _ _ => rfl, fun _ _ _ same => same⟩

theorem local_piece (indent text : String) : Local indent (piece indent text) := by
  refine ⟨appends_piece indent text, ?_⟩
  rintro rfl w w' same
  rw [text_piece, text_piece, same]

theorem local_inOrder (each : ∀ f ∈ fs, Local indent f) : Local indent (inOrder fs) := by
  refine ⟨appends_inOrder fun f mem => (each f mem).appends, fun plain => ?_⟩
  induction fs with
  | nil => exact fun _ _ same => same
  | cons f fs ih =>
    obtain ⟨first, rest⟩ := List.forall_mem_cons.1 each
    intro w w' same
    exact ih rest _ _ (first.steady plain w w' same)

theorem local_nested {start : Writer → Bool} (same : ∀ front w, start (w.behind front) = start w)
    (h : Local indent f) : Local indent (nested start f) := by
  refine ⟨appends_nested same h.appends, fun plain w w' text => ?_⟩
  rw [text_nested, text_nested]
  exact h.steady plain _ _ text

def lineStart : Writer := ⟨"", true, false, true⟩

theorem Local.text_plain (h : Local "" f) (w : Writer) : (f w).text = w.text ++ (f lineStart).text := by
  have moved := h.appends w.text lineStart
  rw [h.steady rfl w (lineStart.behind w.text) (by simp [lineStart, behind]), moved]
  rfl

end Appends

end Writer

mutual

def Node.isClosed : Node → Bool
  | .text _ => true
  | .value _ => true
  | .block _ _ _ body inverse => nodesAreClosed body && inverseIsClosed inverse
  | .embed .. => false
  | .directive .. => false

def nodesAreClosed : List Node → Bool
  | [] => true
  | node :: nodes => node.isClosed && nodesAreClosed nodes

def inverseIsClosed : Option (List Node) → Bool
  | none => true
  | some nodes => nodesAreClosed nodes

end

theorem isClosed_of_mem {nodes : List Node} (closed : nodesAreClosed nodes = true) :
    ∀ node ∈ nodes, node.isClosed = true := by
  induction nodes with
  | nil => exact List.forall_mem_nil _
  | cons node nodes ih =>
    rw [nodesAreClosed, Bool.and_eq_true] at closed
    exact List.forall_mem_cons.2 ⟨closed.1, ih closed.2⟩

/-- From any state a run succeeds, changes the output by `f` and defines no template; of the name of the
running template it keeps what it does not take away. -/
def Changes (run : State → Except Fault State) (f : Writer → Writer) : Prop :=
  ∀ s, ∃ s', run s = .ok s' ∧ s'.defined = s.defined ∧ (s'.current = none ∨ s'.current = s.current) ∧
    s'.writer = f s.writer

theorem Changes.writes {run : State → Except Fault State} {f : Writer → Writer} (h : Changes run f)
    (running : String) : Writes running run f := by
  intro s plain
  obtain ⟨s', ok, defined, current, written⟩ := h s
  refine ⟨s', ok, ⟨defined.trans plain.defined, ?_⟩, written⟩
  rcases current with gone | kept
  · exact .inl gone
  · exact kept ▸ plain.current

/-- A run that either fails from every state in the same way or writes from every state. -/
inductive Uniform (indent : String) (run : State → Except Fault State) : Prop
  | fails (fault : Fault) (always : ∀ s, run s = .error fault)
  | writes (f : Writer → Writer) (isLocal : Writer.Local indent f) (always : Changes run f)

section Uniform

variable {α : Type} {indent : String} {run : State → Except Fault State}

theorem uniform_ok : Uniform indent (fun s => .ok s) :=
  .writes id Writer.local_id fun s => ⟨s, rfl, rfl, .inr rfl, rfl⟩

theorem uniform_write (env : Env) (text : String) : Uniform env.indent (fun s => .ok (s.write env text)) :=
  .writes (Writer.piece env.indent text) (Writer.local_piece _ _) fun s =>
    ⟨s.write env text, rfl, rfl, .inr rfl, rfl⟩

theorem uniform_bind {x : Except Fault α} {next : α → State → Except Fault State}
    (h : ∀ a, x = .ok a → Uniform indent (next a)) : Uniform indent (fun s => x >>= fun a => next a s) := by
  cases x with
  | error fault => exact .fails fault fun _ => rfl
  | ok a => exact h a rfl

theorem uniform_foldlM {step : State → α → Except Fault State} {xs : List α}
    (each : ∀ x ∈ xs, Uniform indent (step · x)) : Uniform indent (fun s => xs.foldlM step s) := by
  induction xs with
  | nil => exact uniform_ok
  | cons x xs ih =>
    obtain ⟨first, rest⟩ := List.forall_mem_cons.1 each
    cases first with
    | fails fault always =>
      refine .fails fault fun s => ?_
      have stops : step s x = .error fault := always s
      rw [List.foldlM_cons, stops]
      rfl
    | writes f isLocal always =>
      cases ih rest with
      | fails fault later =>
        refine .fails fault fun s => ?_
        obtain ⟨s', ok, -⟩ := always s
        have ok : step s x = .ok s' := ok
        rw [List.foldlM_cons, ok]
        exact later s'
      | writes g isLocal' later =>
        refine .writes (Writer.inOrder [f, g]) (Writer.local_inOrder (by simp [isLocal, isLocal'])) fun s => ?_
        obtain ⟨s', ok, defined, current, written⟩ := always s
        obtain ⟨s'', ok', defined', current', written'⟩ := later s'
        have ok : step s x = .ok s' := ok
        refine ⟨s'', ?_, defined'.trans defined, ?_, ?_⟩
        · rw [List.foldlM_cons, ok]
          exact ok'
        · rcases current' with gone | kept
          · exact .inl gone
          · exact kept ▸ current
        · rw [written', written]
          rfl

theorem uniform_nested (start : Writer → Bool) (same : ∀ front w, start (Writer.behind front w) = start w)
    (h : Uniform indent run) :
    Uniform indent (fun s => run (s.enter (start s.writer)) >>= fun inner => pure (s.leave inner)) := by
  cases h with
  | fails fault always =>
    refine .fails fault fun s => ?_
    rw [always]
    rfl
  | writes f isLocal always =>
    refine .writes (Writer.nested start f) (Writer.local_nested same isLocal) fun s => ?_
    obtain ⟨inner, ok, defined, current, written⟩ := always (s.enter (start s.writer))
    refine ⟨s.leave inner, ?_, defined, current, ?_⟩
    · rw [ok]
      rfl
    · simp only [State.leave, written, State.enter, Writer.nested]

variable {fuel : Nat} {env : Env}

theorem uniform_body {nodes : List Node}
    (each : ∀ k, k < fuel → ∀ node ∈ nodes, Uniform env.indent (fun s => renderNode k env s node)) :
    Uniform env.indent (fun s => renderBody fuel env s nodes) := by
  cases fuel with
  | zero => exact .fails .nestedTooDeep fun s => by rw [renderBody]
  | succ fuel =>
    have body : ∀ s, renderBody (fuel + 1) env s nodes =
        nodes.foldlM (renderNode fuel env) { s with current := none } := fun s => by
      rw [renderBody]
    cases uniform_foldlM (each fuel (Nat.lt_succ_self fuel)) with
    | fails fault always =>
      refine .fails fault fun s => ?_
      rw [body]
      exact always _
    | writes f isLocal always =>
      refine .writes f isLocal fun s => ?_
      obtain ⟨s', ok, defined, current, written⟩ := always { s with current := none }
      exact ⟨s', (body s).trans ok, defined, .inl (current.elim id id), written⟩

theorem uniform_callee {x : Except Fault Callee} {k : Callee → State → Except Fault State}
    (function : ∀ f, Uniform indent (k (.function f))) (block : ∀ b, Uniform indent (k (.block b))) :
    Uniform indent (fun s => x >>= fun callee => k callee s) := by
  refine uniform_bind fun callee _ => ?_
  cases callee with
  | function f => exact function f
  | block b => exact block b

theorem uniform_value (e : Expr) : Uniform env.indent (fun s => renderValue env s e) := by
  unfold renderValue
  refine uniform_bind fun call _ => ?_
  have function (f : Function) : Uniform env.indent (fun s => f.apply call.args >>= fun value =>
      .ok (s.leave ((s.enter s.writer.indentNext).write env (textOf value)))) :=
    uniform_bind fun value _ => uniform_nested (·.indentNext) (fun _ _ => rfl) (uniform_write env _)
  have block (b : BlockFunction) : Uniform env.indent (fun s => b.choose call [] false false >>= fun _ =>
      .ok (s.leave (s.enter s.writer.indentNext))) :=
    uniform_bind fun _ _ => uniform_nested (·.indentNext) (fun _ _ => rfl) uniform_ok
  cases e with
  | name _ => exact uniform_callee function block
  | path _ _ => exact uniform_callee function block
  | literal _ => exact uniform_callee function block
  | call head args named =>
    cases args with
    | cons _ _ => exact uniform_callee function block
    | nil =>
      cases named with
      | cons _ _ => exact uniform_callee function block
      | nil =>
        cases Callee.ofName? call.name with
        | some _ => exact uniform_callee function block
        | none =>
          refine uniform_bind fun arg _ => ?_
          cases arg.value? with
          | some value => exact uniform_write env _
          | none => exact .fails _ fun _ => rfl

theorem uniform_node (node : Node) (closed : node.isClosed = true) :
    Uniform env.indent (fun s => renderNode fuel env s node) := by
  induction fuel using Nat.strongRecOn generalizing env node with
  | ind fuel ih =>
    cases fuel with
    | zero => exact .fails .nestedTooDeep fun s => by rw [renderNode]
    | succ fuel =>
      have nested (env : Env) (nodes : List Node) (closed : nodesAreClosed nodes = true) :
          Uniform env.indent (fun s => renderBody fuel env s nodes) :=
        uniform_body fun k less node mem =>
          ih k (Nat.lt_succ_of_lt less) node (isClosed_of_mem closed node mem)
      cases node with
      | text t =>
        simp only [renderNode]
        exact uniform_write env t
      | value call =>
        simp only [renderNode]
        exact uniform_value call
      | block call binders alone body inverse =>
        obtain ⟨bodyClosed, inverseClosed⟩ : nodesAreClosed body = true ∧ inverseIsClosed inverse = true := by
          simpa [Node.isClosed] using closed
        simp only [renderNode]
        refine uniform_bind fun call _ => uniform_bind fun callee _ => ?_
        have part {run : State → Except Fault State} (h : Uniform env.indent run) :
            Uniform env.indent (fun s => run (s.enter (Writer.startsBlock alone s.writer)) >>= fun inner =>
              pure (s.leave inner)) :=
          uniform_nested (Writer.startsBlock alone) (fun _ _ => rfl) h
        cases callee with
        | function f => exact uniform_bind fun value _ => part (uniform_write env _)
        | block b =>
          refine uniform_bind fun choice _ => ?_
          cases choice with
          | nothing => exact part uniform_ok
          | body => exact part (nested env body bodyClosed)
          | bodyIn frames =>
            exact part (uniform_foldlM fun frame _ =>
              nested { env with scope := env.scope.push frame } body bodyClosed)
          | inverse =>
            cases inverse with
            | none => exact part uniform_ok
            | some nodes => exact part (nested env nodes inverseClosed)
      | embed => simp [Node.isClosed] at closed
      | directive => simp [Node.isClosed] at closed

theorem uniform_nodes {nodes : List Node} (closed : nodesAreClosed nodes = true) :
    Uniform env.indent (fun s => nodes.foldlM (renderNode fuel env) s) :=
  uniform_foldlM fun node mem => uniform_node node (isClosed_of_mem closed node mem)

def writing (fuel : Nat) (env : Env) (nodes : List Node) (w : Writer) : Writer :=
  match nodes.foldlM (renderNode fuel env) ⟨w, [], none⟩ with
  | .ok s => s.writer
  | .error _ => w

/-- One successful run of closed nodes tells what they do from every state. -/
theorem writing_of_ok {nodes : List Node} {s s' : State} (closed : nodesAreClosed nodes = true)
    (ok : nodes.foldlM (renderNode fuel env) s = .ok s') :
    Writer.Local env.indent (writing fuel env nodes) ∧
      (∀ running, NodesWrite fuel env running nodes (writing fuel env nodes)) ∧
      s'.writer = writing fuel env nodes s.writer := by
  have either : Uniform env.indent (fun s => nodes.foldlM (renderNode fuel env) s) := uniform_nodes closed
  cases either with
  | fails fault always => exact absurd (ok.symm.trans (always s)) nofun
  | writes f isLocal always =>
    have same : writing fuel env nodes = f := by
      funext w
      obtain ⟨t, run, -, -, written⟩ := always ⟨w, [], none⟩
      have run : nodes.foldlM (renderNode fuel env) ⟨w, [], none⟩ = .ok t := run
      unfold writing
      rw [run]
      exact written
    rw [same]
    refine ⟨isLocal, fun running => Changes.writes always running, ?_⟩
    obtain ⟨t, run, -, -, written⟩ := always s
    obtain rfl := Except.ok.inj (ok.symm.trans run)
    exact written

theorem nodesRequire_closed {nodes : List Node} (closed : nodesAreClosed nodes = true) (running : String)
    (w : Writer) :
    NodesRequire fuel env running nodes
      (∃ s, nodes.foldlM (renderNode fuel env) ⟨w, [], some running⟩ = .ok s) := by
  intro s s' plain ok
  obtain ⟨-, writes, -⟩ := writing_of_ok closed ok
  obtain ⟨t, run, plain', -⟩ := writes running s plain
  obtain rfl := Except.ok.inj (run.symm.trans ok)
  obtain ⟨last, started, -⟩ := writes running ⟨w, [], some running⟩ ⟨rfl, .inr rfl⟩
  exact ⟨plain', last, started⟩

theorem local_of_writes {nodes : List Node} {running : String} {f : Writer → Writer}
    (closed : nodesAreClosed nodes = true) (writes : NodesWrite fuel env running nodes f) :
    Writer.Local env.indent f := by
  have same : writing fuel env nodes = f := by
    funext w
    obtain ⟨s, run, -, written⟩ := writes ⟨w, [], none⟩ ⟨rfl, .inl rfl⟩
    have run : nodes.foldlM (renderNode fuel env) ⟨w, [], none⟩ = .ok s := run
    unfold writing
    rw [run]
    exact written
  obtain ⟨s, run, -⟩ := writes ⟨.empty, [], none⟩ ⟨rfl, .inl rfl⟩
  exact same ▸ (writing_of_ok closed run).1

end Uniform

end ClassTable.Template
