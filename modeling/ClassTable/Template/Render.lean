import ClassTable.Template.Evaluation
import ClassTable.Template.Writer

/-!
Writing templates.  The state of a run is its output, the templates defined on the way, and the name of
the template that is being written, which a block takes away.  Fuel bounds how deep blocks and templates
nest, and nothing else: lists of nodes and iterations cost none.
-/

set_option autoImplicit false

namespace ClassTable.Template

/-- Named templates, of which the first of a name counts. -/
abbrev Library := List (String × List Node)

/-- Where a node is written: among which templates, over which data, behind which indent.  The bodies are
those that the surrounding calls of templates carry, nearest first, and `depth` counts how many of them
are being written. -/
structure Env where
  library : Library
  scope : Scope
  indent : String
  bodies : List (List Node)
  depth : Nat

structure State where
  writer : Writer
  defined : Library
  current : Option String

namespace State

def start (name : String) : State := ⟨.empty, [], some name⟩

def write (s : State) (env : Env) (piece : String) : State :=
  { s with writer := s.writer.write env.indent piece }

def enter (s : State) (indentNext : Bool) : State := { s with writer := s.writer.enter indentNext }

def leave (s inner : State) : State := { inner with writer := s.writer.leave inner.writer }

end State

/-- The name that stands for the body of the template call around. -/
def bodyName : String := "@partial-block"

def defineName (call : Call) : Except Fault String :=
  match call.args with
  | [] => .error (.argumentMissing "inline" 0)
  | arg :: _ =>
    match arg.value with
    | .str name => .ok name
    | _ => .error (.argumentType "String")

/-- Carries out a directive; the only one defines a template. -/
def runDirective (env : Env) (s : State) (call : Expr) (body : Option (List Node)) :
    Except Fault State := do
  let call ← evalCall env.scope call
  if call.name = "inline" then
    let name ← defineName call
    match body with
    | some body => pure { s with defined := (name, body) :: s.defined }
    | none => .error .bodyMissing
  else .error (.directiveUnknown call.name)

def runDirectives (env : Env) (s : State) (nodes : List Node) : Except Fault State :=
  nodes.foldlM (fun s node =>
    match node with
    | .directive call body => runDirective env s call body
    | _ => .ok s) s

structure Found where
  nodes : List Node
  runsAs : Option String

def findTemplate (env : Env) (s : State) (name : String) (fallback : Option (List Node)) :
    Except Fault Found :=
  let local? := if name = bodyName then env.bodies[env.depth]? else s.defined.lookup name
  match local?.map (⟨·, none⟩) <|> (env.library.lookup name).map (⟨·, some name⟩)
      <|> fallback.map (⟨·, none⟩) with
  | some found => .ok found
  | none => .error (.partialUnknown name)

/-- The data of a template: its first argument or the current value, with the named arguments added. -/
def embeddedValue (scope : Scope) (call : Call) : Json :=
  let base := match call.args with
    | arg :: _ => arg.value
    | [] => scope.nearest.value
  if call.named.isEmpty then base
  else
    let members := match base with
      | .obj members => members
      | _ => []
    .obj (call.named.foldl (fun ms (name, arg) => Keyed.insert name arg.value ms) members)

/-- Writes the value of a call.  Without arguments, a name that no function has is a path. -/
def renderValue (env : Env) (s : State) (e : Expr) : Except Fault State := do
  let call ← evalCall env.scope e
  let entered := s.enter s.writer.indentNext
  match e, Callee.ofName? call.name with
  | .call head [] [], none =>
    let arg ← evalExpr env.scope head
    match arg.value? with
    | some value => pure (s.write env (textOf value))
    | none => .error (.valueMissing arg.path)
  | _, _ =>
    let inner ← match ← call.callee with
      | .function f => do pure (entered.write env (textOf (← f.apply call.args)))
      | .block b => do
        let _ ← b.choose call [] false false
        pure entered
    pure (s.leave inner)

mutual

def renderNode : Nat → Env → State → Node → Except Fault State
  | 0, _, _, _ => .error .nestedTooDeep
  | fuel + 1, env, s, node =>
    match node with
    | .text t => .ok (s.write env t)
    | .value call => renderValue env s call
    | .block call binders alone body inverse => do
      let call ← evalCall env.scope call
      let callee ← call.callee
      let entered := s.enter (s.writer.indentNext || (alone && s.writer.atLineStart))
      let inner ← match callee with
        | .function f => do pure (entered.write env (textOf (← f.apply call.args)))
        | .block b => do
          match ← b.choose call binders true inverse.isSome with
          | .nothing => pure entered
          | .body => renderBody fuel env entered body
          | .bodyIn frames =>
            frames.foldlM (fun s frame =>
              renderBody fuel { env with scope := env.scope.push frame } s body) entered
          | .inverse =>
            match inverse with
            | some nodes => renderBody fuel env entered nodes
            | none => pure entered
      pure (s.leave inner)
    | .embed call alone indent fallback => do
      let call ← evalCall env.scope call
      let entered := s.enter
        (s.writer.indentNext || (alone && (s.writer.atLineStart || !indent.isEmpty)))
      let entered ← runDirectives env entered (fallback.getD [])
      if entered.current = some call.name then .error .includesItself
      else
        let found ← findTemplate env entered call.name fallback
        let inner ← found.nodes.foldlM
          (renderNode fuel
            { library := env.library
              scope := env.scope.only (embeddedValue env.scope call)
              indent := env.indent ++ indent
              bodies := fallback.toList ++ env.bodies
              depth := if call.name = bodyName then env.depth + 1 else env.depth - 1 })
          { entered with current := found.runsAs }
        pure { s.leave inner with current := s.current }
    | .directive call body => runDirective env s call body

/-- Writes the body of a block, which runs under no name. -/
def renderBody : Nat → Env → State → List Node → Except Fault State
  | 0, _, _, _ => .error .nestedTooDeep
  | fuel + 1, env, s, nodes => nodes.foldlM (renderNode fuel env) { s with current := none }

end

end ClassTable.Template
