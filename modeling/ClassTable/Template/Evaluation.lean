import ClassTable.Template.Function
import ClassTable.Template.Scope

set_option autoImplicit false

namespace ClassTable.Template

inductive BlockFunction where
  | if
  | unless
  | each
  | with
  | raw
  | log
deriving DecidableEq, Repr

inductive Callee where
  | function (f : Function)
  | block (b : BlockFunction)
deriving DecidableEq, Repr

structure Call where
  name : String
  args : List Argument
  named : List (String × Argument)

/-- What a block does: nothing, write its body as it is or once in each of some frames, or write its
other body. -/
inductive Choice where
  | nothing
  | body
  | bodyIn (frames : List Frame)
  | inverse

namespace BlockFunction

def name : BlockFunction → String
  | .if => "if"
  | .unless => "unless"
  | .each => "each"
  | .with => "with"
  | .raw => "raw"
  | .log => "log"

def all : List BlockFunction := [.if, .unless, .each, .with, .raw, .log]

def ofName? (name : String) : Option BlockFunction := all.find? (·.name == name)

/-- Names for a value and for its position: one name is that of the value. -/
def bind (binders : List String) (value position : Json) : List (String × Json) :=
  match binders with
  | [v] => [(v, value)]
  | [v, p] => [(v, value), (p, position)]
  | _ => []

def itemFrame (binders : List String) (count index : Nat) (kind : String) (position value : Json) :
    Frame :=
  { value
    vars := [("first", .bool (index == 0)), ("last", .bool (index + 1 == count)), (kind, position)]
    names := bind binders value position }

def itemFrames (binders : List String) (items : List Json) : List Frame :=
  items.zipIdx.map fun (value, i) => itemFrame binders items.length i "index" (.nat i) value

def memberFrames (binders : List String) (members : List (String × Json)) : List Frame :=
  members.zipIdx.map fun ((key, value), i) =>
    itemFrame binders members.length i "key" (.str key) value

def includesZero (call : Call) : Bool :=
  (((call.named.lookup "includeZero").bind (·.value.bool?))).getD false

def levels : List String := ["error", "warn", "info", "debug", "trace"]

/-- The choice of a block; `hasBody` tells a block from a call without one. -/
def choose (b : BlockFunction) (call : Call) (binders : List String) (hasBody hasInverse : Bool) :
    Except Fault Choice :=
  let missing (arg : Argument) : Except Fault Choice :=
    if hasInverse then .ok .inverse else .error (.valueMissing arg.path)
  match b with
  | .if => do
    let arg ← argument "if" call.args 0
    pure (if isTruthy (includesZero call) arg.value then .body else .inverse)
  | .unless => do
    let arg ← argument "if" call.args 0
    pure (if isTruthy (includesZero call) arg.value then .inverse else .body)
  | .each => do
    let arg ← argument "each" call.args 0
    if !hasBody then pure .nothing
    else
      match arg.value with
      | .arr items =>
        pure (if items.isEmpty && hasInverse then .inverse else .bodyIn (itemFrames binders items))
      | .obj members =>
        pure (if members.isEmpty && hasInverse then .inverse
          else .bodyIn (memberFrames binders members))
      | _ => missing arg
  | .with => do
    let arg ← argument "with" call.args 0
    if isTruthy false arg.value then
      let names := match binders with
        | [v] => [(v, arg.value)]
        | _ => []
      pure (.bodyIn [⟨arg.value, [], names⟩])
    else missing arg
  | .raw => pure .body
  | .log =>
    let level := ((call.named.lookup "level").bind (·.value.str?)).getD "info"
    if level.toLower ∈ levels then .ok .nothing else .error (.levelUnknown level)

end BlockFunction

namespace Callee

def ofName? (name : String) : Option Callee :=
  (Function.ofName? name).map function <|> (BlockFunction.ofName? name).map block

/-- The value of a call inside an expression; block functions have no body to write there. -/
def value (c : Callee) (call : Call) : Except Fault Json :=
  match c with
  | function f => f.apply call.args
  | block b => do
    let _ ← b.choose call [] false false
    pure (.str "")

end Callee

def Expr.plainName? : Expr → Option String
  | .name s => some s
  | .path raw _ => some raw
  | _ => none

def Call.callee (call : Call) : Except Fault Callee :=
  match Callee.ofName? call.name with
  | some c => .ok c
  | none => .error (.functionUnknown call.name)

mutual

def evalExpr (scope : Scope) : Expr → Except Fault Argument
  | .name s => .ok ⟨none, some s⟩
  | .path raw segments => do pure ⟨← scope.find segments, some raw⟩
  | .literal value => .ok ⟨some value, none⟩
  | .call head args named => do
    let name ← match head.plainName? with
      | some s => pure s
      | none => do pure (textOf (← evalExpr scope head).value)
    let call : Call := ⟨name, ← evalArgs scope args, ← evalNamed scope named⟩
    pure ⟨some (← (← call.callee).value call), none⟩

def evalArgs (scope : Scope) : List Expr → Except Fault (List Argument)
  | [] => .ok []
  | e :: rest => do pure ((← evalExpr scope e) :: (← evalArgs scope rest))

def evalNamed (scope : Scope) : List (String × Expr) → Except Fault (List (String × Argument))
  | [] => .ok []
  | (name, e) :: rest => do pure ((name, ← evalExpr scope e) :: (← evalNamed scope rest))

end

def evalName (scope : Scope) (head : Expr) : Except Fault String :=
  match head.plainName? with
  | some s => .ok s
  | none => do pure (textOf (← evalExpr scope head).value)

def evalCall (scope : Scope) : Expr → Except Fault Call
  | .call head args named => do
    pure ⟨← evalName scope head, ← evalArgs scope args, ← evalNamed scope named⟩
  | e => do pure ⟨← evalName scope e, [], []⟩

end ClassTable.Template
