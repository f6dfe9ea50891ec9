import ClassTable.Template.Lines

set_option autoImplicit false

namespace ClassTable.Template

mutual

def readNodes? : Nat → List Token → Option (List Node × List Token)
  | 0, _ => none
  | _, [] => some ([], [])
  | fuel + 1, .text cs :: rest => do
    let (nodes, rest) ← readNodes? fuel rest
    pure (if cs.isEmpty then nodes else .text (String.ofList cs) :: nodes, rest)
  | fuel + 1, .tag t :: rest =>
    let alone := t.standsAlone && !t.dropBefore
    let indent := String.ofList t.indent
    match t.tag with
    | .comment => readNodes? fuel rest
    | .value call => continue? fuel (.value call) rest
    | .embed call => continue? fuel (.embed call alone indent none) rest
    | .directive call => continue? fuel (.directive call none) rest
    | .openBlock call binders => do
      let (body, rest) ← readNodes? fuel rest
      let (inverse, rest) ← readInverse? fuel rest
      let rest ← afterClose? call.label rest
      continue? fuel (.block call binders alone body inverse) rest
    | .openEmbed call => do
      let (body, rest) ← readNodes? fuel rest
      let rest ← afterClose? call.label rest
      continue? fuel (.embed call alone "" (some body)) rest
    | .openDirective call => do
      let (body, rest) ← readNodes? fuel rest
      let rest ← afterClose? call.label rest
      continue? fuel (.directive call (some body)) rest
    | .chain .. | .otherwise | .close _ => some ([], .tag t :: rest)

def continue? : Nat → Node → List Token → Option (List Node × List Token)
  | 0, _, _ => none
  | fuel + 1, node, rest => do
    let (nodes, rest) ← readNodes? fuel rest
    pure (node :: nodes, rest)

/-- The other case of a block; a chained block is all there is in it. -/
def readInverse? : Nat → List Token → Option (Option (List Node) × List Token)
  | 0, _ => none
  | fuel + 1, .tag t :: rest =>
    match t.tag with
    | .otherwise => do
      let (body, rest) ← readNodes? fuel rest
      pure (some body, rest)
    | .chain call binders => do
      let (body, rest) ← readNodes? fuel rest
      let (inverse, rest) ← readInverse? fuel rest
      pure (some [.block call binders (t.standsAlone && !t.dropBefore) body inverse], rest)
    | _ => some (none, .tag t :: rest)
  | _, rest => some (none, rest)

def afterClose? (name : String) : List Token → Option (List Token)
  | .tag t :: rest => if t.tag == .close name then some rest else none
  | _ => none

end

def parse? (source : String) : Option (List Node) := do
  let cs := source.toList
  let tokens ← tokens? (cs.length + 1) [] cs
  let (nodes, rest) ← readNodes? (2 * tokens.length + 2) (trimTexts ⟨false, false⟩ tokens)
  if rest.isEmpty then pure nodes else none

end ClassTable.Template
