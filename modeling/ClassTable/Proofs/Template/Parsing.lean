import ClassTable.Template.Builtin

/-!
The trees of the built-in templates, and that their sources parse to them.  The tree of a parse is compared with
another by a check that evaluates (`nodesAgree`): nodes have no decidable equality, and unfolding both sides takes
far longer.
-/

set_option autoImplicit false

namespace ClassTable.Template

section Agreement

deriving instance DecidableEq for Segment

mutual

/-- Whether two expressions are the same and hold no literal and no named argument. -/
def Expr.agrees : Expr → Expr → Bool
  | .name s, .name t => decide (s = t)
  | .path raw segments, .path raw' segments' => decide (raw = raw' ∧ segments = segments')
  | .call head args [], .call head' args' [] => head.agrees head' && exprsAgree args args'
  | _, _ => false

def exprsAgree : List Expr → List Expr → Bool
  | [], [] => true
  | e :: es, e' :: es' => e.agrees e' && exprsAgree es es'
  | _, _ => false

end

mutual

def Node.agrees : Node → Node → Bool
  | .text s, .text t => decide (s = t)
  | .value call, .value call' => call.agrees call'
  | .block call binders alone body none, .block call' binders' alone' body' none =>
    decide (binders = binders' ∧ alone = alone') && (call.agrees call' && nodesAgree body body')
  | .embed call alone indent none, .embed call' alone' indent' none =>
    decide (alone = alone' ∧ indent = indent') && call.agrees call'
  | _, _ => false

def nodesAgree : List Node → List Node → Bool
  | [], [] => true
  | n :: ns, n' :: ns' => n.agrees n' && nodesAgree ns ns'
  | _, _ => false

end

-- The cases of both inductions are the equations of the check and of the one on lists; in the last of each the
-- check fails.
theorem Expr.eq_of_agrees {e e' : Expr} (same : e.agrees e' = true) : e = e' := by
  revert same
  apply Expr.agrees.induct (fun e e' => e.agrees e' = true → e = e')
    (fun es es' => exprsAgree es es' = true → es = es')
  case case1 | case2 => simp [agrees]
  case case3 =>
    intro head args head' args' ihHead ihArgs same
    rw [agrees, Bool.and_eq_true] at same
    rw [ihHead same.1, ihArgs same.2]
  case case5 => exact fun _ => rfl
  case case6 =>
    intro e es e' es' ihHead ihTail same
    rw [exprsAgree, Bool.and_eq_true] at same
    rw [ihHead same.1, ihTail same.2]
  case case4 | case7 =>
    intros
    simp_all [agrees, exprsAgree]

theorem eq_of_nodesAgree {ns ns' : List Node} (same : nodesAgree ns ns' = true) : ns = ns' := by
  revert same
  apply nodesAgree.induct (fun n n' => n.agrees n' = true → n = n')
    (fun ns ns' => nodesAgree ns ns' = true → ns = ns')
  case case1 => simp [Node.agrees]
  case case2 => exact fun call call' same => congrArg Node.value (Expr.eq_of_agrees same)
  case case3 =>
    intro call binders alone body call' binders' alone' body' ih same
    simp only [Node.agrees, Bool.and_eq_true, decide_eq_true_eq] at same
    obtain ⟨⟨rfl, rfl⟩, call, body⟩ := same
    rw [Expr.eq_of_agrees call, ih body]
  case case4 =>
    intro call alone indent call' alone' indent' same
    simp only [Node.agrees, Bool.and_eq_true, decide_eq_true_eq] at same
    obtain ⟨⟨rfl, rfl⟩, call⟩ := same
    rw [Expr.eq_of_agrees call]
  case case6 => exact fun _ => rfl
  case case7 =>
    intro n ns n' ns' ihHead ihTail same
    rw [nodesAgree, Bool.and_eq_true] at same
    rw [ihHead same.1, ihTail same.2]
  case case5 | case8 =>
    intros
    simp_all [Node.agrees, nodesAgree]

/-- A parse is decided by evaluation. -/
theorem parse?_of_agree {source : String} {nodes : List Node}
    (agree : (parse? source).any (nodesAgree nodes) = true) : parse? source = some nodes := by
  obtain ⟨nodes', parsed, same⟩ := (Option.any_eq_true _ _).1 agree
  rw [parsed, eq_of_nodesAgree same]

end Agreement

namespace Node

@[reducible] def valueAt (raw : String) (keys : List String) : Node :=
  .value (.call (.path raw (keys.map .key)) [] [])

@[reducible] def blockOn (function raw : String) (keys : List String) (alone : Bool) (body : List Node) : Node :=
  .block (.call (.name function) [.path raw (keys.map .key)] []) [] alone body none

@[reducible] def place (name indent : String) : Node := .embed (.call (.name name) [] []) true indent none

end Node

namespace Builtin

def copyrightNodes : List Node :=
  [.text "/*\n * Copyright (c) ", .valueAt "year" ["year"], .text " ", .valueAt "meta.creator" ["meta", "creator"],
    .text ". All rights reserved.\n *\n * Project: ", .valueAt "meta.project" ["meta", "project"], .text " ",
    .valueAt "meta.version" ["meta", "version"],
    .text "\n * Generated by dtoforge. Do not edit by hand.\n */\n"]

def commentLineNodes : List Node :=
  [.text " *", .blockOn "if" "this" [] false [.text " ", .valueAt "this" []], .text "\n"]

def classDocNodes : List Node :=
  [.text "/**\n", .blockOn "each" "description_lines" ["description_lines"] true commentLineNodes,
    .text " *\n * @author ", .valueAt "meta.creator" ["meta", "creator"], .text "\n * @version ",
    .valueAt "meta.version" ["meta", "version"], .text "\n * @since ", .valueAt "meta.created" ["meta", "created"],
    .text "\n */\n"]

def fieldNodes : List Node :=
  [.blockOn "if" "description" ["description"] true
      [.text "/** ", .valueAt "description" ["description"], .text " */\n"],
    .blockOn "if" "non_null" ["non_null"] true [.text "@NonNull\n"],
    .text "private ", .valueAt "data_type" ["data_type"], .text " ", .valueAt "name" ["name"],
    .blockOn "if" "initial_value" ["initial_value"] false
      [.text " = ", .valueAt "initial_value" ["initial_value"]],
    .text ";\n"]

def parameterNodes : List Node :=
  [.valueAt "data_type" ["data_type"], .text " ", .valueAt "name" ["name"],
    .block (.call (.name "unless") [.path "@last" [.data, .key "last"]] []) [] false [.text ", "] none]

def constructorNodes : List Node :=
  [.text "/**\n", .blockOn "each" "doc" ["doc"] true commentLineNodes, .text " */\npublic ",
    .valueAt "class_name" ["class_name"], .text "(", .blockOn "each" "parameters" ["parameters"] false parameterNodes,
    .text ") \x7b\n",
    .blockOn "each" "assignments" ["assignments"] true
      [.text "    this.", .valueAt "member" ["member"], .text " = ", .valueAt "value" ["value"], .text ";\n"],
    .text "\x7d\n"]

def accessorNodes : List Node :=
  [.text "/**\n * @return the ", .valueAt "name" ["name"], .text "\n */\npublic ", .valueAt "data_type" ["data_type"],
    .text " ", .value (.call (.name "getter") [.path "name" [.key "name"]] []),
    .text "() \x7b\n    return ", .valueAt "name" ["name"], .text ";\n\x7d\n"]

def memberNodes (key block : String) : List Node :=
  [.blockOn "each" key [key] true [.text "\n", .place block "    "]]

def classFileNodes : List Node :=
  [.place "copyright" "", .text "package ", .valueAt "meta.package" ["meta", "package"],
    .text ";\n\nimport lombok.Data;\n",
    .blockOn "if" "uses_non_null" ["uses_non_null"] true [.text "import lombok.NonNull;\n"], .text "\n",
    .place "class_doc" "", .text "@Data\npublic class ", .valueAt "class.name" ["class", "name"],
    .text " \x7b\n"]
  ++ memberNodes "fields" "field" ++ memberNodes "constructors" "constructor"
  ++ memberNodes "fields" "accessor" ++ [.text "\x7d\n"]

def nodes : Builtin → List Node
  | copyright => copyrightNodes
  | classDoc => classDocNodes
  | field => fieldNodes
  | constructor => constructorNodes
  | accessor => accessorNodes
  | classFile => classFileNodes

section Sources

-- Writing a source out as characters goes as deep as the source is long.
set_option maxRecDepth 10000

theorem parse_source (b : Builtin) : parse? b.source = some b.nodes := by
  apply parse?_of_agree
  unfold parse?
  cases b
  all_goals
    unfold source
    dsimp only [copyrightSource, classDocSource, fieldSource, constructorSource, accessorSource, classFileSource,
      membersSource, tag]
    repeat rw [String.toList_append]
    repeat rw [String.toList_ofList]
    simp only [List.cons_append, List.nil_append]
    decide +kernel

end Sources

theorem lookup_builtin (b : Builtin) : Library.builtin.lookup b.name = some b.nodes := by
  have parsed : ∀ b : Builtin, (b.name, (parse? b.source).getD []) = (b.name, b.nodes) := fun b => by
    rw [parse_source, Option.getD_some]
  have library : Library.builtin = Builtin.all.map fun b => (b.name, b.nodes) := by
    unfold Library.builtin
    simp only [parsed]
  rw [library]
  cases b <;> rfl

end Builtin
end ClassTable.Template
