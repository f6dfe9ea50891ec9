import ClassTable.Command.Generate
import ClassTable.Command.Init
import ClassTable.Command.Tree
import ClassTable.Verbosity

set_option autoImplicit false

namespace ClassTable

inductive CommandName where
  | generate
  | tree
  | init
deriving DecidableEq, Repr

structure Options where
  verbose : Nat
  quiet : Bool
  format : ReportFormat
  config : Option String
  command : Option CommandName
  operand : Option String
  output : Option String
  package : Option String
  templates : Option String
  policy : Option CollisionPolicy
  dryRun : Bool
  json : Bool
  force : Bool

inductive Request where
  | generate (c : GenerateCommand)
  | tree (c : TreeCommand)
  | init (c : InitCommand)

namespace Options

def empty : Options :=
  { verbose := 0, quiet := false, format := .standard, config := none, command := none,
    operand := none, output := none, package := none, templates := none, policy := none,
    dryRun := false, json := false, force := false }

def usage : String := "usage: dtoforge [OPTIONS] generate INPUT | tree INPUT | init [PATH]"

def operand? (o : Options) (word : String) : Except String Options :=
  match o.command, word with
  | none, "generate" => .ok { o with command := some .generate }
  | none, "tree" => .ok { o with command := some .tree }
  | none, "init" => .ok { o with command := some .init }
  | none, _ => .error ("unrecognized subcommand '" ++ word ++ "'")
  | some _, _ =>
    if o.operand.isSome then .error ("unexpected argument '" ++ word ++ "' found")
    else .ok { o with operand := some word }

def read (o : Options) : List String → Except String Options
  | [] => .ok o
  | "-v" :: rest => read { o with verbose := o.verbose + 1 } rest
  | "-vv" :: rest => read { o with verbose := o.verbose + 2 } rest
  | "--verbose" :: rest => read { o with verbose := o.verbose + 1 } rest
  | "-q" :: rest => read { o with quiet := true } rest
  | "--quiet" :: rest => read { o with quiet := true } rest
  | "--dry-run" :: rest => read { o with dryRun := true } rest
  | "--json" :: rest => read { o with json := true } rest
  | "--force" :: rest => read { o with force := true } rest
  | "-c" :: path :: rest => read { o with config := some path } rest
  | "--config" :: path :: rest => read { o with config := some path } rest
  | "-o" :: dir :: rest => read { o with output := some dir } rest
  | "--output" :: dir :: rest => read { o with output := some dir } rest
  | "-p" :: package :: rest => read { o with package := some package } rest
  | "--package" :: package :: rest => read { o with package := some package } rest
  | "--templates" :: dir :: rest => read { o with templates := some dir } rest
  | "--collision" :: name :: rest =>
    match CollisionPolicy.ofName? name with
    | some policy => read { o with policy := some policy } rest
    | none => .error ("invalid value '" ++ name ++ "' for '--collision'")
  | "--log-format" :: name :: rest =>
    match ReportFormat.ofName? name with
    | some format => read { o with format } rest
    | none => .error ("invalid value '" ++ name ++ "' for '--log-format'")
  | word :: rest =>
    if word.startsWith "-" then .error ("unexpected argument '" ++ word ++ "' found")
    else do read (← o.operand? word) rest

def request (o : Options) : Except String Request :=
  match o.command, o.operand with
  | some .generate, some input =>
    .ok (.generate
      { input, outputDir := o.output, package := o.package, templateDir := o.templates,
        policy := o.policy, dryRun := o.dryRun })
  | some .tree, some input => .ok (.tree ⟨input, o.json⟩)
  | some .init, path => .ok (.init ⟨path.getD Settings.fileName, o.force⟩)
  | _, _ => .error usage

end Options

/-- The paths that a command reads, the settings file aside. -/
def Request.reads (settings : Settings) : Request → List String
  | .generate c =>
    let templates := match c.templateDir <|> settings.templateDir with
      | some dir => Template.Builtin.all.map (·.path dir)
      | none => []
    c.input :: c.dir settings :: templates
  | .tree c => [c.input]
  | .init c => [c.path]

end ClassTable
