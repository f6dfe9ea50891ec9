import ClassTable.Command

set_option autoImplicit false

namespace ClassTable

structure GenerateCommand where
  input : String
  outputDir : Option String
  package : Option String
  templateDir : Option String
  policy : Option CollisionPolicy
  /-- Whether to name the files without writing them. -/
  dryRun : Bool
deriving DecidableEq, Repr

namespace GenerateCommand

def project (c : GenerateCommand) (settings : Settings) : Project :=
  match c.package with
  | some package => { settings.project with package }
  | none => settings.project

def dir (c : GenerateCommand) (settings : Settings) : String := c.outputDir.getD settings.outputDir

def library (c : GenerateCommand) (settings : Settings) (disk : Disk) :
    Except CommandFault Template.Library :=
  match c.templateDir <|> settings.templateDir with
  | some dir => (Template.Library.withOverrides disk dir).mapError (.templates dir)
  | none => .ok .builtin

def sources (c : GenerateCommand) (settings : Settings) (disk : Disk) :
    Logged CommandFault Sources := do
  let forest ← loadForest settings disk c.input
  let library ← .ofExcept (c.library settings disk)
  let renderer : Renderer := ⟨c.project settings, library, c.policy.getD settings.policy⟩
  (renderer.render forest).mapError .sources

def introduction (c : GenerateCommand) : String := "\nGenerating sources from " ++ c.input ++ "\n"

def report (action mark : String) (files : List OutputFile) : String :=
  "\n" ++ action ++ " " ++ toString files.length ++ " files:\n"
    ++ String.join (files.map fun f => "  " ++ mark ++ " " ++ f.path ++ "\n")

def run (c : GenerateCommand) (settings : Settings) (disk : Disk) : Outcome (List OutputFile) :=
  let found := c.sources settings disk
  match found.result with
  | .error fault => ⟨disk, c.introduction, ⟨found.events, .error fault⟩⟩
  | .ok sources =>
    let files := outputPlan (c.dir settings) (c.project settings) sources
    if c.dryRun then
      ⟨disk, c.introduction ++ report "Would generate" "•" files, ⟨found.events, .ok files⟩⟩
    else
      match writeSources (c.dir settings) (c.project settings) sources disk with
      | (disk, .error fault) => ⟨disk, c.introduction, ⟨found.events, .error (.output fault)⟩⟩
      | (disk, .ok ()) =>
        ⟨disk, c.introduction ++ report "Generated" "✓" files, ⟨found.events, .ok files⟩⟩

end GenerateCommand

end ClassTable
