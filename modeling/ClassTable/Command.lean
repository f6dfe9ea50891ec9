import ClassTable.Output
import ClassTable.Settings
import ClassTable.Table.File
import ClassTable.Template.Override

set_option autoImplicit false

namespace ClassTable

inductive CommandFault where
  | settings (fault : SettingsFault)
  | table (path : String) (fault : Table.FileFault)
  | rows (fault : RowFault)
  | templates (dir : String) (fault : Template.OverrideFault)
  | sources (fault : Fault)
  | output (fault : OutputFault)
  | occupied (path : String)
deriving DecidableEq, Repr

namespace CommandFault

/-- A fault with its causes, outermost first; faults of templates and settings name no cause. -/
def message : CommandFault → String
  | settings _ => "Failed to load configuration"
  | table path fault =>
    "Failed to read definition table: " ++ path ++ ": " ++ fault.message
      ++ (match fault.cause? with
        | some cause => ": " ++ cause
        | none => "")
  | rows fault => "Failed to build class tree: " ++ fault.message
  | templates dir fault =>
    "Failed to load templates from: " ++ dir
      ++ (match fault with
        | .undecodable _ => ": " ++ fault.message ++ ": " ++ Template.OverrideFault.undecodableText
        | .malformed _ => "")
  | sources (.template _) => "Failed to render sources"
  | sources fault => "Failed to render sources: " ++ fault.message
  | output fault => fault.message
  | occupied path => path ++ " already exists (use --force to replace it)"

end CommandFault

structure Outcome (α : Type) where
  disk : Disk
  printed : String
  run : Logged CommandFault α

def loadRows (settings : Settings) (disk : Disk) (path : String) : Logged CommandFault (List Row) :=
  (Table.load disk settings.columns none path).mapError (.table path)

def loadForest (settings : Settings) (disk : Disk) (path : String) :
    Logged CommandFault (List ClassDef) := do
  let rows ← loadRows settings disk path
  (buildForest rootBase rows).mapError .rows

def withSettings {α : Type} (today : Date) (environment : List (String × String))
    (path : Option String) (disk : Disk) (command : Settings → Disk → Outcome α) : Outcome α :=
  match Settings.load today disk environment (path.getD Settings.fileName) with
  | .ok settings => command settings disk
  | .error fault => ⟨disk, "", .fail (.settings fault)⟩

end ClassTable
