import ClassTable.Command
import ClassTable.Settings.Starter

set_option autoImplicit false

namespace ClassTable

structure InitCommand where
  path : String
  force : Bool
deriving DecidableEq, Repr

namespace InitCommand

def run (c : InitCommand) (today : Date) (disk : Disk) : Outcome String :=
  if disk.exists c.path && !c.force then ⟨disk, "", .fail (.occupied c.path)⟩
  else
    match writeText disk c.path (Settings.starter today) with
    | .error fault => ⟨disk, "", .fail (.output fault)⟩
    | .ok disk => ⟨disk, "Created " ++ c.path ++ "\n", pure c.path⟩

end InitCommand

end ClassTable
