import ClassTable.Command
import ClassTable.Definition.Encoding
import ClassTable.Definition.Outline
import ClassTable.Json.Printer

set_option autoImplicit false

namespace ClassTable

structure TreeCommand where
  input : String
  asData : Bool
deriving DecidableEq, Repr

namespace TreeCommand

def text (c : TreeCommand) (forest : List ClassDef) : String :=
  if c.asData then (Json.arr (forestToJson forest)).pretty else outline forest

def run (c : TreeCommand) (settings : Settings) (disk : Disk) : Outcome String :=
  let found := loadForest settings disk c.input
  match found.result with
  | .error fault => ⟨disk, "", ⟨found.events, .error fault⟩⟩
  | .ok forest => ⟨disk, c.text forest ++ "\n", ⟨found.events, .ok (c.text forest)⟩⟩

end TreeCommand

end ClassTable
