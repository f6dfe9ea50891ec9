import ClassTable.Disk
import ClassTable.Table

set_option autoImplicit false

namespace ClassTable.Table

inductive FileFault where
  | unopenable (path : String) (fault : DiskFault)
  | unreadable (fault : DiskFault)
  | content (fault : Fault)
deriving DecidableEq, Repr

namespace FileFault

def message : FileFault → String
  | unopenable path fault => "failed to open definition table " ++ path ++ ": " ++ fault.message
  | unreadable fault => "failed to parse definition table: " ++ fault.message
  | content fault => fault.message

def cause? : FileFault → Option String
  | unopenable _ fault => some fault.message
  | unreadable fault => some fault.message
  | content (.undecodable position field index) => some (undecodableText position field index)
  | content (.missingColumn ..) => none

end FileFault

def delimiterOf (path : String) : UInt8 :=
  if (Path.extension? path).any fun e => e.toLower == "tsv" then tab else comma

/-- The rows of the table in a file; a given delimiter comes before the one of the file name. -/
def load (disk : Disk) (names : ColumnNames) (delimiter? : Option UInt8) (path : String) :
    Logged FileFault (List Row) :=
  match disk.find path with
  | .error fault => .fail (.unopenable path fault)
  | .ok entry =>
    match Disk.content entry with
    | .error fault => .fail (.unreadable fault)
    | .ok bytes => (read names (delimiter?.getD (delimiterOf path)) bytes).mapError .content

end ClassTable.Table
