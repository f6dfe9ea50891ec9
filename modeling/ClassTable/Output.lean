import ClassTable.Disk
import ClassTable.Sources

set_option autoImplicit false

namespace ClassTable

structure OutputFile where
  className : String
  path : String
deriving DecidableEq, Repr

def outputFile (dir : String) (project : Project) (className : String) : OutputFile :=
  ⟨className, Path.join dir (project.fileName className)⟩

def outputPlan (dir : String) (project : Project) (sources : Sources) : List OutputFile :=
  sources.keys.map (outputFile dir project)

inductive OutputFault where
  | directory (path : String) (fault : DiskFault)
  | file (path : String) (fault : DiskFault)
deriving DecidableEq, Repr

def OutputFault.message : OutputFault → String
  | directory path fault => "Failed to create directory: " ++ path ++ ": " ++ fault.message
  | file path fault => "Failed to write file: " ++ path ++ ": " ++ fault.message

def writeText (disk : Disk) (path text : String) : Except OutputFault Disk :=
  (disk.write path (Text.toUtf8 text)).mapError (.file path)

def writeFiles (dir : String) (project : Project) (disk : Disk) :
    Sources → Disk × Except OutputFault Unit
  | [] => (disk, .ok ())
  | (className, text) :: rest =>
    match writeText disk (outputFile dir project className).path text with
    | .ok disk => writeFiles dir project disk rest
    | .error fault => (disk, .error fault)

def writeSources (dir : String) (project : Project) (sources : Sources) (disk : Disk) :
    Disk × Except OutputFault Unit :=
  match disk.makeDirectories dir with
  | (disk, .error fault) => (disk, .error (.directory dir fault))
  | (disk, .ok ()) => writeFiles dir project disk sources

end ClassTable
