import ClassTable.Disk
import ClassTable.Template.Builtin

set_option autoImplicit false

namespace ClassTable.Template

inductive OverrideFault where
  | undecodable (path : String)
  | malformed (block : Builtin)
deriving DecidableEq, Repr

namespace OverrideFault

def undecodableText : String := "stream did not contain valid UTF-8"

def message : OverrideFault → String
  | undecodable path => "failed to read " ++ path ++ ": " ++ undecodableText
  | malformed block => "Template syntax error in " ++ block.name

end OverrideFault

def fileExtension : String := "hbs"

def Builtin.path (dir : String) (b : Builtin) : String := Path.join dir (b.name ++ "." ++ fileExtension)

def Library.override (disk : Disk) (dir : String) (library : Library) (b : Builtin) :
    Except OverrideFault Library :=
  match disk.find (b.path dir) with
  | .ok (.file bytes) =>
    match Text.ofUtf8 bytes with
    | .error _ => .error (.undecodable (b.path dir))
    | .ok source =>
      match library.register? b.name source with
      | some library => .ok library
      | none => .error (.malformed b)
  | _ => .ok library

def Library.withOverrides (disk : Disk) (dir : String) : Except OverrideFault Library :=
  Builtin.all.foldlM (Library.override disk dir) .builtin

end ClassTable.Template
