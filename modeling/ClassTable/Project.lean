import ClassTable.Date
import ClassTable.Json

set_option autoImplicit false

namespace ClassTable

structure Project where
  package : String
  project : String
  /-- Extension of the generated files; leading dots do not count. -/
  extension : String
  creator : String
  created : Date
  version : String
deriving DecidableEq, Repr

namespace Project

def standard (today : Date) : Project :=
  { package := "com.example.dto"
    project := "dto"
    extension := "java"
    creator := "dtoforge"
    created := today
    version := "1.0.0" }

def year (p : Project) : Int := p.created.year

def fileName (p : Project) (className : String) : String :=
  if p.extension.isEmpty then className
  else className ++ "." ++ String.ofList (p.extension.toList.dropWhile (· == '.'))

def toJson (p : Project) : Json :=
  .obj [("created", .str p.created.text), ("creator", .str p.creator),
    ("extension", .str p.extension), ("package", .str p.package), ("project", .str p.project),
    ("version", .str p.version)]

def textMember? (key absent : String) (members : List (String × Json)) : Option String :=
  match members.lookup key with
  | none => some absent
  | some value => value.str?

def ofJson? (base : Project) : Json → Option Project
  | .obj members => do
    let created ← match members.lookup "created" with
      | none => some base.created
      | some value => do (Date.ofText (← value.str?)).toOption
    pure
      { package := ← textMember? "package" base.package members
        project := ← textMember? "project" base.project members
        extension := ← textMember? "extension" base.extension members
        creator := ← textMember? "creator" base.creator members
        created
        version := ← textMember? "version" base.version members }
  | _ => none

end Project

end ClassTable
