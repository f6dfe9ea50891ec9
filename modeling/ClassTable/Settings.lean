import ClassTable.Disk
import ClassTable.Settings.Decode
import ClassTable.Settings.Environment
import ClassTable.Toml.Reader

set_option autoImplicit false

namespace ClassTable

structure Settings where
  project : Project
  columns : ColumnNames
  outputDir : String
  policy : CollisionPolicy
  templateDir : Option String
deriving DecidableEq, Repr

inductive SettingsFault where
  | malformed
  | undecodable
  | setting (fault : SettingFault)
deriving DecidableEq, Repr

namespace SettingsFault

def message : SettingsFault → String
  | malformed => "TOML parse error"
  | undecodable => "stream did not contain valid UTF-8"
  | setting fault => fault.reason.message

def path : SettingsFault → List String
  | setting fault => fault.path
  | _ => []

end SettingsFault

namespace Settings

def fileName : String := "dtoforge.toml"

def standard (today : Date) : Settings :=
  { project := .standard today
    columns := .standard
    outputDir := "./generated"
    policy := .reject
    templateDir := none }

def projectMembers (p : Project) : Keyed Setting :=
  [("created", .text p.created.text), ("creator", .text p.creator), ("extension", .text p.extension),
    ("package", .text p.package), ("project", .text p.project), ("version", .text p.version)]

def columnMembers (names : ColumnNames) : Keyed Setting :=
  Keyed.ofList (names.mapping.map fun (c, name) => (c.key, .text name))

def outputMembers (s : Settings) : Keyed Setting :=
  [("collision", .text s.policy.name), ("dir", .text s.outputDir)]

def templateMembers (s : Settings) : Keyed Setting :=
  match s.templateDir with
  | some dir => [("template_dir", .text dir)]
  | none => []

def toMembers (s : Settings) : Keyed Setting :=
  [("columns", .table (columnMembers s.columns)), ("output", .table s.outputMembers),
    ("project", .table (projectMembers s.project)), ("templates", .table s.templateMembers)]

open Setting (Decoded RecordPart part decodeRecord decodeText decodeDate decodePolicy)

def projectParts : List (RecordPart Project) :=
  [part "package" (decodeText "a string") fun s p => { p with package := s },
    part "project" (decodeText "a string") fun s p => { p with project := s },
    part "extension" (decodeText "a string") fun s p => { p with extension := s },
    part "creator" (decodeText "a string") fun s p => { p with creator := s },
    part "created" decodeDate fun d p => { p with created := d },
    part "version" (decodeText "a string") fun s p => { p with version := s }]

def columnParts : List (RecordPart ColumnNames) :=
  Column.all.map fun c => part c.key (decodeText "a string") fun s names => names.set c s

def outputParts : List (RecordPart Settings) :=
  [part "dir" (decodeText "path string") fun s t => { t with outputDir := s },
    part "collision" decodePolicy fun policy t => { t with policy }]

def templateParts : List (RecordPart Settings) :=
  [part "template_dir" (decodeText "path string") fun s t => { t with templateDir := some s }]

/-- The parts of settings over the values that a part keeps when it is not given. -/
def parts (base : Settings) : List (RecordPart Settings) :=
  [part "project" (decodeRecord "ProjectMeta" projectParts base.project)
      fun project s => { s with project },
    part "columns" (decodeRecord "ColumnSettings" columnParts base.columns)
      fun columns s => { s with columns },
    ⟨"output", fun v s => decodeRecord "OutputSettings" outputParts s v⟩,
    ⟨"templates", fun v s => decodeRecord "TemplateSettings" templateParts s v⟩]

def variableNames : List String :=
  let names (table : String) (keys : List String) :=
    keys.map fun key => Environment.mark ++ table ++ "__" ++ key.toUpper
  names "PROJECT" (projectParts.map (·.key)) ++ names "COLUMNS" (columnParts.map (·.key))
    ++ names "OUTPUT" (outputParts.map (·.key)) ++ names "TEMPLATES" (templateParts.map (·.key))

def ofMembers (today : Date) (members : Keyed Setting) : Decoded Settings :=
  let base := standard today
  Setting.decodeMembers (parts base) base members

/-- The members of the nearest settings file; what stands in its place without being a file is passed by, and
where no directory has one there are no members. -/
def fileMembers (disk : Disk) (path : String) : Except SettingsFault (Keyed Setting) :=
  match (disk.searched path).findSome? disk.fileAt? with
  | none => .ok []
  | some bytes =>
    match Text.ofUtf8 bytes with
    | .error _ => .error .undecodable
    | .ok source =>
      match Toml.read? source with
      | some members => .ok members
      | none => .error .malformed

def load (today : Date) (disk : Disk) (environment : List (String × String)) (path : String) :
    Except SettingsFault Settings := do
  let file ← fileMembers disk path
  let members := Setting.mergeMembers (Setting.mergeMembers (standard today).toMembers file)
    (Environment.settings environment)
  (ofMembers today members).mapError .setting

end Settings

end ClassTable
