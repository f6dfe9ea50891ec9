import ClassTable.Settings

set_option autoImplicit false

namespace ClassTable.Settings

def starterHeader : String :=
  "# dtoforge configuration\n"
  ++ "#\n"
  ++ "# Every value can be overridden with DTOFORGE_ environment variables, using\n"
  ++ "# __ between sections: DTOFORGE_PROJECT__PACKAGE=com.acme.dto\n"
  ++ "\n"

/-- A key with a text that holds no quote, no backslash and no line break. -/
def entryLine (key value : String) : String := key ++ " = \"" ++ value ++ "\"\n"

def tableText (name : String) (entries : List (String × String)) : String :=
  "[" ++ name ++ "]\n" ++ String.join (entries.map fun e => entryLine e.1 e.2)

def projectEntries (p : Project) : List (String × String) :=
  [("package", p.package), ("project", p.project), ("extension", p.extension), ("creator", p.creator),
    ("created", p.created.text), ("version", p.version)]

def columnEntries (names : ColumnNames) : List (String × String) :=
  names.mapping.map fun (c, name) => (c.key, name)

def outputEntries (s : Settings) : List (String × String) :=
  [("dir", s.outputDir), ("collision", s.policy.name)]

/-- The file for a day, on which the project counts as created. -/
def starter (today : Date) : String :=
  let s := standard today
  starterHeader ++ String.intercalate "\n"
    [tableText "project" (projectEntries s.project), tableText "columns" (columnEntries s.columns),
      tableText "output" s.outputEntries, tableText "templates" []]

end ClassTable.Settings
