import ClassTable.Proofs.SettingFile
import ClassTable.Proofs.SettingSources
import ClassTable.Proofs.Utf8Text

set_option autoImplicit false

namespace ClassTable.Settings

open Setting

section Standard

variable {l : Leaf} {today : Date}

theorem sorted_standard (today : Date) : (standard today).toMembers.Sorted := by
  change ["columns", "output", "project", "templates"].Pairwise (· < ·)
  decide +kernel

theorem hasTables_standard (today : Date) : HasTables (standard today).toMembers := by
  intro g v found
  cases g with
  | project =>
    obtain rfl := Option.some.inj found
    refine ⟨_, rfl, ?_⟩
    change ["created", "creator", "extension", "package", "project", "version"].Pairwise (· < ·)
    decide +kernel
  | columns =>
    obtain rfl := Option.some.inj found
    exact ⟨_, rfl, Keyed.sorted_insertAll Keyed.sorted_nil⟩
  | output =>
    obtain rfl := Option.some.inj found
    refine ⟨_, rfl, ?_⟩
    change ["collision", "dir"].Pairwise (· < ·)
    decide +kernel
  | templates =>
    obtain rfl := Option.some.inj found
    exact ⟨_, rfl, Keyed.sorted_nil⟩

theorem get?_columnMembers (names : ColumnNames) (c : Column) :
    Keyed.get? (columnMembers names) c.key = some (.text (names.get c)) := by
  refine (Keyed.get?_insertAll_nil _ c.key).trans ?_
  cases c <;> rfl

theorem read_standard (l : Leaf) (today : Date) :
    l.Read (stored? (standard today).toMembers l) (l.get (standard today)) (l.get (standard today)) := by
  cases l with
  | created =>
    exact ⟨today.text, .text _, today.isWritten_text⟩
  | column c =>
    change Leaf.Read (.column c) (Keyed.get? (columnMembers .standard) c.key) (ColumnNames.standard.get c)
      (ColumnNames.standard.get c)
    rw [get?_columnMembers]
    exact .text _
  | collision => exact .reject
  | templateDir => exact rfl
  | _ => exact .text _

end Standard

/-- Holds of the members of a settings file and of variables that a run finds: where the file has entries for
the tables of settings they are tables, and the variables are named for keys in them. -/
structure Found (disk : Disk) (path : String) (vars : List (String × String)) (file : Keyed Setting) : Prop where
  read : FileHolds disk path file
  tables : ∀ (g : Group) (v : Setting), file.get? g.name = some v → ∃ ms, v = .table ms
  named : WellNamed vars

section Loading

variable {today : Date} {disk disk' : Disk} {path path' : String} {vars vars' : List (String × String)}
  {file file' : Keyed Setting} {s s' : Settings}

theorem Found.hasTables (found : Found disk path vars file) : file.Sorted ∧ HasTables file := by
  obtain ⟨inOrder, values⟩ := found.read.sorted
  refine ⟨inOrder, fun g v here => ?_⟩
  obtain ⟨ms, rfl⟩ := found.tables g v here
  exact ⟨ms, rfl, values _ _ here ms rfl⟩

/-- What the sources give for a leaf: the value of its variable, else that of the file. -/
def given? (file : Keyed Setting) (vars : List (String × String)) (l : Leaf) : Option Setting :=
  (inEnvironment? vars l).or (stored? file l)

theorem load_ok_iff (found : Found disk path vars file) :
    load today disk vars path = .ok s ↔ ∀ l : Leaf, l.Read (given? file vars l) (l.get (standard today)) (l.get s) := by
  obtain ⟨fileInOrder, fileTables⟩ := found.hasTables
  obtain ⟨envInOrder, envTables, entries⟩ := stored?_settings found.named
  let base := mergeMembers (standard today).toMembers file
  let members := mergeMembers base (Environment.settings vars)
  have baseTables : HasTables base := hasTables_mergeMembers (hasTables_standard today) fileTables fileInOrder
  have tables : HasTables members := hasTables_mergeMembers baseTables envTables envInOrder
  have inOrder : members.Sorted := sorted_mergeMembers (sorted_mergeMembers (sorted_standard today))
  have loaded : load today disk vars path = (ofMembers today members).mapError .setting := by
    unfold load
    rw [fileMembers_eq_ok_iff.2 found.read]
    rfl
  have reads (l : Leaf) (x : l.Value) : l.Read (stored? members l) (l.get (standard today)) x ↔
      l.Read (given? file vars l) (l.get (standard today)) x := by
    rw [read_mergeMembers baseTables envTables envInOrder, entries l, given?]
    cases inEnvironment? vars l with
    | some v => exact .rfl
    | none =>
      -- The standard values are a source too, which reads as the values themselves.
      refine (read_mergeMembers (hasTables_standard today) fileTables fileInOrder).trans ?_
      change _ ↔ l.Read (stored? file l) _ x
      cases stored? file l with
      | some v => exact .rfl
      | none =>
        constructor
        · exact fun read => read.unique (read_standard l today)
        · rintro rfl
          exact read_standard l today
  rw [loaded]
  have ok : (ofMembers today members).mapError SettingsFault.setting = .ok s ↔ ofMembers today members = .ok s := by
    cases ofMembers today members <;> simp [Except.mapError]
  rw [ok, ofMembers_ok_iff inOrder tables]
  exact forall_congr' fun l => reads l (l.get s)

/-- The precedence of the sources.  A load succeeds with the settings each leaf of which is what the value of
its variable means, else what that of the file means, else the standard; so it does not depend on anything else in
the sources, and a leaf not on what they give for others. -/
theorem load_precedence (today : Date) (found : Found disk path vars file) :
    (∀ s, load today disk vars path = .ok s ↔ ∀ l : Leaf,
      match inEnvironment? vars l, stored? file l with
      | some v, _ => l.Means v (l.get s)
      | none, some v => l.Means v (l.get s)
      | none, none => l.get s = l.get (standard today)) ∧
    ∀ (disk' : Disk) (path' : String) (vars' : List (String × String)) (file' : Keyed Setting),
      Found disk' path' vars' file' →
      (∀ l : Leaf, given? file' vars' l = given? file vars l → ∀ s s', load today disk vars path = .ok s →
        load today disk' vars' path' = .ok s' → l.get s' = l.get s) ∧
      ((∀ l : Leaf, given? file' vars' l = given? file vars l) →
        ∀ s, load today disk' vars' path' = .ok s ↔ load today disk vars path = .ok s) := by
  refine ⟨fun s => ?_, fun disk' path' vars' file' found' => ⟨?_, ?_⟩⟩
  · rw [load_ok_iff found]
    refine forall_congr' fun l => ?_
    unfold given?
    cases inEnvironment? vars l with
    | some v => exact .rfl
    | none => cases stored? file l <;> exact .rfl
  · intro l same s s' ok ok'
    have read := (load_ok_iff found).1 ok l
    have read' := (load_ok_iff found').1 ok' l
    rw [same] at read'
    exact read'.unique read
  · intro same s
    rw [load_ok_iff found', load_ok_iff found]
    exact forall_congr' fun l => by rw [same]

end Loading

section Notes

def notesText : String :=
  "[project]\ncreator = 'Jane'\ncreated = '2023-11-30'\nversion = 'v2'\n[columns]\nlayer = 'depth'\n"
    ++ "description = 'remark'\n[output]\ndir = 'src'\ncollision = 'reject'\n[templates]\n"
    ++ "template_dir = 'forms'\n[notes]\nshelf = 3\n"

/-- The settings file stands above the working directory, in which a directory has its name. -/
def notesDisk : Disk where
  entries := [(["home"], .directory), (["home", "jane"], .directory), (["home", "jane", "notes"], .directory),
    (["home", "jane", "notes", "dtoforge.toml"], .directory),
    (["home", "jane", "dtoforge.toml"], .file (Text.toUtf8 notesText)),
    (["dtoforge.toml"], .file (Text.toUtf8 "[project]\nversion = 'v1'\n"))]
  working := ["home", "jane", "notes"]

def notesFile : Keyed Setting :=
  [("columns", .table [("description", .text "remark"), ("layer", .text "depth")]),
    ("notes", .table [("shelf", .signed 3)]),
    ("output", .table [("collision", .text "reject"), ("dir", .text "src")]),
    ("project", .table [("created", .text "2023-11-30"), ("creator", .text "Jane"), ("version", .text "v2")]),
    ("templates", .table [("template_dir", .text "forms")])]

set_option maxRecDepth 4000 in
theorem fileHolds_notes : FileHolds notesDisk "dtoforge.toml" notesFile := by
  -- The text becomes a list of characters before anything is evaluated, since opening it is slow.
  have chars : notesText.toList = _ := String.toList_append.trans (congrArg₂ (· ++ ·)
    (String.toList_append.trans (congrArg₂ (· ++ ·) String.toList_ofList String.toList_ofList)) String.toList_ofList)
  have nearest : notesDisk.Nearest "dtoforge.toml" (Text.toUtf8 notesText) := by
    apply Disk.searched_eq_some_iff.1
    unfold notesDisk
    rw [Text.toUtf8_eq_flatMap notesText]
    generalize notesText.toList = cs at chars ⊢
    subst chars
    decide +kernel
  have read : Toml.read? notesText = some notesFile := by
    unfold Toml.read?
    generalize notesText.toList = cs at chars ⊢
    subst chars
    rfl
  exact .file nearest (Text.ofUtf8_toUtf8 notesText) read

def notesVariables : List (String × String) :=
  [("DTOFORGE_PROJECT__PACKAGE", "acme"), ("DTOFORGE_PROJECT__CREATED", "2024-02-29"),
    ("DTOFORGE_PROJECT__VERSION", "\"3\""), ("dtoforge_columns__layer", "'L'"),
    ("DTOFORGE_OUTPUT__DIR", "build/java"), ("DTOFORGE_OUTPUT__COLLISION", " overwrite "),
    ("DTOFORGE_TEMPLATES__TEMPLATE_DIR", "templates"), ("HOME", "/home/jane")]

def notesVariable? : Leaf → Option (String × String × String)
  | .package => some ("DTOFORGE_PROJECT__PACKAGE", "acme", "acme")
  | .created => some ("DTOFORGE_PROJECT__CREATED", "2024-02-29", "2024-02-29")
  | .version => some ("DTOFORGE_PROJECT__VERSION", "\"3\"", "\"3\"")
  | .column .layer => some ("dtoforge_columns__layer", "'L'", "'L'")
  | .dir => some ("DTOFORGE_OUTPUT__DIR", "build/java", "build/java")
  | .collision => some ("DTOFORGE_OUTPUT__COLLISION", " overwrite ", "overwrite")
  | .templateDir => some ("DTOFORGE_TEMPLATES__TEMPLATE_DIR", "templates", "templates")
  | _ => none

theorem called_notesVariables : ∀ x ∈ notesVariables, (∃ l : Leaf, notesVariable? l ≠ none ∧
    comparedName x.1 = variableName l.group.name.toList l.key.toList) ∨ ¬IsMarked x.1 := by
  have unmarked : ¬IsMarked "HOME" := by
    unfold IsMarked
    decide +kernel
  simp only [notesVariables, List.forall_mem_cons]
  exact ⟨.inl ⟨.package, by decide +kernel⟩, .inl ⟨.created, by decide +kernel⟩, .inl ⟨.version, by decide +kernel⟩,
    .inl ⟨.column .layer, by decide +kernel⟩, .inl ⟨.dir, by decide +kernel⟩, .inl ⟨.collision, by decide +kernel⟩,
    .inl ⟨.templateDir, by decide +kernel⟩, .inr unmarked, List.forall_mem_nil _⟩

theorem wellNamed_notesVariables : WellNamed notesVariables :=
  wellNamed_of_called (fun x mem => (called_notesVariables x mem).imp_left fun ⟨l, _, called⟩ => ⟨l, called⟩)
    (by decide +kernel)

theorem inEnvironment?_notes (l : Leaf) :
    inEnvironment? notesVariables l = (notesVariable? l).map fun x => Environment.valueOf x.2.2 := by
  cases own : notesVariable? l with
  | none =>
    refine inEnvironment?_eq_none fun x mem marked => ?_
    obtain ⟨l', given, called⟩ := (called_notesVariables x mem).resolve_right (not_not_intro marked)
    refine ⟨l', ?_, called⟩
    rintro rfl
    exact given own
  | some x =>
    obtain ⟨mem, called, trimmed⟩ : (x.1, x.2.1) ∈ notesVariables ∧
        comparedName x.1 = variableName l.group.name.toList l.key.toList ∧ Text.trim x.2.1 = x.2.2 := by
      revert x
      cases l with
      | package | created | version | dir | collision | templateDir =>
        rintro x ⟨⟩
        decide +kernel
      | column c =>
        cases c with
        | layer =>
          rintro x ⟨⟩
          decide +kernel
        | _ => exact nofun
      | _ => exact nofun
    rw [inEnvironment?_of_called wellNamed_notesVariables mem called, trimmed]
    rfl

theorem load_precedence_notes :
    load ⟨2024, 5, 17, by decide⟩ notesDisk notesVariables "dtoforge.toml" = .ok
      { project :=
          { package := "acme", project := "dto", extension := "java", creator := "Jane",
            created := ⟨2024, 2, 29, by decide⟩, version := "3" }
        columns :=
          { layer := "L", logicalDelete := "deleted", variableName := "name", dataType := "type",
            initialValue := "initial", invariant := "required", description := "remark" }
        outputDir := "build/java"
        policy := .overwrite
        templateDir := some "templates" } := by
  have found : Found notesDisk "dtoforge.toml" notesVariables notesFile := by
    refine ⟨fileHolds_notes, fun g v here => ?_, wellNamed_notesVariables⟩
    cases g with
    | _ => exact ⟨_, (Option.some.inj here).symm⟩
  refine ((load_precedence ⟨2024, 5, 17, by decide⟩ found).1 _).2 fun l => ?_
  rw [inEnvironment?_notes l]
  cases l with
  | created => exact ⟨"2024-02-29", .text _, Date.ofText_eq_ok_iff.1 (by decide +kernel)⟩
  | collision => exact .overwrite
  | templateDir => exact ⟨"templates", .text _, rfl⟩
  | column c =>
    cases c with
    | layer => exact .letter 'L'
    | description => exact .text "remark"
    | _ => rfl
  | project => rfl
  | extension => rfl
  | _ => exact .text _

end Notes

end ClassTable.Settings
