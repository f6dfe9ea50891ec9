import ClassTable.Proofs.DateText
import ClassTable.Proofs.Keyed
import ClassTable.Settings
import Mathlib.Data.List.Forall2

set_option autoImplicit false

namespace ClassTable.Setting

variable {v : Setting} {s : String} {policy : CollisionPolicy}

/-- Holds of the values that are a text; a single character is one. -/
inductive IsText : Setting → String → Prop
  | text (s : String) : IsText (.text s) s
  | letter (c : Char) : IsText (.letter c) (String.singleton c)

inductive IsPolicy : Setting → CollisionPolicy → Prop
  | reject : IsPolicy (.text "reject") .reject
  | overwrite : IsPolicy (.text "overwrite") .overwrite

theorem asText?_eq_some_iff : v.asText? = some s ↔ v.IsText s := by
  constructor
  · intro read
    cases v with
    | text t =>
      obtain rfl := Option.some.inj read
      exact .text t
    | letter c =>
      obtain rfl := Option.some.inj read
      exact .letter c
    | _ => exact absurd read nofun
  · intro text
    cases text <;> rfl

theorem decodeText_eq_ok_iff {expected : String} : decodeText expected v = .ok s ↔ v.IsText s := by
  rw [← asText?_eq_some_iff]
  unfold decodeText
  cases v.asText? with
  | none => exact iff_of_false nofun nofun
  | some t => simp

theorem decodeDate_eq_ok_iff {d : Date} : decodeDate v = .ok d ↔ ∃ s, v.IsText s ∧ d.IsWritten s := by
  simp only [← asText?_eq_some_iff, ← Date.ofText_eq_ok_iff]
  unfold decodeDate
  cases v.asText? with
  | none =>
    refine iff_of_false nofun ?_
    rintro ⟨s, none, -⟩
    exact absurd none nofun
  | some s =>
    have read : (Date.ofText s).mapError (⟨[], .notADate ·⟩ : Date.Fault → SettingFault) = .ok d ↔
        Date.ofText s = .ok d := by
      cases Date.ofText s <;> simp [Except.mapError]
    simpa using read

theorem policyOfName_eq_ok_iff : policyOfName s = .ok policy ↔ s = policy.name := by
  have known : CollisionPolicy.ofName? s = some policy ↔ s = policy.name := by
    unfold CollisionPolicy.ofName?
    cases policy <;> grind [CollisionPolicy.name]
  rw [← known]
  unfold policyOfName
  cases CollisionPolicy.ofName? s with
  | none => exact iff_of_false nofun nofun
  | some found => simp

theorem decodePolicy_eq_ok_iff : decodePolicy v = .ok policy ↔ v.IsPolicy policy := by
  constructor
  · intro read
    cases v with
    | text s =>
      obtain rfl := policyOfName_eq_ok_iff.1 read
      cases policy with
      | reject => exact .reject
      | overwrite => exact .overwrite
    | table ms =>
      cases ms with
      | nil => exact absurd read nofun
      | cons m ms =>
        obtain ⟨_, -, refused⟩ := except_bind_eq_ok.1 read
        exact absurd refused nofun
    | _ => exact absurd read nofun
  · intro named
    cases named with
    | reject =>
      change policyOfName CollisionPolicy.reject.name = _
      exact policyOfName_eq_ok_iff.2 rfl
    | overwrite =>
      change policyOfName CollisionPolicy.overwrite.name = _
      exact policyOfName_eq_ok_iff.2 rfl

end ClassTable.Setting

namespace ClassTable.Settings

open Setting

inductive Group where
  | project
  | columns
  | output
  | templates
deriving DecidableEq

inductive Leaf where
  | package
  | project
  | extension
  | creator
  | created
  | version
  | column (c : Column)
  | dir
  | collision
  | templateDir
deriving DecidableEq

namespace Group

def name : Group → String
  | project => "project"
  | columns => "columns"
  | output => "output"
  | templates => "templates"

def leaves : Group → List Leaf
  | project => [.package, .project, .extension, .creator, .created, .version]
  | columns => Column.all.map .column
  | output => [.dir, .collision]
  | templates => [.templateDir]

theorem name_inj {g g' : Group} : g.name = g'.name ↔ g = g' := by
  cases g <;> cases g' <;> decide

end Group

namespace Leaf

def group : Leaf → Group
  | package | project | extension | creator | created | version => .project
  | column _ => .columns
  | dir | collision => .output
  | templateDir => .templates

def key : Leaf → String
  | package => "package"
  | project => "project"
  | extension => "extension"
  | creator => "creator"
  | created => "created"
  | version => "version"
  | column c => c.key
  | dir => "dir"
  | collision => "collision"
  | templateDir => "template_dir"

def Value : Leaf → Type
  | created => Date
  | collision => CollisionPolicy
  | templateDir => Option String
  | package | project | extension | creator | version | column _ | dir => String

def get : (l : Leaf) → Settings → l.Value
  | package, s => s.project.package
  | project, s => s.project.project
  | extension, s => s.project.extension
  | creator, s => s.project.creator
  | created, s => s.project.created
  | version, s => s.project.version
  | column c, s => s.columns.get c
  | dir, s => s.outputDir
  | collision, s => s.policy
  | templateDir, s => s.templateDir

def set : (l : Leaf) → l.Value → Settings → Settings
  | package, v, s => { s with project := { s.project with package := v } }
  | project, v, s => { s with project := { s.project with project := v } }
  | extension, v, s => { s with project := { s.project with extension := v } }
  | creator, v, s => { s with project := { s.project with creator := v } }
  | created, v, s => { s with project := { s.project with created := v } }
  | version, v, s => { s with project := { s.project with version := v } }
  | column c, v, s => { s with columns := s.columns.set c v }
  | dir, v, s => { s with outputDir := v }
  | collision, v, s => { s with policy := v }
  | templateDir, v, s => { s with templateDir := v }

/-- What the value of a source means for a leaf. -/
def Means : (l : Leaf) → Setting → l.Value → Prop
  | created => fun v d => ∃ s, v.IsText s ∧ Date.IsWritten d s
  | collision => IsPolicy
  | templateDir => fun v dir => ∃ s, v.IsText s ∧ dir = some s
  | package | project | extension | creator | version | column _ | dir => IsText

def decode : (l : Leaf) → Setting → Decoded l.Value
  | created => decodeDate
  | collision => decodePolicy
  | templateDir => fun v => (decodeText "path string" v).map some
  | dir => decodeText "path string"
  | package => decodeText "a string"
  | project => decodeText "a string"
  | extension => decodeText "a string"
  | creator => decodeText "a string"
  | version => decodeText "a string"
  | column _ => decodeText "a string"

def part (l : Leaf) : RecordPart Settings := Setting.part l.key l.decode l.set

variable {l l' : Leaf} {s s' : Settings}

theorem decode_eq_ok_iff {v : Setting} {x : l.Value} : l.decode v = .ok x ↔ l.Means v x := by
  cases l with
  | created => exact decodeDate_eq_ok_iff
  | collision => exact decodePolicy_eq_ok_iff
  | templateDir =>
    refine except_map_eq_ok.trans (exists_congr fun s => ?_)
    exact and_congr decodeText_eq_ok_iff eq_comm
  | _ => exact decodeText_eq_ok_iff

theorem get_set (l : Leaf) (v : l.Value) (s : Settings) : l.get (l.set v s) = v := by
  cases l with
  | column c => exact (ColumnNames.get_ofFun _ c).trans (if_pos rfl)
  | _ => rfl

theorem get_set_ne (differs : l' ≠ l) (v : l.Value) (s : Settings) : l'.get (l.set v s) = l'.get s := by
  cases l with
  | column c =>
    cases l' with
    | column c' =>
      have other : c' ≠ c := fun same => differs (congrArg column same)
      exact (ColumnNames.get_ofFun _ c').trans (if_neg other)
    | _ => rfl
  | _ => cases l' <;> first | rfl | exact absurd rfl differs

theorem settings_ext (same : ∀ l : Leaf, l.get s = l.get s') : s = s' := by
  have columns : s.columns = s'.columns := by
    rw [← s.columns.ofFun_get, ← s'.columns.ofFun_get]
    exact congrArg ColumnNames.ofFun (funext fun c => same (.column c))
  have project : s.project = s'.project := by
    obtain ⟨⟨_, _, _, _, _, _⟩, _, _, _, _⟩ := s
    obtain ⟨⟨_, _, _, _, _, _⟩, _, _, _, _⟩ := s'
    cases same .package
    cases same .project
    cases same .extension
    cases same .creator
    cases same .created
    cases same .version
    rfl
  obtain ⟨_, _, _, _, _⟩ := s
  obtain ⟨_, _, _, _, _⟩ := s'
  cases project
  cases columns
  cases same .dir
  cases same .collision
  cases same .templateDir
  rfl

theorem mem_leaves (l : Leaf) : l ∈ l.group.leaves := by
  cases l with
  | column c => exact List.mem_map_of_mem (by cases c <;> decide)
  | _ => decide

theorem group_of_mem {g : Group} (mem : l ∈ g.leaves) : l.group = g := by
  cases g with
  | columns =>
    obtain ⟨c, -, rfl⟩ := List.mem_map.1 mem
    rfl
  | _ => revert l; decide

end Leaf

section Members

variable {σ τ : Type} {g : Group} {l : Leaf} {s s' base : Settings} {ms : Keyed Setting}

theorem find?_of_forall₂ {e : σ → τ} {parts : List (RecordPart σ)} {parts' : List (RecordPart τ)} (key : String)
    (same : List.Forall₂ (fun p p' => p.key = p'.key ∧ ∀ v s, p'.change v (e s) = (p.change v s).map e)
      parts parts') :
    (parts.find? (·.key == key) = none ∧ parts'.find? (·.key == key) = none) ∨
      ∃ p p', parts.find? (·.key == key) = some p ∧ parts'.find? (·.key == key) = some p' ∧
        ∀ v s, p'.change v (e s) = (p.change v s).map e := by
  induction same with
  | nil => exact .inl ⟨rfl, rfl⟩
  | @cons p p' parts parts' first _ ih =>
    obtain ⟨keys, change⟩ := first
    rw [List.find?_cons, List.find?_cons, ← keys]
    cases p.key == key with
    | true => exact .inr ⟨p, p', rfl, rfl, change⟩
    | false => exact ih

theorem decodeMembers_cons_none {parts : List (RecordPart σ)} {key : String} (v : Setting) (s : σ)
    (rest : List (String × Setting)) (found : parts.find? (·.key == key) = none) :
    decodeMembers parts s ((key, v) :: rest) = decodeMembers parts s rest := by
  rw [decodeMembers, found]

theorem decodeMembers_cons_some {parts : List (RecordPart σ)} {p : RecordPart σ} {key : String} (v : Setting)
    (s : σ) (rest : List (String × Setting)) (found : parts.find? (·.key == key) = some p) :
    decodeMembers parts s ((key, v) :: rest) =
      (atKey key (p.change v s)).bind fun t => decodeMembers parts t rest := by
  rw [decodeMembers, found]
  rfl

theorem decodeMembers_map (e : σ → τ) {parts : List (RecordPart σ)} {parts' : List (RecordPart τ)}
    (same : List.Forall₂ (fun p p' => p.key = p'.key ∧ ∀ v s, p'.change v (e s) = (p.change v s).map e)
      parts parts') (s : σ) (ms : List (String × Setting)) :
    decodeMembers parts' (e s) ms = (decodeMembers parts s ms).map e := by
  induction ms generalizing s with
  | nil => rfl
  | cons m ms ih =>
    obtain ⟨key, v⟩ := m
    rcases find?_of_forall₂ key same with ⟨none, none'⟩ | ⟨p, p', found, found', change⟩
    · rw [decodeMembers_cons_none v s ms none, decodeMembers_cons_none v (e s) ms none']
      exact ih s
    · rw [decodeMembers_cons_some v s ms found, decodeMembers_cons_some v (e s) ms found', change]
      cases p.change v s with
      | error fault => rfl
      | ok t => exact ih t

/-- The settings from which the table of a group is read: what it holds alone starts from the standard. -/
def Group.start (g : Group) (base s : Settings) : Settings :=
  match g with
  | project => { s with project := base.project }
  | columns => { s with columns := base.columns }
  | output => s
  | templates => s

def Group.readTable (g : Group) (base s : Settings) (ms : List (String × Setting)) : Decoded Settings :=
  decodeMembers (g.leaves.map Leaf.part) (g.start base s) ms

theorem part_map {α : Type} {e : σ → τ} {key : String} {decode : Setting → Decoded α} {put : α → σ → σ}
    {put' : α → τ → τ} (same : ∀ x s, put' x (e s) = e (put x s)) (v : Setting) (s : σ) :
    (part key decode put').change v (e s) = ((part key decode put).change v s).map e := by
  change ((decode v).bind fun x => .ok (put' x (e s))) = ((decode v).bind fun x => .ok (put x s)).map e
  cases decode v with
  | error fault => rfl
  | ok x => exact congrArg Except.ok (same x s)

theorem read_project (base : Settings) (ms : List (String × Setting)) (s : Settings) :
    (decodeMembers projectParts base.project ms).map (fun project => { s with project }) =
      Group.project.readTable base s ms := by
  refine (decodeMembers_map (fun project : Project => { s with project }) ?_ base.project ms).symm
  exact .cons ⟨rfl, part_map fun _ _ => rfl⟩ <| .cons ⟨rfl, part_map fun _ _ => rfl⟩ <|
    .cons ⟨rfl, part_map fun _ _ => rfl⟩ <| .cons ⟨rfl, part_map fun _ _ => rfl⟩ <|
    .cons ⟨rfl, part_map fun _ _ => rfl⟩ <| .cons ⟨rfl, part_map fun _ _ => rfl⟩ .nil

theorem read_columns (base : Settings) (ms : List (String × Setting)) (s : Settings) :
    (decodeMembers columnParts base.columns ms).map (fun columns => { s with columns }) =
      Group.columns.readTable base s ms := by
  refine (decodeMembers_map (fun columns : ColumnNames => { s with columns }) ?_ base.columns ms).symm
  unfold Group.leaves columnParts
  rw [List.map_map, List.forall₂_map_left_iff, List.forall₂_map_right_iff]
  exact List.forall₂_same.2 fun c _ => ⟨rfl, part_map fun _ _ => rfl⟩

theorem map_id_eq (d : Decoded σ) : d.map id = d := by
  cases d <;> rfl

theorem read_output (base : Settings) (ms : List (String × Setting)) (s : Settings) :
    decodeMembers outputParts s ms = Group.output.readTable base s ms := by
  have same : Group.output.readTable base s ms = (decodeMembers outputParts s ms).map id := by
    refine decodeMembers_map id ?_ s ms
    exact .cons ⟨rfl, part_map fun _ _ => rfl⟩ <| .cons ⟨rfl, part_map fun _ _ => rfl⟩ .nil
  rw [same, map_id_eq]

theorem read_templates (base : Settings) (ms : List (String × Setting)) (s : Settings) :
    decodeMembers templateParts s ms = Group.templates.readTable base s ms := by
  have same : Group.templates.readTable base s ms = (decodeMembers templateParts s ms).map id := by
    refine decodeMembers_map id ?_ s ms
    refine .cons ⟨rfl, fun v s => ?_⟩ .nil
    change (((decodeText "path string" v).map some).bind fun x => .ok (Leaf.templateDir.set x s)) =
      ((decodeText "path string" v).bind fun x => .ok { s with templateDir := some x }).map id
    cases decodeText "path string" v <;> rfl
  rw [same, map_id_eq]

theorem find?_parts (base : Settings) (key : String) :
    ((parts base).find? (·.key == key) = none ∧ ∀ g : Group, g.name ≠ key) ∨
      ∃ (g : Group) (p : RecordPart Settings), g.name = key ∧ (parts base).find? (·.key == key) = some p ∧
        ∀ ms s, p.change (.table ms) s = g.readTable base s ms := by
  by_cases known : ∃ g : Group, g.name = key
  · obtain ⟨g, rfl⟩ := known
    refine .inr ⟨g, ?_⟩
    cases g with
    | project =>
      refine ⟨_, rfl, rfl, fun ms s => ?_⟩
      rw [← read_project]
      change (decodeMembers projectParts base.project ms).bind _ = _
      cases decodeMembers projectParts base.project ms <;> rfl
    | columns =>
      refine ⟨_, rfl, rfl, fun ms s => ?_⟩
      rw [← read_columns]
      change (decodeMembers columnParts base.columns ms).bind _ = _
      cases decodeMembers columnParts base.columns ms <;> rfl
    | output => exact ⟨_, rfl, rfl, read_output base⟩
    | templates => exact ⟨_, rfl, rfl, read_templates base⟩
  · have other : ∀ g : Group, g.name ≠ key := fun g same => known ⟨g, same⟩
    refine .inl ⟨List.find?_eq_none.2 fun p mem => ?_, other⟩
    have named : ∃ g : Group, p.key = g.name := by
      revert p
      simp only [parts, List.forall_mem_cons]
      exact ⟨⟨.project, rfl⟩, ⟨.columns, rfl⟩, ⟨.output, rfl⟩, ⟨.templates, rfl⟩, List.forall_mem_nil _⟩
    obtain ⟨g, same⟩ := named
    simpa [same] using other g

theorem Leaf.key_inj {l l' : Leaf} (group : l.group = l'.group) : l.key = l'.key ↔ l = l' := by
  cases l with
  | column c =>
    cases l' with
    | column c' => exact Column.key_inj.trans (by simp)
    | _ => exact absurd group nofun
  | _ =>
    cases l' with
    | column c' => exact absurd group nofun
    | _ => revert group; decide

theorem find?_leaves (g : Group) (key : String) :
    ((g.leaves.map Leaf.part).find? (·.key == key) = none ∧ ∀ l : Leaf, l.group = g → l.key ≠ key) ∨
      ∃ l : Leaf, l.group = g ∧ l.key = key ∧ (g.leaves.map Leaf.part).find? (·.key == key) = some l.part := by
  cases found : (g.leaves.map Leaf.part).find? (·.key == key) with
  | none =>
    refine .inl ⟨rfl, fun l group same => ?_⟩
    have mem : l.part ∈ g.leaves.map Leaf.part := List.mem_map_of_mem (group ▸ l.mem_leaves)
    have differs := List.find?_eq_none.1 found _ mem
    exact differs (beq_iff_eq.2 same)
  | some p =>
    obtain ⟨l, mem, rfl⟩ := List.mem_map.1 (List.mem_of_find?_eq_some found)
    have key : l.part.key = key := by simpa using List.find?_some found
    exact .inr ⟨l, Leaf.group_of_mem mem, key, rfl⟩

/-- What a source says of a leaf: its value where it has one, and what the leaf is otherwise. -/
def Leaf.Read (l : Leaf) (given : Option Setting) (otherwise read : l.Value) : Prop :=
  match given with
  | some v => l.Means v read
  | none => read = otherwise

theorem readLeaves_cons {l₀ : Leaf} {key : String} (v : Setting) (s : Settings) (rest : List (String × Setting))
    (found : (g.leaves.map Leaf.part).find? (·.key == key) = some l₀.part) :
    decodeMembers (g.leaves.map Leaf.part) s ((key, v) :: rest) =
      (atKey key (l₀.decode v)).bind fun x => decodeMembers (g.leaves.map Leaf.part) (l₀.set x s) rest := by
  rw [decodeMembers_cons_some v s rest found]
  change (atKey key ((l₀.decode v).bind fun x => .ok (l₀.set x s))).bind _ = _
  cases l₀.decode v <;> rfl

theorem ok_of_atKey {α : Type} {key : String} {d : Decoded α} {x : α} (ok : atKey key d = .ok x) :
    d = .ok x := by
  cases d with
  | error fault => exact absurd ok nofun
  | ok y => exact ok

theorem get_readLeaves {l : Leaf} (ok : decodeMembers (g.leaves.map Leaf.part) s ms = .ok s')
    (distinct : ms.keys.Nodup) (group : l.group = g) :
    l.Read (ms.get? l.key) (l.get s) (l.get s') := by
  induction ms generalizing s with
  | nil =>
    obtain rfl : s = s' := Except.ok.inj ok
    exact rfl
  | cons m ms ih =>
    obtain ⟨key, v⟩ := m
    obtain ⟨fresh, others⟩ := List.nodup_cons.1 distinct
    rw [Keyed.get?_cons]
    rcases find?_leaves g key with ⟨found, none⟩ | ⟨l₀, group₀, rfl, found⟩
    · rw [decodeMembers_cons_none v s ms found] at ok
      rw [if_neg (none l group)]
      exact ih ok others
    · rw [readLeaves_cons v s ms found] at ok
      obtain ⟨x, read, ok⟩ := except_bind_eq_ok.1 ok
      have rest := ih ok others
      by_cases same : l = l₀
      · subst same
        have absent : Keyed.get? ms l.key = none := Keyed.get?_eq_none fresh
        rw [absent, Leaf.get_set] at rest
        have kept : l.get s' = x := rest
        rw [if_pos rfl, kept]
        exact Leaf.decode_eq_ok_iff.1 (ok_of_atKey read)
      · have differs : l.key ≠ l₀.key := by
          rw [Ne, Leaf.key_inj (group.trans group₀.symm)]
          exact same
        rw [if_neg differs]
        rwa [Leaf.get_set_ne same] at rest

theorem get_readLeaves_other {l : Leaf} (ok : decodeMembers (g.leaves.map Leaf.part) s ms = .ok s')
    (group : l.group ≠ g) : l.get s' = l.get s := by
  induction ms generalizing s with
  | nil =>
    obtain rfl : s = s' := Except.ok.inj ok
    rfl
  | cons m ms ih =>
    obtain ⟨key, v⟩ := m
    rcases find?_leaves g key with ⟨found, -⟩ | ⟨l₀, group₀, -, found⟩
    · rw [decodeMembers_cons_none v s ms found] at ok
      exact ih ok
    · rw [readLeaves_cons v s ms found] at ok
      obtain ⟨x, -, ok⟩ := except_bind_eq_ok.1 ok
      have differs : l ≠ l₀ := by
        rintro rfl
        exact group group₀
      rw [ih ok, Leaf.get_set_ne differs]

theorem readLeaves_ok
    (each : ∀ l : Leaf, l.group = g → ∀ v, (l.key, v) ∈ ms → ∃ x, l.decode v = .ok x) (s : Settings) :
    ∃ s', decodeMembers (g.leaves.map Leaf.part) s ms = .ok s' := by
  induction ms generalizing s with
  | nil => exact ⟨s, rfl⟩
  | cons m ms ih =>
    obtain ⟨key, v⟩ := m
    have rest := ih fun l group w mem => each l group w (.tail _ mem)
    rcases find?_leaves g key with ⟨found, -⟩ | ⟨l₀, group₀, rfl, found⟩
    · rw [decodeMembers_cons_none v s ms found]
      exact rest s
    · obtain ⟨x, read⟩ := each l₀ group₀ v (.head _)
      rw [readLeaves_cons v s ms found, read]
      exact rest (l₀.set x s)

end Members

def stored? (members : Keyed Setting) (l : Leaf) : Option Setting :=
  match members.get? l.group.name with
  | some (.table ms) => Keyed.get? ms l.key
  | _ => none

/-- Holds of members that have tables, in key order, where settings are kept in tables. -/
def HasTables (members : Keyed Setting) : Prop :=
  ∀ (g : Group) (v : Setting), members.get? g.name = some v → ∃ ms : Keyed Setting, v = .table ms ∧ ms.Sorted

section Tables

variable {g : Group} {l : Leaf} {s s' base : Settings} {members : Keyed Setting} {today : Date}

theorem get_start_other (other : l.group ≠ g) : l.get (g.start base s) = l.get s := by
  cases g <;> cases l <;> first | rfl | exact absurd rfl other

theorem get_start (same : l.get s = l.get base) : l.get (g.start base s) = l.get base := by
  cases g <;> cases l <;> first | rfl | exact same

theorem HasTables.tail {key : String} {v : Setting} (h : HasTables ((key, v) :: members))
    (fresh : key ∉ members.keys) : HasTables members := by
  intro g w found
  refine h g w ?_
  have differs : g.name ≠ key := by
    rintro rfl
    rw [Keyed.get?_eq_none fresh] at found
    exact absurd found nofun
  rw [Keyed.get?_cons, if_neg differs]
  exact found

theorem HasTables.head {v : Setting} (h : HasTables ((g.name, v) :: members)) :
    ∃ ms : Keyed Setting, v = .table ms ∧ ms.Sorted :=
  h g v (by rw [Keyed.get?_cons, if_pos rfl])

theorem readTable_other {ms : Keyed Setting} (read : g.readTable base s ms = .ok s') (other : l.group ≠ g) :
    l.get s' = l.get s := by
  rw [get_readLeaves_other read other, get_start_other other]

theorem get_of_absent (ok : decodeMembers (parts base) s members = .ok s') (distinct : members.keys.Nodup)
    (tables : HasTables members) (absent : l.group.name ∉ members.keys) : l.get s' = l.get s := by
  induction members generalizing s with
  | nil =>
    obtain rfl : s = s' := Except.ok.inj ok
    rfl
  | cons m members ih =>
    obtain ⟨key, v⟩ := m
    obtain ⟨fresh, others⟩ := List.nodup_cons.1 distinct
    obtain ⟨here, later⟩ : l.group.name ≠ key ∧ l.group.name ∉ Keyed.keys members := by
      simpa [Keyed.keys] using absent
    rcases find?_parts base key with ⟨found, -⟩ | ⟨g, p, rfl, found, change⟩
    · rw [decodeMembers_cons_none v s members found] at ok
      exact ih ok others (tables.tail fresh) later
    · obtain ⟨ms, rfl, -⟩ := tables.head
      rw [decodeMembers_cons_some _ s members found, change] at ok
      obtain ⟨t, read, rest⟩ := except_bind_eq_ok.1 ok
      rw [ih rest others (tables.tail fresh) later]
      exact readTable_other (ok_of_atKey read) (mt (congrArg Group.name) here)

theorem get_of_members (ok : decodeMembers (parts base) s members = .ok s') (distinct : members.keys.Nodup)
    (tables : HasTables members) (same : l.get s = l.get base) :
    l.Read (stored? members l) (l.get base) (l.get s') := by
  induction members generalizing s with
  | nil =>
    obtain rfl : s = s' := Except.ok.inj ok
    exact same
  | cons m members ih =>
    obtain ⟨key, v⟩ := m
    obtain ⟨fresh, others⟩ := List.nodup_cons.1 distinct
    unfold stored?
    rw [Keyed.get?_cons]
    rcases find?_parts base key with ⟨found, none⟩ | ⟨g, p, rfl, found, change⟩
    · rw [decodeMembers_cons_none v s members found] at ok
      rw [if_neg (none l.group)]
      exact ih ok others (tables.tail fresh) same
    · obtain ⟨ms, rfl, inOrder⟩ := tables.head
      rw [decodeMembers_cons_some _ s members found, change] at ok
      obtain ⟨t, read, rest⟩ := except_bind_eq_ok.1 ok
      have read := ok_of_atKey read
      by_cases own : l.group = g
      · subst own
        have leaf := get_readLeaves read inOrder.nodup rfl
        rw [get_start same] at leaf
        rw [if_pos rfl, get_of_absent rest others (tables.tail fresh) fresh]
        exact leaf
      · rw [if_neg (mt Group.name_inj.1 own)]
        exact ih rest others (tables.tail fresh) ((readTable_other read own).trans same)

theorem stored?_cons {key : String} {v w : Setting} (fresh : key ∉ members.keys)
    (found : stored? members l = some w) :
    stored? ((key, v) :: members) l = some w := by
  have differs : l.group.name ≠ key := by
    rintro rfl
    unfold stored? at found
    rw [Keyed.get?_eq_none fresh] at found
    exact absurd found nofun
  unfold stored?
  rw [Keyed.get?_cons, if_neg differs]
  exact found

theorem members_ok (tables : HasTables members) (distinct : members.keys.Nodup)
    (each : ∀ l : Leaf, ∀ v, stored? members l = some v → ∃ x, l.decode v = .ok x) (s : Settings) :
    ∃ s', decodeMembers (parts base) s members = .ok s' := by
  induction members generalizing s with
  | nil => exact ⟨s, rfl⟩
  | cons m members ih =>
    obtain ⟨key, v⟩ := m
    obtain ⟨fresh, others⟩ := List.nodup_cons.1 distinct
    have rest := ih (tables.tail fresh) others fun l w found => each l w (stored?_cons fresh found)
    rcases find?_parts base key with ⟨found, -⟩ | ⟨g, p, rfl, found, change⟩
    · rw [decodeMembers_cons_none v s members found]
      exact rest s
    · obtain ⟨ms, rfl, inOrder⟩ := tables.head
      obtain ⟨t, read⟩ : ∃ t, g.readTable base s ms = .ok t := by
        refine readLeaves_ok (fun l group w mem => each l w ?_) _
        subst group
        unfold stored?
        rw [Keyed.get?_cons, if_pos rfl]
        exact Keyed.get?_of_mem inOrder.nodup mem
      rw [decodeMembers_cons_some _ s members found, change, read]
      exact rest t

theorem Leaf.Read.unique {given : Option Setting} {otherwise x y : l.Value} (hx : l.Read given otherwise x)
    (hy : l.Read given otherwise y) : x = y := by
  cases given with
  | none => exact Eq.trans hx (Eq.symm hy)
  | some v => exact Except.ok.inj ((Leaf.decode_eq_ok_iff.2 hx).symm.trans (Leaf.decode_eq_ok_iff.2 hy))

/-- Members are read exactly as the settings each leaf of which is what they give for it, or the standard. -/
theorem ofMembers_ok_iff (inOrder : members.Sorted) (tables : HasTables members) :
    ofMembers today members = .ok s ↔
      ∀ l : Leaf, l.Read (stored? members l) (l.get (standard today)) (l.get s) := by
  constructor
  · intro ok l
    exact get_of_members ok inOrder.nodup tables rfl
  · intro each
    have decodes (l : Leaf) (v : Setting) (found : stored? members l = some v) : ∃ x, l.decode v = .ok x := by
      have read := each l
      rw [found] at read
      exact ⟨_, Leaf.decode_eq_ok_iff.2 read⟩
    obtain ⟨s', ok⟩ : ∃ s', ofMembers today members = .ok s' :=
      members_ok tables inOrder.nodup decodes (standard today)
    have same : s' = s := Leaf.settings_ext fun l =>
      (get_of_members ok inOrder.nodup tables rfl).unique (each l)
    rw [ok, same]

end Tables

end ClassTable.Settings
