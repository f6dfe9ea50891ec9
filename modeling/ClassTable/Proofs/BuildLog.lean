import ClassTable.Proofs.Building
import ClassTable.Proofs.LevelRows
import ClassTable.Proofs.Traversals
import Mathlib.Data.List.Perm.Basic

set_option autoImplicit false

namespace ClassTable

namespace Event

def isSkip : Event → Bool
  | skippedRow _ => true
  | _ => false

def isStart : Event → Bool
  | classStart .. => true
  | _ => false

def isTable : Event → Bool
  | nestedTable .. => true
  | _ => false

def isFinal : Event → Bool
  | builtForest .. => true
  | _ => false

end Event

namespace Row

def event? (r : Row) : Option Event :=
  match r.isDeleted, r.layer with
  | .ok true, _ => some (.skippedRow r.index)
  | .ok false, .ok layer => if layer % 2 = 0 then some (.classStart r.index layer r.name) else none
  | _, _ => none

def Gives (r : Row) (e : Entry) : Prop :=
  r.isDeleted = .ok false ∧
    match e with
    | .start c => ∃ layer, r.line = .ok (.ofClass layer c.name c.description)
    | .member f => ∃ layer,
      r.line = .ok (.ofField layer f.name f.dataType f.initialValue f.description f.invariant)

section

variable {r : Row} {layer : Nat}

theorem event?_of_deleted (flag : r.isDeleted = .ok true) : r.event? = some (.skippedRow r.index) := by
  unfold event?
  rw [flag]

theorem event?_of_layer (live : r.isDeleted = .ok false) (parse : r.layer = .ok layer) :
    r.event? = if layer % 2 = 0 then some (.classStart r.index layer r.name) else none := by
  unfold event?
  rw [live, parse]

end

theorem owner_of_nest {base : Nat} {owner : Owner} {row : Row} {name : String}
    (step : row.step base owner = .nest name) : owner ≠ .nothing := by
  cases steps_of_step step with
  | nested _ _ _ open_ => simp [open_]

theorem owner_of_member {base : Nat} {owner : Owner} {row : Row} {invariant : Bool}
    (step : row.step base owner = .member invariant) : owner ≠ .nothing := by
  cases steps_of_step step with
  | ofField _ _ _ _ _ open_ => exact open_

end Row

/-- The rows of the nested table behind a field at `layer`: from the next live row up to the first live one
that lies at `layer` or below it. -/
def tableBehind (layer : Nat) (behind : List Row) : List Row :=
  levelRows (layer + 2) (behind.dropWhile fun r => !r.isLive)

def tableEvents (layer : Nat) (name : String) (children : List ClassDef) (behind : List Row) : List Event :=
  if children.isEmpty then []
  else
    [.nestedTable ((tableBehind layer behind).head?.elim 0 Row.index) name children.length
      (tableBehind layer behind).length]

def Row.tables (row : Row) (behind : List Row) : Entry → List Event
  | .start _ => []
  | .member f =>
    match row.layer with
    | .ok layer => tableEvents layer f.name f.children behind
    | .error _ => []

def nestedTables : List Row → List Entry → List Event
  | [], _ => []
  | row :: rest, entries =>
    if row.isLive then
      match entries with
      | [] => []
      | entry :: entries => row.tables rest entry ++ nestedTables rest entries
    else nestedTables rest entries

def Level.entries (level : Level) : List Entry :=
  forestFlatten level.children ++ (fieldsFlatten level.fields ++ forestFlatten level.classes)

def Owner.tables (base : Nat) (children : List ClassDef) (behind : List Row) : Owner → List Event
  | ofField name => tableEvents base name children behind
  | _ => []

/-- What a level reports and holds, compared with its rows. -/
structure Accounts (base : Nat) (owner : Owner) (rows : List Row) (events : List Event) (level : Level) :
    Prop where
  reports : events.filter Event.isOfRow = (levelRows base rows).filterMap Row.event?
  gives : List.Forall₂ Row.Gives ((levelRows base rows).filter Row.isLive) level.entries
  tables : (events.filter Event.isTable).Perm
    (owner.tables base level.children rows ++ nestedTables rows level.entries)

section Tables

variable {base layer n : Nat} {owner : Owner} {row : Row} {rest rows : List Row} {name : String}
  {entries : List Entry} {events : List Event} {level inner : Level}

theorem nestedTables_skip (deleted : row.isLive = false) :
    nestedTables (row :: rest) entries = nestedTables rest entries := by
  have notLive : ¬row.isLive = true := by simp [deleted]
  cases entries <;> rw [nestedTables, if_neg notLive]

theorem nestedTables_live (live : row.isLive = true) (entry : Entry) :
    nestedTables (row :: rest) (entry :: entries) = row.tables rest entry ++ nestedTables rest entries := by
  rw [nestedTables, if_pos live]

theorem nestedTables_nil (rows : List Row) : nestedTables rows [] = [] := by
  induction rows with
  | nil => rw [nestedTables]
  | cons row rows ih =>
    rw [nestedTables, ih]
    split <;> rfl

theorem tables_member (parse : row.layer = .ok layer) (f : FieldDef) :
    row.tables rest (.member f) = tableEvents layer f.name f.children rest := by
  change (match row.layer with
    | .ok layer => tableEvents layer f.name f.children rest
    | .error _ => []) = _
  rw [parse]

theorem nestedTables_append {front : List Row} (same : (front.filter Row.isLive).length = entries.length)
    (behind : List Row) (entries' : List Entry) :
    nestedTables (front ++ behind) (entries ++ entries') =
      nestedTables (front ++ behind) entries ++ nestedTables behind entries' := by
  induction front generalizing entries with
  | nil =>
    obtain rfl : entries = [] := List.length_eq_zero_iff.1 same.symm
    rw [nestedTables_nil]
    rfl
  | cons row front ih =>
    cases live : row.isLive with
    | false =>
      rw [List.filter_cons_of_neg (by simp [live])] at same
      rw [List.cons_append, nestedTables_skip live, nestedTables_skip live, ih same]
    | true =>
      rw [List.filter_cons_of_pos live] at same
      cases entries with
      | nil => cases same
      | cons entry entries =>
        have same : (front.filter Row.isLive).length = entries.length := Nat.succ.inj same
        rw [List.cons_append, List.cons_append, nestedTables_live live, nestedTables_live live, ih same,
          List.append_assoc]

theorem tables_skip (deleted : row.isLive = false) (children : List ClassDef) :
    owner.tables base children (row :: rest) = owner.tables base children rest := by
  have behind : tableBehind base (row :: rest) = tableBehind base rest := by
    simp [tableBehind, deleted]
  cases owner with
  | ofField name => simp only [Owner.tables, tableEvents, behind]
  | _ => rfl

theorem tables_nothing (base : Nat) (children : List ClassDef) (behind : List Row) :
    Owner.tables base children behind .nothing = [] := rfl

theorem tables_nil (owner : Owner) (base : Nat) (behind : List Row) : owner.tables base [] behind = [] := by
  cases owner <;> rfl

theorem LevelRun.admits (run : LevelRun base owner rows events level n) : owner.Admits level :=
  readLevel_admits base owner rows (congrArg Logged.result run.readLevel_eq)

theorem LevelRun.children_eq_nil (run : LevelRun base owner rows events level n)
    (ended : Ended (base + 2) rows) : level.children = [] := by
  cases run with
  | nil => rfl
  | finish => rfl
  | start => rfl
  | member => rfl
  | skip step =>
    obtain ⟨live, -⟩ := Row.ends_iff.1 (ended _ rfl)
    cases Row.steps_of_step step with
    | deleted flag => cases live.symm.trans flag
  | nest step =>
    obtain ⟨-, low, parse, below⟩ := Row.ends_iff.1 (ended _ rfl)
    cases Row.steps_of_step step with
    | nested _ parse' above =>
      obtain rfl := Except.ok.inj (parse.symm.trans parse')
      omega

theorem LevelRun.classes_ne_nil (call : LevelRun (nestedBase base) .nothing (row :: rest) events inner n)
    (step : row.step base owner = .nest name) : inner.classes ≠ [] := by
  have begins := Row.step_nested step
  cases call with
  | start => exact List.cons_ne_nil _ _
  | finish other | skip other | nest other | member other => simp [other] at begins

theorem Level.entries_nest (alone : level.children = []) (noChildren : inner.children = [])
    (noFields : inner.fields = []) : (inner.nest level).entries = inner.entries ++ level.entries := by
  simp [Level.entries, Level.nest, alone, noChildren, noFields, forestFlatten, fieldsFlatten]

/-- The table behind a field begins at the row that opens it and takes what its level takes. -/
theorem tableEvents_nest (deeper : nestedBase base = base + 2)
    (step : row.step base owner = .nest name)
    (call : LevelRun (nestedBase base) .nothing (row :: rest) events inner n) :
    tableEvents base name inner.classes (row :: rest) =
      [.nestedTable row.index name inner.classes.length inner.consumed] := by
  have live : row.isLive = true := Row.isLive_of_step step (by simp)
  have behind : tableBehind base (row :: rest) = row :: levelRows (base + 2) rest := by
    rw [tableBehind, List.dropWhile_cons_of_neg (by simp [live]),
      levelRows_cons (deeper ▸ Row.not_ends_nested step)]
  have taken : inner.consumed = (row :: levelRows (base + 2) rest).length := by
    rw [call.consumed_eq, levelRows_cons (Row.not_ends_nested step), deeper]
  have some_ : inner.classes.isEmpty = false := List.isEmpty_eq_false_iff.2 (call.classes_ne_nil step)
  rw [tableEvents, some_, behind, taken]
  rfl

end Tables

namespace Accounts

variable {base layer : Nat} {owner : Owner} {row : Row} {rest rows : List Row} {name : String}
  {events nested : List Event} {level inner : Level}

theorem done (ended : Ended base rows) : Accounts base owner rows [] .done := by
  have noRows : levelRows base rows = [] := levelRows_of_ended ended
  refine ⟨?reports, ?gives, ?tables⟩
  case reports =>
    rw [noRows]
    rfl
  case gives =>
    rw [noRows]
    exact .nil
  case tables =>
    change List.Perm [] (owner.tables base [] rows ++ nestedTables rows [])
    rw [tables_nil, nestedTables_nil]
    exact .nil

theorem skip (step : row.step base owner = .skip) (h : Accounts base owner rest events level) :
    Accounts base owner (row :: rest) (.skippedRow row.index :: events) level.skip := by
  have kept := levelRows_of_step step (by simp) rest
  have deleted : row.isLive = false := Bool.eq_false_iff.2 (Row.not_isLive_of_skip step)
  have event : row.event? = some (.skippedRow row.index) := by
    cases Row.steps_of_step step with
    | deleted flag => exact Row.event?_of_deleted flag
  refine ⟨?reports, ?gives, ?tables⟩
  case reports =>
    rw [kept, List.filterMap_cons_some event, ← h.reports]
    rfl
  case gives =>
    rw [kept, List.filter_cons_of_neg (by simp [deleted])]
    exact h.gives
  case tables =>
    have tables : (events.filter Event.isTable).Perm _ := h.tables
    rw [← tables_skip deleted, ← nestedTables_skip deleted] at tables
    exact tables

theorem startClass (step : row.step base owner = .start layer) (alone : level.children = [])
    (h : Accounts base .ofClass rest events level) :
    Accounts base owner (row :: rest) (.classStart row.index layer row.name :: events) (level.startClass row) := by
  have kept := levelRows_of_step step (by simp) rest
  have isLive : row.isLive = true := Row.isLive_of_step step (by simp)
  obtain ⟨live, parse, even⟩ : row.isDeleted = .ok false ∧ row.layer = .ok layer ∧ layer % 2 = 0 := by
    cases Row.steps_of_step step with
    | ofClass live parse _ even => exact ⟨live, parse, even⟩
  have event : row.event? = some (.classStart row.index layer row.name) := by
    rw [Row.event?_of_layer live parse, if_pos even]
  have gives : row.Gives (.start ⟨row.name, row.description, level.fields⟩) :=
    ⟨live, layer, Row.line_of_even parse even⟩
  have entries : (level.startClass row).entries =
      .start ⟨row.name, row.description, level.fields⟩ :: level.entries := by
    simp [Level.entries, Level.startClass, alone, forestFlatten, fieldsFlatten]
  refine ⟨?reports, ?gives, ?tables⟩
  case reports =>
    rw [kept, List.filterMap_cons_some event, ← h.reports]
    rfl
  case gives =>
    rw [kept, List.filter_cons_of_pos isLive, entries]
    exact .cons gives h.gives
  case tables =>
    have tables : (events.filter Event.isTable).Perm (nestedTables rest level.entries) := h.tables
    rw [entries, nestedTables_live isLive]
    change List.Perm _ (owner.tables base [] (row :: rest) ++ _)
    rw [tables_nil]
    exact tables

theorem startField {invariant : Bool} (odd : base % 2 = 1) (step : row.step base owner = .member invariant)
    (h : Accounts base (.ofField row.name) rest events level) :
    Accounts base owner (row :: rest) events (level.startField row invariant) := by
  have kept := levelRows_of_step step (by simp) rest
  have isLive : row.isLive = true := Row.isLive_of_step step (by simp)
  obtain ⟨live, parse, flag⟩ :
      row.isDeleted = .ok false ∧ row.layer = .ok base ∧ row.isInvariant = .ok invariant := by
    cases Row.steps_of_step step with
    | @ofField layer _ live parse high le other _ flag =>
      obtain rfl : layer = base := by omega
      exact ⟨live, parse, flag⟩
  have event : row.event? = none := by
    rw [Row.event?_of_layer live parse, if_neg (by omega)]
  let field : FieldDef :=
    ⟨row.name, row.dataType, row.initialValue, row.description, invariant, level.children⟩
  have gives : row.Gives (.member field) := ⟨live, base, Row.line_of_odd parse odd flag⟩
  have entries : (level.startField row invariant).entries = .member field :: level.entries := by
    simp [Level.entries, Level.startField, forestFlatten, field]
  refine ⟨?reports, ?gives, ?tables⟩
  case reports =>
    rw [kept, List.filterMap_cons_none event]
    exact h.reports
  case gives =>
    rw [kept, List.filter_cons_of_pos isLive, entries]
    exact .cons gives h.gives
  case tables =>
    rw [entries, nestedTables_live isLive, tables_member parse]
    change List.Perm _ (owner.tables base [] (row :: rest) ++ _)
    rw [tables_nil]
    exact h.tables

theorem nestedTables_nest {m : Nat}
    (call : LevelRun (nestedBase base) .nothing rows nested inner m)
    (h : Accounts (nestedBase base) .nothing rows nested inner) (entries : List Entry) :
    nestedTables rows (inner.entries ++ entries) =
      nestedTables rows inner.entries ++ nestedTables (rows.drop inner.consumed) entries := by
  have cut := nestedTables_append h.gives.length_eq (rows.drop inner.consumed) entries
  rwa [call.consumed_eq, levelRows_append_drop, ← call.consumed_eq] at cut

theorem nest {m n : Nat} (odd : base % 2 = 1) (step : row.step base owner = .nest name)
    (call : LevelRun (nestedBase base) .nothing (row :: rest) nested inner m)
    (run : LevelRun base owner ((row :: rest).drop inner.consumed) events level n)
    (hCall : Accounts (nestedBase base) .nothing (row :: rest) nested inner)
    (h : Accounts base owner ((row :: rest).drop inner.consumed) events level) :
    Accounts base owner (row :: rest)
      (nested ++ .nestedTable row.index name inner.classes.length inner.consumed :: events)
      (inner.nest level) := by
  obtain ⟨deeper, rfl⟩ : nestedBase base = base + 2 ∧ owner = .ofField name := by
    cases Row.steps_of_step step with
    | nested _ parse above open_ => exact ⟨nestedBase_eq odd above (Row.layer_le parse), open_⟩
  have parts : levelRows base (row :: rest) =
      levelRows (nestedBase base) (row :: rest) ++ levelRows base ((row :: rest).drop inner.consumed) := by
    rw [call.consumed_eq]
    exact levelRows_nested (Nat.le_of_lt (Row.base_lt_nestedBase step)) _
  obtain ⟨noChildren, noFields⟩ := call.admits
  have alone : level.children = [] := run.children_eq_nil (deeper ▸ call.ended_drop)
  have entries : (inner.nest level).entries = inner.entries ++ level.entries :=
    Level.entries_nest alone noChildren noFields
  refine ⟨?reports, ?gives, ?tables⟩
  case reports => rw [filter_isOfRow_nest, hCall.reports, h.reports, parts, List.filterMap_append]
  case gives =>
    rw [parts, List.filter_append, entries]
    exact List.rel_append hCall.gives h.gives
  case tables =>
    have inside : (nested.filter Event.isTable).Perm (nestedTables (row :: rest) inner.entries) := by
      have tables := hCall.tables
      rwa [tables_nothing, List.nil_append] at tables
    have behind : (events.filter Event.isTable).Perm
        (nestedTables ((row :: rest).drop inner.consumed) level.entries) := by
      have tables := h.tables
      rwa [alone, tables_nil, List.nil_append] at tables
    have children : (inner.nest level).children = inner.classes := by simp [Level.nest, alone]
    have table : (Owner.ofField name).tables base (inner.nest level).children (row :: rest) =
        [.nestedTable row.index name inner.classes.length inner.consumed] := by
      rw [children]
      exact tableEvents_nest deeper step call
    rw [table, entries, nestedTables_nest call hCall, List.filter_append, List.filter_cons_of_pos rfl,
      List.singleton_append]
    exact List.perm_middle.trans ((inside.append behind).cons _)

end Accounts

section Runs

variable {base n : Nat} {owner : Owner} {row : Row} {rest rows : List Row} {name : String}
  {events : List Event} {level : Level} {f : RowFault}

/-- In a level whose base layer is even no row is accepted, and none opens a nested table. -/
theorem LevelRun.accounts (run : LevelRun base owner rows events level n)
    (proper : owner = .nothing ∨ base % 2 = 1) : Accounts base owner rows events level := by
  induction run with
  | nil => exact .done nofun
  | finish step =>
    refine .done fun r mem => ?_
    obtain rfl := Option.some.inj mem
    exact Row.ends_of_finish step
  | skip step _ ih => exact .skip step (ih proper)
  | @start base _ layer owner row _ _ _ step run ih =>
    have odd : base % 2 = 1 := by
      cases Row.steps_of_step step with
      | ofClass _ _ start even => omega
    exact .startClass step run.admits (ih (.inr odd))
  | nest step call run ihCall ih =>
    have odd := proper.resolve_left (Row.owner_of_nest step)
    exact .nest odd step call run (ihCall (.inl rfl)) (ih (.inr odd))
  | member step _ ih =>
    have odd := proper.resolve_left (Row.owner_of_member step)
    exact .startField odd step (ih (.inr odd))

theorem LevelRun.isOfRow_or_isTable (run : LevelRun base owner rows events level n) :
    ∀ e ∈ events, e.isOfRow = true ∨ e.isTable = true := by
  induction run with
  | nil | finish => exact nofun
  | skip _ _ ih | start _ _ ih => exact List.forall_mem_cons.2 ⟨.inl rfl, ih⟩
  | nest _ _ _ ihCall ih => exact List.forall_mem_append.2 ⟨ihCall, List.forall_mem_cons.2 ⟨.inr rfl, ih⟩⟩
  | member _ _ ih => exact ih

theorem FailedRun.isOfRow_or_isTable (run : FailedRun base owner rows events f n) :
    ∀ e ∈ events, e.isOfRow = true ∨ e.isTable = true := by
  induction run with
  | fault => exact nofun
  | skip _ _ ih | start _ _ ih => exact List.forall_mem_cons.2 ⟨.inl rfl, ih⟩
  | nest _ call _ ih =>
    exact List.forall_mem_append.2 ⟨call.isOfRow_or_isTable, List.forall_mem_cons.2 ⟨.inr rfl, ih⟩⟩
  | call _ _ ih | member _ _ ih => exact ih

end Runs

def Event.Starts (rows : List Row) (e : Event) (c : ClassDef) : Prop :=
  ∃ row ∈ rows, ∃ layer, row.line = .ok (.ofClass layer c.name c.description) ∧
    e = .classStart row.index layer c.name

section Reports

variable {row : Row} {rows rows' : List Row} {entries : List Entry}

theorem Row.event?_of_not_live (deleted : row.isLive = false) : row.event? = some (.skippedRow row.index) := by
  unfold isLive at deleted
  cases flag : row.isDeleted with
  | error fault => simp [flag] at deleted
  | ok b =>
    cases b with
    | false => simp [flag] at deleted
    | true => exact event?_of_deleted flag

theorem Row.event?_of_class {layer : Nat} {name description : String} (live : row.isDeleted = .ok false)
    (h : row.line = .ok (.ofClass layer name description)) :
    row.event? = some (.classStart row.index layer name) := by
  have parse : row.layer = .ok layer := layer_of_line h
  simp only [line, parse] at h
  split at h
  · next even =>
    cases h
    rw [event?_of_layer live parse, if_pos even]
  · split at h <;> cases h

theorem Row.event?_of_field {layer : Nat} {name dataType initialValue description : String} {invariant : Bool}
    (live : row.isDeleted = .ok false)
    (h : row.line = .ok (.ofField layer name dataType initialValue description invariant)) :
    row.event? = none := by
  have parse : row.layer = .ok layer := layer_of_line h
  simp only [line, parse] at h
  split at h
  · cases h
  · next odd => rw [event?_of_layer live parse, if_neg odd]

theorem events_of_gives (gives : List.Forall₂ Row.Gives (rows.filter Row.isLive) entries)
    (sub : rows ⊆ rows') :
    (rows.filterMap Row.event?).filter Event.isSkip =
        (rows.filter fun r => !r.isLive).map (fun r => .skippedRow r.index) ∧
      List.Forall₂ (Event.Starts rows') ((rows.filterMap Row.event?).filter Event.isStart)
        (entries.filterMap Entry.class?) := by
  induction rows generalizing entries with
  | nil =>
    cases gives
    exact ⟨rfl, .nil⟩
  | cons row rows ih =>
    obtain ⟨mem, sub⟩ := List.cons_subset.1 sub
    cases live : row.isLive with
    | false =>
      rw [List.filter_cons_of_neg (by simp [live])] at gives
      obtain ⟨skips, starts⟩ := ih gives sub
      have passed : ((row :: rows).filter fun r => !r.isLive) = row :: rows.filter fun r => !r.isLive :=
        List.filter_cons_of_pos (by simp [live])
      rw [List.filterMap_cons_some (Row.event?_of_not_live live), passed]
      exact ⟨congrArg (List.cons _) skips, starts⟩
    | true =>
      rw [List.filter_cons_of_pos live] at gives
      rw [List.filter_cons_of_neg (by simp [live])]
      cases gives with
      | @cons _ entry _ entries given gives =>
        obtain ⟨notDeleted, line⟩ := given
        cases entry with
        | start c =>
          obtain ⟨layer, line⟩ := line
          obtain ⟨skips, starts⟩ := ih gives sub
          rw [List.filterMap_cons_some (Row.event?_of_class notDeleted line)]
          exact ⟨skips, .cons ⟨row, mem, layer, line, rfl⟩ starts⟩
        | member f =>
          obtain ⟨layer, line⟩ := line
          obtain ⟨skips, starts⟩ := ih gives sub
          rw [List.filterMap_cons_none (Row.event?_of_field notDeleted line)]
          exact ⟨skips, starts⟩

end Reports

/-- The log of a build that returns this forest, but for its last event. -/
structure CompleteLog (base : Nat) (rows : List Row) (forest : List ClassDef) (log : List Event) : Prop where
  reports : log.filter Event.isOfRow = (levelRows base rows).filterMap Row.event?
  skips : log.filter Event.isSkip =
    ((levelRows base rows).filter fun r => !r.isLive).map fun r => .skippedRow r.index
  starts : List.Forall₂ (Event.Starts (levelRows base rows)) (log.filter Event.isStart) (forestWalk forest)
  tables : (log.filter Event.isTable).Perm (nestedTables rows (forestFlatten forest))
  consumed : (levelRows base rows).length = (log.filter Event.isSkip).length + (forestFlatten forest).length
  unfinished : ∀ e ∈ log, e.isFinal = false

/-- The log of a build that fails at this row: the rows in front of it have a forest, and they are reported,
whatever comes behind. -/
structure BrokenLog (base : Nat) (fault : RowFault) (before : List Row) (row : Row) (log : List Event) :
    Prop where
  named : fault.row = row.index
  readable : ∃ forest, (buildForest base before).result = .ok forest
  fails : ∀ after, (buildForest base (before ++ row :: after)).result = .error fault
  reports : log.filter Event.isOfRow = before.filterMap Row.event?
  unfinished : ∀ e ∈ log, e.isFinal = false

section Build

variable {base n : Nat} {rows : List Row} {events : List Event} {level : Level} {f : RowFault}

theorem isFinal_eq_false (known : ∀ e ∈ events, e.isOfRow = true ∨ e.isTable = true) :
    ∀ e ∈ events, e.isFinal = false := by
  intro e mem
  cases e with
  | builtForest =>
    have other := known _ mem
    simp [Event.isOfRow, Event.isTable] at other
  | _ => rfl

theorem filter_isOfRow_filter {p : Event → Bool} (of : ∀ e : Event, p e = true → e.isOfRow = true) :
    (events.filter Event.isOfRow).filter p = events.filter p := by
  rw [List.filter_filter]
  refine List.filter_congr fun e _ => ?_
  cases h : p e with
  | false => rfl
  | true => rw [of e h]; rfl

theorem LevelRun.completeLog (run : LevelRun base .nothing rows events level n) :
    CompleteLog base rows level.classes events := by
  have h := run.accounts (.inl rfl)
  obtain ⟨noChildren, noFields⟩ := run.admits
  have entries : level.entries = forestFlatten level.classes := by
    simp [Level.entries, noChildren, noFields, forestFlatten, fieldsFlatten]
  have gives := h.gives
  have tables := h.tables
  rw [entries] at gives tables
  obtain ⟨skips, starts⟩ := events_of_gives gives (List.Subset.refl _)
  rw [← h.reports, filter_isOfRow_filter (by intro e; cases e <;> simp [Event.isSkip, Event.isOfRow])] at skips
  rw [← h.reports, filter_isOfRow_filter (by intro e; cases e <;> simp [Event.isStart, Event.isOfRow]),
    filterMap_class?_forestFlatten] at starts
  refine ⟨h.reports, skips, starts, tables, ?consumed, isFinal_eq_false run.isOfRow_or_isTable⟩
  have count := List.length_eq_length_filter_add (l := levelRows base rows) Row.isLive
  rw [skips, List.length_map, count, gives.length_eq, Nat.add_comm]

theorem FailedRun.brokenLog (run : FailedRun base .nothing rows events f n) :
    ∃ before row after, rows = before ++ row :: after ∧ BrokenLog base f before row events := by
  obtain ⟨before, row, after, split, h⟩ := run.split
  obtain ⟨events', level, m, read, same⟩ := h.read
  have all : levelRows base before = before := by
    have cut : levelRows base (before ++ []) = before ++ [] := levelRows_append h.inside
    rwa [List.append_nil] at cut
  refine ⟨before, row, after, split, h.named, ⟨level.classes, ?readable⟩, fun after' => ?fails, ?reports,
    isFinal_eq_false run.isOfRow_or_isTable⟩
  case readable => rw [read.buildForest_eq]
  case fails =>
    obtain ⟨k, fails⟩ := h.fails after'
    rw [fails.buildForest_eq]
  case reports => rw [← same, (read.accounts (.inl rfl)).reports, all]

end Build

/-- The log of a build accounts for the rows.  A build that succeeds reports, besides its last event, just
the rows up to the one that ends the table and the nested tables of the forest; one that fails reports just
the rows in front of the one at fault. -/
theorem buildForest_log (base : Nat) (rows : List Row) :
    (∀ forest, (buildForest base rows).result = .ok forest →
      ∃ log, (buildForest base rows).events =
          log ++ [.builtForest rows.length (levelRows base rows).length forest.length] ∧
        CompleteLog base rows forest log) ∧
    (∀ fault, (buildForest base rows).result = .error fault →
      ∃ before row after, rows = before ++ row :: after ∧
        BrokenLog base fault before row (buildForest base rows).events) := by
  obtain ⟨events, level, n, run⟩ | ⟨events, f, n, run⟩ := exists_run base .nothing rows
  · rw [run.buildForest_eq]
    refine ⟨fun forest built => ?_, nofun⟩
    obtain rfl := Except.ok.inj built
    exact ⟨events, by rw [run.consumed_eq], run.completeLog⟩
  · rw [run.buildForest_eq]
    refine ⟨nofun, fun fault failed => ?_⟩
    obtain rfl := Except.error.inj failed
    exact run.brokenLog

theorem buildForest_log_orderTable :
    (∃ log, (buildForest 3 orderTable).events = log ++ [.builtForest 8 6 1] ∧
      CompleteLog 3 orderTable orderForest log) ∧
    ∃ before row after,
      [Row.classStart 2 2 "Order" "", Row.classStart 3 4 "Item" "", .empty] = before ++ row :: after ∧
        BrokenLog 3 (.orphanTable 3 4) before row
          (buildForest 3 [.classStart 2 2 "Order" "", .classStart 3 4 "Item" "", .empty]).events := by
  have built : (buildForest 3 orderTable).result = .ok orderForest :=
    (buildForest_ok_iff (by decide)).2 ⟨_, scan_orderTable⟩
  have failed : (buildForest 3 [.classStart 2 2 "Order" "", .classStart 3 4 "Item" "", .empty]).result =
      .error (.orphanTable 3 4) := (buildForest_error_iff (by decide)).2 (by decide +kernel)
  have taken : (levelRows 3 orderTable).length = 6 := by decide +kernel
  obtain ⟨log, split, complete⟩ := (buildForest_log 3 orderTable).1 _ built
  rw [taken] at split
  exact ⟨⟨log, split, complete⟩, (buildForest_log 3 _).2 _ failed⟩

end ClassTable
