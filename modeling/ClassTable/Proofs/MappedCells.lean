import ClassTable.Proofs.Cells
import ClassTable.Table
import Mathlib.Data.List.Forall2

set_option autoImplicit false

namespace ClassTable.Table

open Text (Bytes)

def compared (name : String) : String :=
  Text.lower (Text.trim (String.ofList (name.toList.dropWhile (· == '\ufeff'))))

def sought (names : ColumnNames) (c : Column) : String := Text.lower (Text.trim (names.get c))

structure Entry where
  line : Nat
  cells : List String
deriving DecidableEq, Repr

structure Sheet where
  header : List String
  entries : List Entry
deriving DecidableEq, Repr

namespace Sheet

def keys (t : Sheet) : List String := t.header.map compared

def place? (names : ColumnNames) (t : Sheet) (c : Column) : Option Nat := t.keys.idxOf? (sought names c)

/-- The text of a column in a record, empty where the table lacks the column or the record the cell. -/
def cell (names : ColumnNames) (t : Sheet) (c : Column) (e : Entry) : String :=
  match t.place? names c with
  | some i => e.cells.getD i ""
  | none => ""

def keeps (names : ColumnNames) (t : Sheet) (e : Entry) : Bool :=
  Column.all.any fun c => !Text.isBlankText (t.cell names c e)

def lacks (names : ColumnNames) (t : Sheet) (c : Column) : Bool := (t.place? names c).isNone

def missing? (names : ColumnNames) (t : Sheet) : Option Column :=
  [Column.layer, .variableName].find? (t.lacks names)

/-- A warning for each column that the table lacks, up to a required one. -/
def absences (names : ColumnNames) (t : Sheet) : List Event :=
  ((Column.all.takeWhile fun c => t.missing? names ≠ some c).filter (t.lacks names)).map fun c =>
    .columnAbsent (names.get c) c.key

structure IsRow (names : ColumnNames) (t : Sheet) (row : Row) (e : Entry) : Prop where
  index : row.index = e.line
  cell : ∀ c, row.cell c = Text.trim (t.cell names c e)

/-- What a reader makes of a table: the events, and a fault or the rows. -/
structure Reads (names : ColumnNames) (t : Sheet) (outcome : Logged Fault (List Row)) : Prop where
  events : outcome.events = t.absences names
  fault : ∀ c, t.missing? names = some c → outcome.result = .error (.missingColumn c (names.get c))
  rows : t.missing? names = none → ∃ rows, outcome.result = .ok rows ∧
    List.Forall₂ (t.IsRow names) rows (t.entries.filter (t.keeps names))

end Sheet

structure Parses (delimiter : UInt8) (bytes : Bytes) (t : Sheet) : Prop where
  header : ((records delimiter bytes).head?.map fun r => decodeFields r.position 0 r.fields).getD (.ok []) =
    .ok t.header
  entries : List.Forall₂ (fun r e => e.line = r.position.line ∧ values r = .ok e.cells)
    (records delimiter bytes).tail t.entries

section Header

variable {names : ColumnNames} {t : Sheet} {delimiter : UInt8} {bytes : Bytes}

theorem headerNames_of_decodeFields {r : Record} {texts : List String}
    (decoded : decodeFields r.position 0 r.fields = .ok texts) : headerNames r = .ok (texts.map compared) := by
  unfold headerNames
  rw [decoded]
  rfl

theorem headerNames_of_parses (parses : Parses delimiter bytes t) :
    ((records delimiter bytes).head?.map headerNames).getD (.ok []) = .ok t.keys := by
  have decoded := parses.header
  cases first : (records delimiter bytes).head? with
  | none =>
    rw [first] at decoded
    rw [Sheet.keys, ← Except.ok.inj decoded]
    rfl
  | some r =>
    rw [first] at decoded
    exact headerNames_of_decodeFields decoded

def stops (names : ColumnNames) (t : Sheet) (c : Column) : Bool := isRequired c && t.lacks names c

theorem findColumns_eq (names : ColumnNames) (t : Sheet) (columns : List Column) :
    findColumns t.keys (columns.map fun c => (c, names.get c)) =
      ⟨((columns.takeWhile fun c => !stops names t c).filter (t.lacks names)).map fun c =>
          .columnAbsent (names.get c) c.key,
        match columns.find? (stops names t) with
        | some c => .error (.missingColumn c (names.get c))
        | none => .ok (columns.filterMap fun c => (t.place? names c).map (c, ·))⟩ := by
  induction columns with
  | nil => rfl
  | cons c columns ih =>
    have place : t.keys.idxOf? (Text.lower (Text.trim (names.get c))) = t.place? names c := rfl
    rw [List.map_cons, findColumns, place, ih]
    cases found : t.place? names c with
    | some i =>
      have has : t.lacks names c = false := by rw [Sheet.lacks, found]; rfl
      have goes : stops names t c = false := by rw [stops, has, Bool.and_false]
      rw [List.takeWhile_cons_of_pos (by rw [goes]; rfl), List.filter_cons_of_neg (by rw [has]; decide),
        List.find?_cons_of_neg (by rw [goes]; decide), List.filterMap_cons_some (by rw [found]; rfl)]
      cases columns.find? (stops names t) with
      | some other => rfl
      | none => exact congrArg (Logged.mk · _) (List.append_nil _)
    | none =>
      have lacks : t.lacks names c = true := by rw [Sheet.lacks, found]; rfl
      by_cases required : isRequired c = true
      · have stop : stops names t c = true := by rw [stops, required, lacks]; rfl
        simp only [required, if_true]
        rw [List.takeWhile_cons_of_neg (by rw [stop]; decide), List.find?_cons_of_pos stop]
        rfl
      · have goes : stops names t c = false := by rw [stops, Bool.eq_false_iff.2 required, Bool.false_and]
        simp only [required]
        rw [List.takeWhile_cons_of_pos (by rw [goes]; rfl), List.filter_cons_of_pos lacks,
          List.find?_cons_of_neg (by rw [goes]; decide), List.filterMap_cons_none (by rw [found]; rfl)]
        rfl

theorem find?_stops (names : ColumnNames) (t : Sheet) :
    Column.all.find? (stops names t) = t.missing? names := by
  unfold Sheet.missing?
  cases layer : t.lacks names .layer <;> cases name : t.lacks names .variableName <;>
    simp [Column.all, stops, isRequired, layer, name]

theorem takeWhile_stops (names : ColumnNames) (t : Sheet) :
    (Column.all.takeWhile fun c => !stops names t c) =
      Column.all.takeWhile fun c => t.missing? names ≠ some c := by
  unfold Sheet.missing?
  cases layer : t.lacks names .layer <;> cases name : t.lacks names .variableName <;>
    simp [Column.all, stops, isRequired, layer, name]

theorem findColumns_mapping (names : ColumnNames) (t : Sheet) :
    findColumns t.keys names.mapping = ⟨t.absences names,
      match t.missing? names with
      | some c => .error (.missingColumn c (names.get c))
      | none => .ok (Column.all.filterMap fun c => (t.place? names c).map (c, ·))⟩ := by
  rw [ColumnNames.mapping, findColumns_eq, find?_stops, takeWhile_stops, Sheet.absences]

end Header

section Rows

variable {names : ColumnNames} {t : Sheet}

def value? (names : ColumnNames) (t : Sheet) (e : Entry) (c : Column) : Option String :=
  (t.place? names c).bind (e.cells[·]?)

theorem getD_value? (names : ColumnNames) (t : Sheet) (e : Entry) (c : Column) :
    (value? names t e c).getD "" = t.cell names c e := by
  unfold value? Sheet.cell
  cases t.place? names c with
  | none => rfl
  | some i => exact List.getD_eq_getElem?_getD.symm

def rowAt (names : ColumnNames) (t : Sheet) (e : Entry) : Row :=
  rowOf (Column.all.filterMap fun c => (t.place? names c).map (c, ·)) e.line e.cells

theorem cells_rowAt (names : ColumnNames) (t : Sheet) (e : Entry) :
    (rowAt names t e).cells = Column.all.filterMap fun c => (value? names t e c).map (c.key, ·) := by
  change List.filterMap _ (List.filterMap _ _) = _
  rw [List.filterMap_filterMap]
  refine List.filterMap_congr fun c _ => ?_
  unfold value?
  cases t.place? names c <;> rfl

theorem lookup_cells (f : Column → Option String) (columns : List Column) (c : Column) :
    (columns.filterMap fun c => (f c).map (c.key, ·)).lookup c.key = if c ∈ columns then f c else none := by
  induction columns with
  | nil => rfl
  | cons first columns ih =>
    cases value : f first with
    | none =>
      rw [List.filterMap_cons_none (by rw [value]; rfl), ih]
      by_cases here : c = first
      · simp [here, value]
      · simp [here]
    | some text =>
      rw [List.filterMap_cons_some (by rw [value]; rfl), List.lookup_cons, ih]
      by_cases here : c = first
      · simp [here, value]
      · have other : (c.key == first.key) = false := by simp [Column.key_inj, here]
        simp [here, other]

theorem isRow_rowAt (names : ColumnNames) (t : Sheet) (e : Entry) : t.IsRow names (rowAt names t e) e where
  index := rfl
  cell c := by
    have mem : c ∈ Column.all := by cases c <;> decide
    rw [← getD_value?, Row.cell, Row.text, cells_rowAt, lookup_cells, if_pos mem]
    cases value? names t e c <;> rfl

theorem isBlank_rowAt (names : ColumnNames) (t : Sheet) (e : Entry) :
    (!(rowAt names t e).isBlank) = t.keeps names e := by
  rw [Row.isBlank, cells_rowAt, List.all_filterMap, Sheet.keeps, List.not_all_eq_any_not]
  congr 1
  funext c
  rw [← getD_value?]
  cases value? names t e c <;> rfl

theorem readRows_eq {all : List Record} {entries : List Entry} (decoded : List.Forall₂
      (fun r e => e.line = r.position.line ∧ values r = .ok e.cells) all entries) :
    readRows (Column.all.filterMap fun c => (t.place? names c).map (c, ·)) all =
      .ok ((entries.filter (t.keeps names)).map (rowAt names t)) := by
  induction decoded with
  | nil => rfl
  | @cons r e all entries here _ ih =>
    obtain ⟨line, texts⟩ := here
    have row : rowOf (Column.all.filterMap fun c => (t.place? names c).map (c, ·)) r.position.line e.cells =
        rowAt names t e := by rw [rowAt, line]
    have blank := isBlank_rowAt names t e
    rw [readRows, texts, ih]
    change (Except.ok _ : Except Fault (List Row)) = _
    rw [row]
    by_cases keeps : t.keeps names e = true
    · have filled : (rowAt names t e).isBlank = false := by simpa [keeps] using blank
      rw [List.filter_cons_of_pos keeps, filled]
      rfl
    · have bare : (rowAt names t e).isBlank = true := by simpa [keeps] using blank
      rw [List.filter_cons_of_neg keeps, bare]
      rfl

end Rows

/-- A reader tells what the table lacks.  It fails for the first required column that is absent, and else keeps
the records with some text under a column. -/
theorem reads_of_parses {names : ColumnNames} {t : Sheet} {delimiter : UInt8} {bytes : Bytes}
    (parses : Parses delimiter bytes t) : t.Reads names (read names delimiter bytes) := by
  have found : read names delimiter bytes = (findColumns t.keys names.mapping >>= fun columns =>
      .ofExcept (readRows columns (records delimiter bytes).tail)) := by
    unfold read
    dsimp only
    rw [headerNames_of_parses parses]
    exact Logged.bind_of_ok rfl
  rw [found, findColumns_mapping]
  cases missing : t.missing? names with
  | some c =>
    rw [Logged.bind_of_error rfl]
    refine ⟨rfl, fun other same => ?_, fun complete => nomatch missing.symm.trans complete⟩
    rw [Option.some.inj (missing.symm.trans same)]
  | none =>
    rw [Logged.bind_of_ok rfl, readRows_eq parses.entries]
    refine ⟨List.append_nil _, fun _ stopped => (nomatch missing.symm.trans stopped), fun _ => ⟨_, rfl, ?_⟩⟩
    rw [List.forall₂_map_left_iff, List.forall₂_same]
    exact fun e _ => isRow_rowAt names t e

end ClassTable.Table
