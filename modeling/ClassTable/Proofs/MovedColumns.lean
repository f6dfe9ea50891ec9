import ClassTable.Proofs.LetterCase
import ClassTable.Proofs.MappedCells
import Mathlib.Data.List.InsertIdx
import Mathlib.Data.List.NodupEquivFin
import Mathlib.Data.List.Perm.Basic
import Mathlib.Logic.Relation

set_option autoImplicit false

namespace ClassTable.Table

open Text (Bytes)

def padded (n : Nat) (cells : List String) : List String :=
  cells ++ List.replicate (n - cells.length) ""

def EachEntry (related : List String → List String → Prop) : List Entry → List Entry → Prop :=
  List.Forall₂ fun e e' => e'.line = e.line ∧ related e.cells e'.cells

def letters (name : String) : List Char := name.toList.map Char.toLower

/-- A name that no column is looked for under. -/
def Unmapped (names : ColumnNames) (name : String) : Prop := ∀ c, compared name ≠ sought names c

/-- One change of a table that leaves the mapped cells alone. -/
inductive Move (names : ColumnNames) : Sheet → Sheet → Prop where
  /-- The columns in another order, and what a record has behind the last column. -/
  | reorder {header header' : List String} {entries entries' : List Entry} (order : List Nat)
      (perm : order.Perm (List.range header.length)) (titles : header' = order.map (header.getD · ""))
      (cells : EachEntry (fun cells cells' =>
        cells' = order.map ((padded header.length cells).getD · "") ++ cells.drop header.length) entries entries') :
      Move names ⟨header, entries⟩ ⟨header', entries'⟩
  | recase {header header' : List String} {entries : List Entry}
      (same : header'.map letters = header.map letters) :
      Move names ⟨header, entries⟩ ⟨header', entries⟩
  /-- A column between others, and its cells; a record too short for it is padded. -/
  | insert {header : List String} {entries entries' : List Entry} {place : Nat} {name : String}
      (fits : place ≤ header.length) (other : Unmapped names name)
      (cells : EachEntry (fun cells cells' => ∃ text, cells' = (padded place cells).insertIdx place text)
        entries entries') :
      Move names ⟨header, entries⟩ ⟨header.insertIdx place name, entries'⟩
  | erase {header : List String} {entries entries' : List Entry} {place : Nat} {name : String}
      (found : header[place]? = some name) (other : Unmapped names name)
      (cells : EachEntry (fun cells cells' => cells' = cells.eraseIdx place) entries entries') :
      Move names ⟨header, entries⟩ ⟨header.eraseIdx place, entries'⟩
  | pad {header : List String} {entries entries' : List Entry}
      (cells : EachEntry (fun cells cells' => ∃ n, cells' = cells ++ List.replicate n "") entries entries') :
      Move names ⟨header, entries⟩ ⟨header, entries'⟩
  | cut {header : List String} {entries entries' : List Entry}
      (cells : EachEntry (fun cells cells' => ∃ n, cells = cells' ++ List.replicate n "") entries entries') :
      Move names ⟨header, entries⟩ ⟨header, entries'⟩

def Rearranged (names : ColumnNames) : Sheet → Sheet → Prop := Relation.ReflTransGen (Move names)

section Keys

theorem compared_eq_of_letters (name : String) : compared name = compared (String.ofList (letters name)) := by
  have mark : ∀ c : Char, (c.toLower == '\ufeff') = (c == '\ufeff') := by
    intro c
    have value : '\ufeff'.toNat = 0xFEFF := rfl
    rw [Bool.eq_iff_iff, beq_iff_eq, beq_iff_eq, ← Char.toNat_inj, ← Char.toNat_inj, Text.toNat_toLower, value]
    split <;> omega
  have front := Text.dropWhile_map_toLower (p := (· == '\ufeff')) mark name.toList
  simp only [compared, letters, Text.lower, Text.trim, String.toList_ofList, front, Text.trimChars_map_toLower,
    Text.lowerChars_map_toLower]

theorem map_compared_of_letters {header header' : List String}
    (same : header'.map letters = header.map letters) : header'.map compared = header.map compared := by
  have blind : compared = (fun cs => compared (String.ofList cs)) ∘ letters := funext compared_eq_of_letters
  rw [blind, ← List.map_map, same, List.map_map]

theorem map_getD_range (header : List String) : (List.range header.length).map (header.getD · "") = header := by
  apply List.ext_getElem (by simp)
  intro i _ bound
  simp [List.getD_eq_getElem?_getD, bound]

end Keys

section Cells

variable {cells : List String} {place i : Nat}

theorem getD_append_replicate (cells : List String) (n i : Nat) :
    (cells ++ List.replicate n "").getD i "" = cells.getD i "" := by
  rw [List.getD_eq_getElem?_getD, List.getD_eq_getElem?_getD, List.getElem?_append]
  split
  · rfl
  · rw [List.getElem?_replicate, List.getElem?_eq_none (by omega)]
    split <;> rfl

theorem getD_padded (n : Nat) (cells : List String) (i : Nat) : (padded n cells).getD i "" = cells.getD i "" :=
  getD_append_replicate cells _ i

theorem getElem?_insertIdx_moved {α : Type} (values : List α) (place : Nat) (v : α) (i : Nat) :
    (values.insertIdx place v)[if i < place then i else i + 1]? = values[i]? := by
  rw [List.getElem?_insertIdx]
  by_cases before : i < place
  · simp [before]
  · rw [if_neg before, if_neg (by omega), if_neg (by omega), Nat.add_sub_cancel]

theorem getElem?_eraseIdx_moved {α : Type} (values : List α) (other : i ≠ place) :
    (values.eraseIdx place)[if i < place then i else i - 1]? = values[i]? := by
  rw [List.getElem?_eraseIdx]
  by_cases before : i < place
  · simp [before]
  · have behind : i - 1 + 1 = i := by omega
    rw [if_neg before, if_neg (by omega), behind]

theorem getD_map_order {order : List Nat} {j : Nat} (found : order[j]? = some i) (rest : List String) :
    (order.map (cells.getD · "") ++ rest).getD j "" = cells.getD i "" := by
  have bound := (List.getElem?_eq_some_iff.1 found).1
  rw [List.getD_eq_getElem?_getD, List.getElem?_append_left (by simpa using bound), List.getElem?_map, found]
  rfl

end Cells

section Moves

variable {names : ColumnNames} {t u : Sheet}

/-- No two headers are found under the name of one column. -/
def Sheet.Single (names : ColumnNames) (t : Sheet) : Prop := ∀ c, t.keys.count (sought names c) ≤ 1

theorem single_of_nodup (distinct : t.keys.Nodup) : t.Single names :=
  fun c => List.nodup_iff_count_le_one.1 distinct (sought names c)

theorem count_keys_of_move (move : Move names t u) (c : Column) :
    u.keys.count (sought names c) = t.keys.count (sought names c) := by
  cases move with
  | @reorder header _ _ _ order perm titles _ =>
    have whole := (perm.map (header.getD · "")).map compared
    rw [map_getD_range, ← titles] at whole
    exact whole.count_eq _
  | recase same =>
    unfold Sheet.keys
    rw [map_compared_of_letters same]
  | @insert header _ _ place name fits other _ =>
    have whole := (List.perm_insertIdx name header fits).map compared
    exact (whole.count_eq _).trans (List.count_cons_of_ne (other c))
  | @erase header _ _ place name found other _ =>
    obtain ⟨bound, rfl⟩ := List.getElem?_eq_some_iff.1 found
    have whole := (List.getElem_cons_eraseIdx_perm bound).map compared
    exact (List.count_cons_of_ne (other c)).symm.trans (whole.count_eq _)
  | pad => rfl
  | cut => rfl

theorem single_of_move (move : Move names t u) (single : t.Single names) : u.Single names := by
  intro c
  rw [count_keys_of_move move c]
  exact single c

theorem eachEntry_imp {related related' : List String → List String → Prop} {entries entries' : List Entry}
    (imp : ∀ cells cells', related cells cells' → related' cells cells')
    (each : EachEntry related entries entries') : EachEntry related' entries entries' :=
  each.imp fun e e' same => ⟨same.1, imp e.cells e'.cells same.2⟩

theorem follows_of_move (move : Move names t u) {c : Column} {i : Nat}
    (found : t.keys[i]? = some (sought names c)) :
    ∃ j, u.keys[j]? = some (sought names c) ∧
      EachEntry (fun cells cells' => cells'.getD j "" = cells.getD i "") t.entries u.entries := by
  unfold Sheet.keys at found ⊢
  rw [List.getElem?_map, Option.map_eq_some_iff] at found
  obtain ⟨name, found, key⟩ := found
  cases move with
  | @reorder header _ _ _ order perm titles cells =>
    have bound := (List.getElem?_eq_some_iff.1 found).1
    have mem : i ∈ order := perm.mem_iff.2 (List.mem_range.2 bound)
    obtain ⟨j, stands⟩ := List.mem_iff_getElem?.1 mem
    refine ⟨j, ?_, eachEntry_imp (fun cells cells' same => ?_) cells⟩
    · rw [titles, List.getElem?_map, List.getElem?_map, stands, ← key]
      simp [List.getD_eq_getElem?_getD, found]
    · rw [same, getD_map_order stands, getD_padded]
  | @recase header header' _ same =>
    refine ⟨i, ?_, List.forall₂_same.2 fun _ _ => ⟨rfl, rfl⟩⟩
    rw [map_compared_of_letters same, List.getElem?_map, found, ← key]
    rfl
  | @insert header _ _ place inserted fits other cells =>
    refine ⟨if i < place then i else i + 1, ?_, eachEntry_imp (fun cells cells' same => ?_) cells⟩
    · rw [List.getElem?_map, getElem?_insertIdx_moved, found, ← key]
      rfl
    · obtain ⟨text, same⟩ := same
      rw [same, List.getD_eq_getElem?_getD, getElem?_insertIdx_moved, ← List.getD_eq_getElem?_getD, getD_padded]
  | @erase header _ _ place erased at_ other cells =>
    have differs : i ≠ place := by
      rintro rfl
      exact other c (by rw [← key, Option.some.inj (found.symm.trans at_)])
    refine ⟨if i < place then i else i - 1, ?_, eachEntry_imp (fun cells cells' same => ?_) cells⟩
    · rw [List.getElem?_map, getElem?_eraseIdx_moved header differs, found, ← key]
      rfl
    · rw [same, List.getD_eq_getElem?_getD, getElem?_eraseIdx_moved cells differs, List.getD_eq_getElem?_getD]
  | pad cells =>
    refine ⟨i, by rw [List.getElem?_map, found, ← key]; rfl, eachEntry_imp (fun cells cells' same => ?_) cells⟩
    obtain ⟨n, same⟩ := same
    rw [same, getD_append_replicate]
  | cut cells =>
    refine ⟨i, by rw [List.getElem?_map, found, ← key]; rfl, eachEntry_imp (fun cells cells' same => ?_) cells⟩
    obtain ⟨n, same⟩ := same
    rw [same, getD_append_replicate]

def SameEntry (names : ColumnNames) (t u : Sheet) (e e' : Entry) : Prop :=
  e'.line = e.line ∧ ∀ c, u.cell names c e' = t.cell names c e

structure SameCells (names : ColumnNames) (t u : Sheet) : Prop where
  lacks : u.lacks names = t.lacks names
  entries : List.Forall₂ (SameEntry names t u) t.entries u.entries

theorem sameCells_refl (t : Sheet) : SameCells names t t :=
  ⟨rfl, List.forall₂_same.2 fun _ _ => ⟨rfl, fun _ => rfl⟩⟩

theorem SameCells.trans {v : Sheet} (first : SameCells names t u) (second : SameCells names u v) :
    SameCells names t v := by
  refine ⟨second.lacks.trans first.lacks, List.forall₂_iff_get.2 ?_⟩
  obtain ⟨length, same⟩ := List.forall₂_iff_get.1 first.entries
  obtain ⟨length', same'⟩ := List.forall₂_iff_get.1 second.entries
  refine ⟨length.trans length', fun i bound bound' => ?_⟩
  obtain ⟨line, cells⟩ := same i bound (length ▸ bound)
  obtain ⟨line', cells'⟩ := same' i (length ▸ bound) bound'
  exact ⟨line'.trans line, fun c => (cells' c).trans (cells c)⟩

theorem eachEntry_of_move (move : Move names t u) : EachEntry (fun _ _ => True) t.entries u.entries := by
  cases move with
  | recase => exact List.forall₂_same.2 fun _ _ => ⟨rfl, trivial⟩
  | reorder _ _ _ cells => exact eachEntry_imp (fun _ _ _ => trivial) cells
  | insert _ _ cells => exact eachEntry_imp (fun _ _ _ => trivial) cells
  | erase _ _ cells => exact eachEntry_imp (fun _ _ _ => trivial) cells
  | pad cells => exact eachEntry_imp (fun _ _ _ => trivial) cells
  | cut cells => exact eachEntry_imp (fun _ _ _ => trivial) cells

theorem place?_eq_none_iff {c : Column} : t.place? names c = none ↔ t.keys.count (sought names c) = 0 := by
  rw [Sheet.place?, List.idxOf?_eq_none_iff, List.count_eq_zero]

theorem place?_of_single (single : t.Single names) {c : Column} {i : Nat}
    (found : t.keys[i]? = some (sought names c)) : t.place? names c = some i := by
  obtain ⟨bound, here⟩ := List.getElem?_eq_some_iff.1 found
  refine List.idxOf?_eq_some_iff.2 ⟨bound, here, fun j before there => ?_⟩
  have twice : t.keys.Duplicate (sought names c) :=
    List.duplicate_iff_exists_distinct_get.2
      ⟨⟨j, before.trans bound⟩, ⟨i, bound⟩, before, there.symm, here.symm⟩
  have count := List.duplicate_iff_two_le_count.1 twice
  have most := single c
  omega

theorem column_of_move (move : Move names t u) (single : t.Single names) (c : Column) :
    u.lacks names c = t.lacks names c ∧
      List.Forall₂ (fun e e' => e'.line = e.line ∧ u.cell names c e' = t.cell names c e) t.entries u.entries := by
  have count := count_keys_of_move move c
  unfold Sheet.lacks Sheet.cell
  cases place : t.place? names c with
  | none =>
    have absent : u.place? names c = none := by
      rw [place?_eq_none_iff, count]
      exact place?_eq_none_iff.1 place
    rw [absent]
    exact ⟨rfl, (eachEntry_of_move move).imp fun _ _ same => ⟨same.1, rfl⟩⟩
  | some i =>
    have found : t.keys[i]? = some (sought names c) := by
      obtain ⟨bound, here, -⟩ := List.idxOf?_eq_some_iff.1 place
      exact List.getElem?_eq_some_iff.2 ⟨bound, here⟩
    obtain ⟨j, stands, cells⟩ := follows_of_move move found
    rw [place?_of_single (single_of_move move single) stands]
    exact ⟨rfl, cells⟩

theorem sameCells_of_move (move : Move names t u) (single : t.Single names) : SameCells names t u := by
  have column := column_of_move move single
  refine ⟨funext fun c => (column c).1, List.forall₂_iff_get.2 ⟨(column .layer).2.length_eq, ?_⟩⟩
  intro i bound bound'
  have each := fun c => (List.forall₂_iff_get.1 (column c).2).2 i bound bound'
  exact ⟨(each .layer).1, fun c => (each c).2⟩

theorem sameCells_of_rearranged (moved : Rearranged names t u) (single : t.Single names) :
    SameCells names t u ∧ u.Single names := by
  induction moved with
  | refl => exact ⟨sameCells_refl t, single⟩
  | tail _ move ih =>
    obtain ⟨same, single⟩ := ih
    exact ⟨same.trans (sameCells_of_move move single), single_of_move move single⟩

end Moves

section Outcomes

variable {names : ColumnNames} {t u : Sheet}

/-- Rows with one index that read the same under each column. -/
def SameRow (row row' : Row) : Prop := row'.index = row.index ∧ ∀ c : Column, row'.text c.key = row.text c.key

inductive SameResult : Except Fault (List Row) → Except Fault (List Row) → Prop where
  | fault (f : Fault) : SameResult (.error f) (.error f)
  | rows {rows rows' : List Row} (same : List.Forall₂ SameRow rows rows') : SameResult (.ok rows) (.ok rows')

theorem keeps_of_sameEntry {e e' : Entry} (same : SameEntry names t u e e') :
    u.keeps names e' = t.keeps names e := by
  unfold Sheet.keeps
  simp only [same.2]

theorem map_keeps_of_sameCells (same : SameCells names t u) :
    u.entries.map (u.keeps names) = t.entries.map (t.keeps names) := by
  have each := same.entries.imp fun _ _ here => (keeps_of_sameEntry here).symm
  exact (List.forall₂_eq_eq_eq ▸ (List.forall₂_map_left_iff.2 (List.forall₂_map_right_iff.2 each))).symm

theorem sameRows {entries entries' : List Entry} {rows rows' : List Row}
    (same : List.Forall₂ (SameEntry names t u) entries entries')
    (left : List.Forall₂ (t.IsRow names) rows entries) (right : List.Forall₂ (u.IsRow names) rows' entries') :
    List.Forall₂ SameRow rows rows' := by
  induction same generalizing rows rows' with
  | nil =>
    cases left
    cases right
    exact .nil
  | cons here _ ih =>
    cases left with
    | cons row left =>
      cases right with
      | cons row' right =>
        refine .cons ⟨?_, fun c => ?_⟩ (ih left right)
        · rw [row'.index, row.index, here.1]
        · exact (row'.cell c).trans ((congrArg Text.trim (here.2 c)).trans (row.cell c).symm)

theorem sameResult_of_reads {x y : Logged Fault (List Row)} (same : SameCells names t u)
    (left : t.Reads names x) (right : u.Reads names y) : SameResult x.result y.result := by
  have missing : u.missing? names = t.missing? names := by rw [Sheet.missing?, same.lacks, Sheet.missing?]
  cases stops : t.missing? names with
  | some c =>
    rw [left.fault c stops, right.fault c (missing.trans stops)]
    exact .fault _
  | none =>
    obtain ⟨rows, result, each⟩ := left.rows stops
    obtain ⟨rows', result', each'⟩ := right.rows (missing.trans stops)
    rw [result, result']
    have kept : List.Forall₂ (SameEntry names t u) (t.entries.filter (t.keeps names))
        (u.entries.filter (u.keeps names)) :=
      List.rel_filter (p := t.keeps names) (q := u.keeps names)
        (fun _ _ here => iff_of_eq (congrArg (· = true) (keeps_of_sameEntry here).symm)) same.entries
    exact .rows (sameRows kept each each')

end Outcomes

/-- What a reader makes of a table depends on its mapped cells alone.  Columns in another order or with other
letter cases, further columns, and empty cells at the end of a record change neither the events, nor the fault,
nor which records are kept, nor what their rows say. -/
theorem read_rearranged {names : ColumnNames} {delimiter delimiter' : UInt8} {bytes bytes' : Bytes}
    {t u : Sheet}
    (here : Parses delimiter bytes t) (there : Parses delimiter' bytes' u) (distinct : t.keys.Nodup)
    (moved : Rearranged names t u) :
    (read names delimiter' bytes').events = (read names delimiter bytes).events ∧
      SameResult (read names delimiter bytes).result (read names delimiter' bytes').result ∧
      u.entries.map (u.keeps names) = t.entries.map (t.keeps names) ∧
      t.Reads names (read names delimiter bytes) ∧ u.Reads names (read names delimiter' bytes') := by
  obtain ⟨same, -⟩ := sameCells_of_rearranged moved (single_of_nodup distinct)
  have reads : t.Reads names (read names delimiter bytes) := reads_of_parses here
  have reads' : u.Reads names (read names delimiter' bytes') := reads_of_parses there
  have absences : u.absences names = t.absences names := by
    unfold Sheet.absences Sheet.missing?
    rw [same.lacks]
  exact ⟨by rw [reads'.events, reads.events, absences], sameResult_of_reads same reads reads',
    map_keeps_of_sameCells same, reads, reads'⟩

def plainTable : Bytes := Text.toUtf8 "layer,name\n0,Order\n,\n1\n"

def plainSheet : Sheet := ⟨["layer", "name"], [⟨2, ["0", "Order"]⟩, ⟨3, ["", ""]⟩, ⟨4, ["1"]⟩]⟩

/-- The same cells under columns in another order behind a new one, with names in capitals. -/
def movedTable : Bytes := Text.toUtf8 "Note\tNAME\tLayer\nfirst\tOrder\t0\nsecond\nthird\t\t1\n"

def movedSheet : Sheet :=
  ⟨["Note", "NAME", "Layer"], [⟨2, ["first", "Order", "0"]⟩, ⟨3, ["second"]⟩, ⟨4, ["third", "", "1"]⟩]⟩

theorem parses_plainTable : Parses comma plainTable plainSheet :=
  ⟨by decide +kernel, by decide +kernel⟩

theorem parses_movedTable : Parses tab movedTable movedSheet :=
  ⟨by decide +kernel, by decide +kernel⟩

theorem rearranged_plainSheet : Rearranged .standard plainSheet movedSheet := by
  have turned : Move .standard plainSheet
      ⟨["name", "layer"], [⟨2, ["Order", "0"]⟩, ⟨3, ["", ""]⟩, ⟨4, ["", "1"]⟩]⟩ :=
    .reorder [1, 0] (by decide +kernel) rfl (by unfold EachEntry; decide +kernel)
  have recased : Move .standard
      ⟨["name", "layer"], [⟨2, ["Order", "0"]⟩, ⟨3, ["", ""]⟩, ⟨4, ["", "1"]⟩]⟩
      ⟨["NAME", "Layer"], [⟨2, ["Order", "0"]⟩, ⟨3, ["", ""]⟩, ⟨4, ["", "1"]⟩]⟩ :=
    .recase (by decide +kernel)
  have noted : Move .standard
      ⟨["NAME", "Layer"], [⟨2, ["Order", "0"]⟩, ⟨3, ["", ""]⟩, ⟨4, ["", "1"]⟩]⟩
      ⟨["Note", "NAME", "Layer"],
        [⟨2, ["first", "Order", "0"]⟩, ⟨3, ["second", "", ""]⟩, ⟨4, ["third", "", "1"]⟩]⟩ := by
    have other : Unmapped .standard "Note" := by
      intro c
      cases c <;> decide +kernel
    exact .insert (Nat.zero_le _) other
      (.cons ⟨rfl, "first", rfl⟩ (.cons ⟨rfl, "second", rfl⟩ (.cons ⟨rfl, "third", rfl⟩ .nil)))
  have cut : Move .standard
      ⟨["Note", "NAME", "Layer"],
        [⟨2, ["first", "Order", "0"]⟩, ⟨3, ["second", "", ""]⟩, ⟨4, ["third", "", "1"]⟩]⟩ movedSheet :=
    .cut (.cons ⟨rfl, 0, rfl⟩ (.cons ⟨rfl, 2, rfl⟩ (.cons ⟨rfl, 0, rfl⟩ .nil)))
  exact (((Relation.ReflTransGen.single turned).tail recased).tail noted).tail cut

theorem read_rearranged_movedTable :
    plainSheet.keys.Nodup ∧ Rearranged .standard plainSheet movedSheet ∧
      (read .standard tab movedTable).result.map (·.map Row.index) = .ok [2, 4] ∧
      (read .standard tab movedTable).events = (read .standard comma plainTable).events ∧
      SameResult (read .standard comma plainTable).result (read .standard tab movedTable).result := by
  have distinct : plainSheet.keys.Nodup := by decide +kernel
  have indices : (read .standard tab movedTable).result.map (·.map Row.index) = .ok [2, 4] := by decide +kernel
  obtain ⟨events, result, -⟩ :=
    read_rearranged parses_plainTable parses_movedTable distinct rearranged_plainSheet
  exact ⟨distinct, rearranged_plainSheet, indices, events, result⟩

end ClassTable.Table
