import ClassTable.Proofs.Step
import ClassTable.Table

/-!
Which line of a table a row comes from.  A reader notes the line at which it starts on a record, and line ends
in front of the text of the record are read after that.  So the index of a row is short of the line of its
text by the line feeds in between (`row_index_of_read`), and right exactly where there are none.
-/

set_option autoImplicit false

namespace ClassTable

namespace Table

open Text (Bytes)

/-- The line of a byte of a table, counted from one. -/
def lineAt (table : Bytes) (offset : Nat) : Nat := 1 + countLineFeeds (table.take offset)

/-- The line ends in front of the text of a record. -/
def Record.lead (table : Bytes) (r : Record) : Bytes := (table.drop r.position.byte).takeWhile isTerminator

def Record.textStart (table : Bytes) (r : Record) : Nat := r.position.byte + (r.lead table).length

/-- The position of a record is one of the table, and its fields are what stands there. -/
structure Record.FoundIn (delimiter : UInt8) (table : Bytes) (r : Record) : Prop where
  line : r.position.line = lineAt table r.position.byte
  fields : r.fields = (readFields delimiter .start [] (table.drop (r.textStart table))).1

section Positions

variable {delimiter : UInt8} {table before bytes : Bytes} {position : Position} {r : Record}

theorem countLineFeeds_append (xs ys : Bytes) :
    countLineFeeds (xs ++ ys) = countLineFeeds xs + countLineFeeds ys := List.countP_append

theorem lineAt_add (table : Bytes) (offset n : Nat) :
    lineAt table (offset + n) = lineAt table offset + countLineFeeds ((table.drop offset).take n) := by
  unfold lineAt
  rw [List.take_add, countLineFeeds_append]
  omega

theorem Record.lineAt_textStart (table : Bytes) (r : Record) :
    lineAt table (r.textStart table) = lineAt table r.position.byte + countLineFeeds (r.lead table) := by
  have lead : (table.drop r.position.byte).take (r.lead table).length = r.lead table :=
    List.prefix_iff_eq_take.1 (List.takeWhile_prefix isTerminator) |>.symm
  rw [textStart, lineAt_add, lead]

theorem countLineFeeds_eq_zero_iff : countLineFeeds bytes = 0 ↔ lineFeed ∉ bytes := by
  unfold countLineFeeds
  rw [List.countP_eq_zero]
  constructor
  · intro none mem
    exact none lineFeed mem (by decide)
  · intro absent b mem same
    exact absent (beq_iff_eq.1 same ▸ mem)

theorem readFields_suffix (state : FieldState) (field bytes : Bytes) :
    (readFields delimiter state field bytes).2 <:+ bytes := by
  induction bytes generalizing state field with
  | nil => exact List.suffix_refl []
  | cons b rest ih =>
    have further : ∀ state field, (readFields delimiter state field rest).2 <:+ b :: rest :=
      fun state field => (ih state field).trans (List.suffix_cons b rest)
    rw [readFields]
    split_ifs
    · exact further _ _
    · exact further _ _
    · exact further _ _
    · exact further _ _
    · exact further _ _
    · exact List.suffix_cons b rest
    · exact further _ _

theorem foundIn_of_recordsFrom (delimiter : UInt8) (table : Bytes) (position : Position) (bytes : Bytes) :
    ∀ before, table = before ++ bytes → position.byte = before.length →
      position.line = lineAt table before.length →
      ∀ r ∈ recordsFrom delimiter position bytes, r.FoundIn delimiter table := by
  fun_induction recordsFrom delimiter position bytes with
  | case1 => exact fun _ _ _ _ r mem => absurd mem List.not_mem_nil
  | case2 position bytes b text isText found taken next ih =>
    intro before split byte line
    -- The bytes taken for this record go to what is in front of the rest, and its position with them.
    have drop : table.drop before.length = bytes := by rw [split, List.drop_left]
    have suffix : found.2 <:+ bytes :=
      (readFields_suffix _ _ _).trans (isText ▸ List.dropWhile_suffix isTerminator)
    obtain ⟨read, whole⟩ := suffix
    have taken_eq : taken = read := by
      change bytes.take (bytes.length - found.2.length) = read
      rw [← whole, List.length_append, Nat.add_sub_cancel, List.take_left]
    have takes : (table.drop before.length).take taken.length = taken := by
      rw [drop, taken_eq, ← whole, List.take_left]
    intro r mem
    rcases List.mem_cons.1 mem with rfl | mem
    · have lead : (table.drop position.byte).takeWhile isTerminator = bytes.takeWhile isTerminator := by
        rw [byte, drop]
      refine ⟨byte ▸ line, ?_⟩
      have parts : bytes.takeWhile isTerminator ++ b :: text = bytes := by
        rw [← isText]
        exact List.takeWhile_append_dropWhile
      have start : table.drop (position.byte + (bytes.takeWhile isTerminator).length) = b :: text := by
        rw [← List.drop_drop, byte, drop]
        calc
          bytes.drop (bytes.takeWhile isTerminator).length =
              (bytes.takeWhile isTerminator ++ b :: text).drop (bytes.takeWhile isTerminator).length := by
            rw [parts]
          _ = b :: text := List.drop_left
      rw [Record.textStart, Record.lead, lead, start]
    · refine ih (before ++ taken) ?_ ?_ ?_ r mem
      · rw [taken_eq, List.append_assoc, whole, split]
      · rw [List.length_append, ← byte]
      · rw [List.length_append, lineAt_add, takes, ← line]

theorem dropMark_suffix (table : Bytes) :
    ∃ mark, table = mark ++ dropMark table ∧ countLineFeeds mark = 0 := by
  unfold dropMark
  split
  · next marked =>
    obtain ⟨text, rfl⟩ := List.isPrefixOf_iff_prefix.1 marked
    exact ⟨byteOrderMark, by rw [List.drop_left], by decide⟩
  · exact ⟨[], rfl, rfl⟩

theorem foundIn_of_records (delimiter : UInt8) (table : Bytes) :
    ∀ r ∈ (records delimiter table).tail, r.FoundIn delimiter table := by
  obtain ⟨mark, split, noFeed⟩ := dropMark_suffix table
  have size : table.length - (dropMark table).length = mark.length := by
    have total := congrArg List.length split
    rw [List.length_append] at total
    omega
  have first : (1 : Nat) = lineAt table mark.length := by
    rw [lineAt, split, List.take_left, noFeed]
  have found := foundIn_of_recordsFrom delimiter table
    ⟨table.length - (dropMark table).length, 1, 0⟩ (dropMark table) mark split size first
  unfold records
  dsimp only
  cases all : recordsFrom delimiter ⟨table.length - (dropMark table).length, 1, 0⟩ (dropMark table) with
  | nil => exact fun r mem => absurd mem List.not_mem_nil
  | cons header rows =>
    rw [all] at found
    exact fun r mem => found r (List.mem_cons_of_mem header mem)

end Positions

section Rows

variable {columns : List (Column × Nat)} {all : List Record} {rows : List Row}

def IsRowOf (columns : List (Column × Nat)) (row : Row) (r : Record) : Prop :=
  ∃ texts, values r = .ok texts ∧ row = rowOf columns r.position.line texts

theorem isRowOf_of_readRows (read : readRows columns all = .ok rows) :
    ∃ kept, kept.Sublist all ∧ List.Forall₂ (IsRowOf columns) rows kept := by
  induction all generalizing rows with
  | nil =>
    cases read
    exact ⟨[], .slnil, .nil⟩
  | cons r all ih =>
    obtain ⟨texts, decoded, read⟩ := except_bind_eq_ok.1 read
    obtain ⟨others, more, read⟩ := except_bind_eq_ok.1 read
    obtain ⟨kept, sub, same⟩ := ih more
    cases read
    split
    · exact ⟨kept, sub.cons r, same⟩
    · exact ⟨r :: kept, sub.cons_cons r, .cons ⟨texts, decoded, rfl⟩ same⟩

variable {names : ColumnNames} {delimiter : UInt8} {table : Bytes}

theorem isRowOf_of_read (found : (read names delimiter table).result = .ok rows) :
    ∃ columns kept, kept.Sublist (records delimiter table).tail ∧
      List.Forall₂ (IsRowOf columns) rows kept := by
  obtain ⟨header, -, found⟩ := Logged.result_bind_eq_ok.1 found
  obtain ⟨columns, -, found⟩ := Logged.result_bind_eq_ok.1 found
  exact ⟨columns, isRowOf_of_readRows found⟩

/-- What the index of a row says about the place of its record in the table. -/
structure Placed (delimiter : UInt8) (table : Bytes) (row : Row) (r : Record) : Prop where
  found : r.FoundIn delimiter table
  short : row.index + countLineFeeds (r.lead table) = lineAt table (r.textStart table)
  onLine_iff : row.index = lineAt table (r.textStart table) ↔ lineFeed ∉ r.lead table

theorem placed_of_isRowOf {row : Row} {r : Record} (found : r.FoundIn delimiter table)
    (same : IsRowOf columns row r) : Placed delimiter table row r := by
  obtain ⟨texts, -, rfl⟩ := same
  have line : (rowOf columns r.position.line texts).index = lineAt table r.position.byte := found.line
  have start := Record.lineAt_textStart table r
  refine ⟨found, by rw [line, start], ?_⟩
  rw [line, start, ← countLineFeeds_eq_zero_iff]
  omega

theorem forall₂_placed {kept : List Record} (same : List.Forall₂ (IsRowOf columns) rows kept)
    (found : ∀ r ∈ kept, r.FoundIn delimiter table) :
    List.Forall₂ (fun row r => IsRowOf columns row r ∧ Placed delimiter table row r) rows kept := by
  induction same with
  | nil => exact .nil
  | cons here _ ih =>
    obtain ⟨first, rest⟩ := List.forall_mem_cons.1 found
    exact .cons ⟨here, placed_of_isRowOf first here⟩ (ih rest)

end Rows

/-- Each row stands for a record, in the order of the table.  Its index is the line of the record's text less
the line feeds skipped in front of that text, so it is the line itself exactly where none are skipped; a fault
of a build carries the index of one of the rows. -/
theorem row_index_of_read {names : ColumnNames} {delimiter : UInt8} {table : Bytes} {rows : List Row}
    (found : (read names delimiter table).result = .ok rows) :
    (∃ columns kept, kept.Sublist (records delimiter table).tail ∧
      List.Forall₂ (fun row r => IsRowOf columns row r ∧ Placed delimiter table row r) rows kept) ∧
    ∀ base fault, (buildForest base rows).result = .error fault → ∃ row ∈ rows, fault.row = row.index := by
  obtain ⟨columns, kept, sub, same⟩ := isRowOf_of_read found
  have placed : ∀ r ∈ kept, r.FoundIn delimiter table := fun r mem =>
    foundIn_of_records delimiter table r (sub.subset mem)
  exact ⟨⟨columns, kept, sub, forall₂_placed same placed⟩, fun _ _ => row_of_buildForest_error⟩

def quotedTable : Bytes := Text.toUtf8 "layer,name\n0,\"Or\nder\"\n1,id\n"

theorem row_index_quotedTable :
    ∃ rows, (read .standard comma quotedTable).result = .ok rows ∧ rows.map Row.index = [2, 4] ∧
      ∃ columns kept, kept.Sublist (records comma quotedTable).tail ∧
        List.Forall₂ (fun row r => IsRowOf columns row r ∧ Placed comma quotedTable row r) rows kept := by
  have found : ((read .standard comma quotedTable).result.map fun rows => rows.map Row.index) = .ok [2, 4] := by
    decide +kernel
  cases result : (read .standard comma quotedTable).result with
  | error fault => simp [result, Except.map] at found
  | ok rows =>
    rw [result] at found
    exact ⟨rows, rfl, Except.ok.inj found, (row_index_of_read result).1⟩

def twoByteTable : Bytes := Text.toUtf8 "layer,name\r\n0,Order\r\none,id\r\n"

def twoByteRows : List Row :=
  [⟨1, [("layer", "0"), ("variable_name", "Order")]⟩, ⟨2, [("layer", "one"), ("variable_name", "id")]⟩]

def twoByteRecords : List Record :=
  [⟨⟨11, 1, 1⟩, [Text.toUtf8 "0", Text.toUtf8 "Order"]⟩, ⟨⟨20, 2, 2⟩, [Text.toUtf8 "one", Text.toUtf8 "id"]⟩]

/-- The row behind the header carries the line of the header, because the line feed between them is read with
the row, and each later row the line of the row before it. -/
theorem row_index_twoByteTable :
    ¬∀ (names : ColumnNames) (delimiter : UInt8) (table : Bytes) (rows : List Row),
      (read names delimiter table).result = .ok rows →
        ∃ kept, kept.Sublist (records delimiter table).tail ∧
          List.Forall₂ (fun row r => row.index = lineAt table (r.textStart table)) rows kept := by
  intro onLines
  have found : (read .standard comma twoByteTable).result = .ok twoByteRows := by decide +kernel
  have tail : (records comma twoByteTable).tail = twoByteRecords := by decide +kernel
  obtain ⟨kept, sub, same⟩ := onLines _ _ _ _ found
  rw [tail] at sub
  have all : kept = twoByteRecords := sub.eq_of_length same.length_eq.symm
  rw [all] at same
  cases same with
  | cons here _ => exact absurd here (by decide +kernel)

end Table
end ClassTable
