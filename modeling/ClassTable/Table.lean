import ClassTable.ColumnNames
import ClassTable.Log
import ClassTable.Table.Record

set_option autoImplicit false

namespace ClassTable

open Text (Bytes)

namespace Table

inductive Fault where
  /-- A field of a record is no UTF-8 from some byte of it on. -/
  | undecodable (position : Position) (field index : Nat)
  | missingColumn (column : Column) (header : String)
deriving DecidableEq, Repr

def undecodableText (p : Position) (field index : Nat) : String :=
  "CSV parse error: record " ++ toString p.number ++ " (line " ++ toString p.line ++ ", field: "
    ++ toString field ++ ", byte: " ++ toString p.byte ++ "): invalid utf-8: invalid UTF-8 in field "
    ++ toString field ++ " near byte index " ++ toString index

def Fault.message : Fault → String
  | undecodable p field index =>
    "failed to parse definition table: " ++ undecodableText p field index
  | missingColumn column header =>
    "required column '" ++ header ++ "' (" ++ column.key ++ ") not found in header row"

def isRequired (c : Column) : Bool := c == .layer || c == .variableName

/-- White space that is one byte; the vertical tab does not count. -/
def isByteBlank (b : UInt8) : Bool := b == 0x20 || b == 0x09 || b == 0x0A || b == 0x0C || b == 0x0D

def trimBytes (bytes : Bytes) : Bytes :=
  (((bytes.dropWhile isByteBlank).reverse).dropWhile isByteBlank).reverse

def decodeFields (position : Position) (n : Nat) : List Bytes → Except Fault (List String)
  | [] => .ok []
  | field :: rest =>
    match Text.ofUtf8 field with
    | .error index => .error (.undecodable position n index)
    | .ok s => do pure (Text.trim s :: (← decodeFields position (n + 1) rest))

/-- The names in a header record, in the form in which they are compared. -/
def headerNames (header : Record) : Except Fault (List String) := do
  let names ← decodeFields header.position 0 header.fields
  pure (names.map fun s =>
    Text.lower (Text.trim (String.ofList (s.toList.dropWhile (· == '\ufeff')))))

def values (r : Record) : Except Fault (List String) :=
  decodeFields r.position 0 (r.fields.map trimBytes)

/-- Finds columns in a header; each column comes with the number of its field. -/
def findColumns (header : List String) : List (Column × String) → Logged Fault (List (Column × Nat))
  | [] => pure []
  | (column, name) :: rest =>
    match header.idxOf? (Text.lower (Text.trim name)) with
    | some i => do
      let found ← findColumns header rest
      pure ((column, i) :: found)
    | none =>
      if isRequired column then .fail (.missingColumn column name)
      else do
        .tell [.columnAbsent name column.key]
        findColumns header rest

/-- The row of a record: its index is the line of the record, its cells are those of the columns. -/
def rowOf (columns : List (Column × Nat)) (line : Nat) (values : List String) : Row :=
  ⟨line, columns.filterMap fun (column, i) => (values[i]?).map (column.key, ·)⟩

def readRows (columns : List (Column × Nat)) : List Record → Except Fault (List Row)
  | [] => .ok []
  | r :: rest => do
    let row := rowOf columns r.position.line (← values r)
    let rows ← readRows columns rest
    pure (if row.isBlank then rows else row :: rows)

def comma : UInt8 := 0x2C

def tab : UInt8 := 0x09

def read (names : ColumnNames) (delimiter : UInt8) (bytes : Bytes) : Logged Fault (List Row) := do
  let all := records delimiter bytes
  let header ← .ofExcept ((all.head?.map headerNames).getD (.ok []))
  let columns ← findColumns header names.mapping
  .ofExcept (readRows columns all.tail)

end Table

end ClassTable
