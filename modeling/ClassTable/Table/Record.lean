import ClassTable.Text.Blank
import ClassTable.Text.Utf8

/-!
Tables as bytes: records of fields between delimiters.  A record ends at a line feed or a carriage return,
and line ends in front of a record are skipped.  A quote is special only as the first byte of a field; in a
quoted field delimiters and line ends are data, and a quote is written twice.
-/

set_option autoImplicit false

namespace ClassTable.Table

open Text (Bytes)

/-- Where a record is found: its first byte, its line counted from one, and its number counted from zero.
Line ends in front of a record count as part of it. -/
structure Position where
  byte : Nat
  line : Nat
  number : Nat
deriving DecidableEq, Repr

structure Record where
  position : Position
  fields : List Bytes
deriving DecidableEq, Repr

def quoteByte : UInt8 := 0x22

def lineFeed : UInt8 := 0x0A

def carriageReturn : UInt8 := 0x0D

def isTerminator (b : UInt8) : Bool := b == lineFeed || b == carriageReturn

/-- How far into a field a reader is: at its first byte, in it, in quotes, or right after a quote that
may have closed them. -/
inductive FieldState where
  | start
  | plain
  | quoted
  | afterQuote
deriving DecidableEq, Repr

/-- The fields of a record from inside one whose bytes so far are `field`, last byte first, and the bytes
after the record. -/
def readFields (delimiter : UInt8) (state : FieldState) (field : Bytes) :
    Bytes → List Bytes × Bytes
  | [] => ([field.reverse], [])
  | b :: rest =>
    if state = .quoted then
      if b = quoteByte then readFields delimiter .afterQuote field rest
      else readFields delimiter .quoted (b :: field) rest
    else if b = quoteByte ∧ state = .start then readFields delimiter .quoted field rest
    else if b = quoteByte ∧ state = .afterQuote then readFields delimiter .quoted (b :: field) rest
    else if b = delimiter then
      let (fields, rest) := readFields delimiter .start [] rest
      (field.reverse :: fields, rest)
    else if isTerminator b then ([field.reverse], rest)
    else readFields delimiter .plain (b :: field) rest

def countLineFeeds (bytes : Bytes) : Nat := bytes.countP (· == lineFeed)

theorem length_readFields_le (delimiter : UInt8) (state : FieldState) (field bytes : Bytes) :
    (readFields delimiter state field bytes).2.length ≤ bytes.length := by
  fun_induction readFields delimiter state field bytes <;> grind

theorem length_readFields_lt (delimiter : UInt8) (state : FieldState) (field : Bytes) (b : UInt8)
    (rest : Bytes) :
    (readFields delimiter state field (b :: rest)).2.length < (b :: rest).length := by
  have h := fun state field => length_readFields_le delimiter state field rest
  rw [readFields]
  grind

def recordsFrom (delimiter : UInt8) (position : Position) (bytes : Bytes) : List Record :=
  match _isText : bytes.dropWhile isTerminator with
  | [] => []
  | b :: text =>
    let found := readFields delimiter .start [] (b :: text)
    let taken := bytes.take (bytes.length - found.2.length)
    let next : Position :=
      ⟨position.byte + taken.length, position.line + countLineFeeds taken, position.number + 1⟩
    ⟨position, found.1⟩ :: recordsFrom delimiter next found.2
termination_by bytes.length
decreasing_by
  have h := length_readFields_lt delimiter .start [] b text
  have h' := (List.dropWhile_sublist isTerminator (l := bytes)).length_le
  rw [_isText] at h'
  omega

def byteOrderMark : Bytes := [0xEF, 0xBB, 0xBF]

def dropMark (bytes : Bytes) : Bytes :=
  if byteOrderMark.isPrefixOf bytes then bytes.drop byteOrderMark.length else bytes

/-- The records of a table.  A byte order mark in front is skipped and belongs to the first record. -/
def records (delimiter : UInt8) (bytes : Bytes) : List Record :=
  let text := dropMark bytes
  match recordsFrom delimiter ⟨bytes.length - text.length, 1, 0⟩ text with
  | [] => []
  | header :: rows => { header with position := ⟨0, 1, 0⟩ } :: rows

end ClassTable.Table
