import ClassTable.Text.Case
import ClassTable.Text.Numeral

set_option autoImplicit false

namespace ClassTable

inductive Column where
  | layer
  | logicalDelete
  | variableName
  | dataType
  | initialValue
  | invariant
  | description
deriving DecidableEq, Repr

namespace Column

def all : List Column :=
  [layer, logicalDelete, variableName, dataType, initialValue, invariant, description]

def key : Column → String
  | layer => "layer"
  | logicalDelete => "logical_delete"
  | variableName => "variable_name"
  | dataType => "data_type"
  | initialValue => "initial_value"
  | invariant => "invariant"
  | description => "description"

end Column

def maxLayer : Nat := 4294967295

inductive RowFault where
  | invalidLayer (row : Nat) (value : String)
  | invalidFlag (row : Nat) (column : Column) (value : String)
  | orphanField (row : Nat) (field : String) (layer : Nat)
  | orphanTable (row layer : Nat)
deriving DecidableEq, Repr

namespace RowFault

def row : RowFault → Nat
  | invalidLayer row _ => row
  | invalidFlag row _ _ => row
  | orphanField row _ _ => row
  | orphanTable row _ => row

def message : RowFault → String
  | invalidLayer row value => "row " ++ toString row ++ ": invalid layer value '" ++ value ++ "'"
  | invalidFlag row column value =>
    "row " ++ toString row ++ ": invalid " ++ column.key ++ " flag '" ++ value ++ "'"
  | orphanField row field layer =>
    "row " ++ toString row ++ ": field '" ++ field ++ "' at layer " ++ toString layer
      ++ " has no enclosing class"
  | orphanTable row layer =>
    "row " ++ toString row ++ ": nested table at layer " ++ toString layer ++ " has no owning field"

end RowFault

structure Row where
  index : Nat
  cells : List (String × String)
deriving DecidableEq, Repr

namespace Row

def empty : Row := ⟨0, []⟩

def setCell (key value : String) : List (String × String) → List (String × String)
  | [] => [(key, value)]
  | cell :: cells => if cell.1 = key then (key, value) :: cells else cell :: setCell key value cells

def set (r : Row) (key value : String) : Row := { r with cells := setCell key value r.cells }

def setColumn (r : Row) (column : Column) (value : String) : Row := r.set column.key value

def withIndex (r : Row) (index : Nat) : Row := { r with index }

def markDeleted (r : Row) : Row := r.setColumn .logicalDelete "true"

def classStart (index layer : Nat) (name description : String) : Row :=
  (((empty.withIndex index).setColumn .layer (toString layer)).setColumn .variableName name).setColumn
    .description description

def field (index layer : Nat) (name dataType : String) (invariant : Bool) : Row :=
  ((((empty.withIndex index).setColumn .layer (toString layer)).setColumn .variableName name).setColumn
    .dataType dataType).setColumn .invariant (if invariant then "true" else "false")

def text (r : Row) (key : String) : String :=
  match r.cells.lookup key with
  | some value => Text.trim value
  | none => ""

def cell (r : Row) (column : Column) : String := r.text column.key

def name (r : Row) : String := r.cell .variableName

def dataType (r : Row) : String := r.cell .dataType

def initialValue (r : Row) : String := r.cell .initialValue

def description (r : Row) : String := r.cell .description

/-- A row is blank when all its cells are, also those under keys that are no column. -/
def isBlank (r : Row) : Bool := r.cells.all fun c => Text.isBlankText c.2

/-- A layer is a decimal numeral up to `maxLayer`. -/
def layer (r : Row) : Except RowFault Nat :=
  match Text.natUpTo? maxLayer (r.cell .layer).toList with
  | some n => .ok n
  | none => .error (.invalidLayer r.index (r.cell .layer))

theorem layer_le {r : Row} {n : Nat} (h : r.layer = .ok n) : n ≤ maxLayer := by
  unfold layer at h
  split at h
  · cases h; exact Text.natUpTo?_le ‹_›
  · cases h

def flagOfText? (s : String) : Option Bool :=
  if s ∈ ["", "false", "no", "n", "0"] then some false
  else if s ∈ ["true", "yes", "y", "1", "x"] then some true
  else none

def flag (r : Row) (column : Column) : Except RowFault Bool :=
  match flagOfText? (Text.lower (r.cell column)) with
  | some b => .ok b
  | none => .error (.invalidFlag r.index column (r.cell column))

def isDeleted (r : Row) : Except RowFault Bool := r.flag .logicalDelete

def isInvariant (r : Row) : Except RowFault Bool := r.flag .invariant

end Row

end ClassTable
