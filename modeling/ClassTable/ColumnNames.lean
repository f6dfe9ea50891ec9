import ClassTable.Json
import ClassTable.Row

set_option autoImplicit false

namespace ClassTable

structure ColumnNames where
  layer : String
  logicalDelete : String
  variableName : String
  dataType : String
  initialValue : String
  invariant : String
  description : String
deriving DecidableEq, Repr

namespace ColumnNames

def standard : ColumnNames :=
  { layer := "layer"
    logicalDelete := "deleted"
    variableName := "name"
    dataType := "type"
    initialValue := "initial"
    invariant := "required"
    description := "description" }

def get (names : ColumnNames) : Column → String
  | .layer => names.layer
  | .logicalDelete => names.logicalDelete
  | .variableName => names.variableName
  | .dataType => names.dataType
  | .initialValue => names.initialValue
  | .invariant => names.invariant
  | .description => names.description

def ofFun (f : Column → String) : ColumnNames :=
  ⟨f .layer, f .logicalDelete, f .variableName, f .dataType, f .initialValue, f .invariant,
    f .description⟩

def set (names : ColumnNames) (column : Column) (name : String) : ColumnNames :=
  ofFun fun c => if c = column then name else names.get c

theorem ofFun_get (names : ColumnNames) : ofFun names.get = names := rfl

theorem get_ofFun (f : Column → String) (c : Column) : (ofFun f).get c = f c := by
  cases c <;> rfl

def mapping (names : ColumnNames) : List (Column × String) :=
  Column.all.map fun c => (c, names.get c)

def toJson (names : ColumnNames) : Json :=
  .ofMembers (names.mapping.map fun (c, name) => (c.key, .str name))

end ColumnNames

end ClassTable
