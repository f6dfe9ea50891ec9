import ClassTable.Text.Quoted

set_option autoImplicit false

namespace ClassTable.Template

inductive Fault where
  | templateUnknown (name : String)
  /-- A value that is not there, with the path that asked for it if there was one. -/
  | valueMissing (path : Option String)
  | partialUnknown (name : String)
  | includesItself
  | functionUnknown (name : String)
  | directiveUnknown (name : String)
  | argumentMissing (function : String) (index : Nat)
  | parameterMissing (function parameter : String)
  | parameterType (function parameter type : String)
  | argumentType (type : String)
  | bodyMissing
  | indexNotNumeric (key : String)
  | levelUnknown (level : String)
  | nestedTooDeep
deriving DecidableEq, Repr

namespace Fault

def message : Fault → String
  | templateUnknown name => "Template not found " ++ name
  | valueMissing none => "Failed to access variable in strict mode None"
  | valueMissing (some path) =>
    "Failed to access variable in strict mode Some(" ++ Text.quoted path ++ ")"
  | partialUnknown name => "Partial not found " ++ name
  | includesItself => "Can not include current template in partial"
  | functionUnknown name => "Helper not found " ++ name
  | directiveUnknown name => "Decorator not found " ++ name
  | argumentMissing function index =>
    "Helper/Decorator " ++ function ++ " param at index " ++ toString index
      ++ " required but not found"
  | parameterMissing function parameter =>
    "Helper/Decorator " ++ function ++ " param with name " ++ parameter ++ " required but not found"
  | parameterType function parameter type =>
    "Helper/Decorator " ++ function ++ " param with name " ++ parameter ++ " type mismatch for " ++ type
  | argumentType type => "Invalid param type, " ++ type ++ " expected"
  | bodyMissing => "Block content required"
  | indexNotNumeric key => "Cannot access array/vector with string index, " ++ key
  | levelUnknown level => "Invalid logging level: " ++ level
  | nestedTooDeep => "Templates are nested too deeply"

end Fault

end ClassTable.Template
