import ClassTable.Json

set_option autoImplicit false

namespace ClassTable.Template

/-- A step of a path.  `up` leaves a block, `root` goes to the data of the whole run, `data` asks for a
variable of the block such as the index of an iteration. -/
inductive Segment where
  | up
  | root
  | data
  | key (name : String)
deriving BEq, Repr, Inhabited

/-- Expressions of tags.  A name stands only for a function; a path keeps the text it was written as. -/
inductive Expr where
  | name (s : String)
  | path (raw : String) (segments : List Segment)
  | literal (value : Json)
  | call (head : Expr) (args : List Expr) (named : List (String × Expr))
deriving BEq, Repr, Inhabited

inductive Node where
  | text (s : String)
  | value (call : Expr)
  /-- A block around a body, with names for what the body receives and a body for the other case.
  `alone` holds of a tag that stands alone on its line. -/
  | block (call : Expr) (binders : List String) (alone : Bool) (body : List Node)
      (inverse : Option (List Node))
  /-- Another template in place, its lines after the first moved by `indent`. -/
  | embed (call : Expr) (alone : Bool) (indent : String) (fallback : Option (List Node))
  | directive (call : Expr) (body : Option (List Node))
deriving BEq, Repr, Inhabited

def Expr.label : Expr → String
  | name s => s
  | path raw _ => raw
  | literal _ => ""
  | call head _ _ => head.label

end ClassTable.Template
