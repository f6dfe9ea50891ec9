import ClassTable.Template.Lines

set_option autoImplicit false

namespace ClassTable.Template

def startsLineEnd (cs : List Char) : Bool :=
  match cs with
  | c :: _ => isLineEnd c
  | [] => false

/-- Puts the indent after each line feed that is not the last character. -/
def indentLines (indent : List Char) : List Char → List Char
  | [] => []
  | c :: rest =>
    if c = '\n' ∧ !rest.isEmpty then c :: indent ++ indentLines indent rest
    else c :: indentLines indent rest

/-- The text so far, whether the next piece starts an indented line, whether anything was written, and
whether the last piece ended a line. -/
structure Writer where
  text : String
  indentNext : Bool
  produced : Bool
  atLineStart : Bool
deriving Repr, DecidableEq

namespace Writer

def empty : Writer := ⟨"", false, false, false⟩

def write (w : Writer) (indent piece : String) : Writer :=
  let cs := piece.toList
  if cs.isEmpty then w
  else
    let front := if w.indentNext && !startsLineEnd cs then indent else ""
    let body := if indent.isEmpty then piece else String.ofList (indentLines indent.toList cs)
    let ended := (cs.getLast?.map isLineEnd).getD false
    ⟨w.text ++ front ++ body, ended, true, ended⟩

def enter (w : Writer) (indentNext : Bool) : Writer := { w with produced := false, indentNext }

def leave (outer inner : Writer) : Writer :=
  if inner.produced then { inner with indentNext := inner.atLineStart }
  else { inner with produced := outer.produced, indentNext := outer.indentNext }

end Writer

end ClassTable.Template
