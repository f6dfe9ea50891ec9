import ClassTable.Template.Token
import ClassTable.Text.Blank

/-!
White space around tags.  A tag that does not write and stands alone on its line takes the line with it:
the blanks before it and the line break after it are dropped.  A mark on a tag drops all white space on its
side.
-/

set_option autoImplicit false

namespace ClassTable.Template

def isLineBlank (c : Char) : Bool := c = ' ' || c = '\t'

def isLineEnd (c : Char) : Bool := c = '\n' || c = '\r'

def restOfLineIsBlank (after : List Char) : Bool :=
  match after.dropWhile isLineBlank with
  | c :: _ => isLineEnd c
  | [] => false

/-- Holds when nothing but blanks stands between the last line end, or the start of the source, and here.
The source comes nearest character first. -/
def startOfLineIsBlank (before : List Char) : Bool :=
  match before.dropWhile isLineBlank with
  | c :: _ => isLineEnd c
  | [] => true

def dropRestOfLine (cs : List Char) : List Char :=
  match cs.dropWhile isLineBlank with
  | '\r' :: '\n' :: rest => rest
  | '\n' :: rest => rest
  | rest => rest

namespace PlacedTag

def writes (t : PlacedTag) : Bool :=
  match t.tag with
  | .value _ => true
  | _ => false

def embeds (t : PlacedTag) : Bool :=
  match t.tag with
  | .embed _ => true
  | _ => false

/-- Holds when no more than blanks follow on the line.  The end of the source ends a line, but not for a
tag that puts another template in its place. -/
def endsLine (t : PlacedTag) : Bool :=
  restOfLineIsBlank t.after || (t.after.isEmpty && !t.embeds)

/-- Holds of a tag that takes its line with it. -/
def standsAlone (t : PlacedTag) : Bool := !t.writes && t.endsLine && startOfLineIsBlank t.before

def trimText (t : PlacedTag) (cs : List Char) : List Char :=
  if t.dropBefore then Text.dropBlankEnd cs
  else if t.standsAlone then Text.dropEndWhile isLineBlank cs
  else cs

def indent (t : PlacedTag) : List Char := (t.before.takeWhile isLineBlank).reverse

end PlacedTag

/-- What tags left to do for the text that comes: drop its white space, or the rest of the line. -/
structure Pending where
  dropAfter : Bool
  dropLine : Bool

namespace Pending

def trimText (p : Pending) (cs : List Char) : List Char :=
  if p.dropAfter then Text.dropBlank cs
  else if p.dropLine then dropRestOfLine cs
  else cs

/-- White space that is dropped altogether keeps the line pending. -/
def afterText (p : Pending) (cs : List Char) : Pending :=
  { p with dropLine := p.dropLine && p.dropAfter && cs.all Json.isSpace }

def afterTag (p : Pending) (t : PlacedTag) : Pending :=
  { dropAfter := if t.tag == .comment then p.dropAfter else t.dropAfter
    dropLine := if t.writes then p.dropLine else t.standsAlone }

end Pending

def trimTexts (p : Pending) : List Token → List Token
  | [] => []
  | .tag t :: rest => .tag t :: trimTexts (p.afterTag t) rest
  | .text cs :: rest =>
    let trimmed := match rest with
      | .tag t :: _ => t.trimText (p.trimText cs)
      | _ => p.trimText cs
    .text trimmed :: trimTexts (p.afterText cs) rest

end ClassTable.Template
