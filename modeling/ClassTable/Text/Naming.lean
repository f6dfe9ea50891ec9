import ClassTable.Text.Case
import ClassTable.Text.LetterRanges

set_option autoImplicit false

namespace ClassTable.Text

def isNumeric (c : Char) : Bool :=
  if isAscii c then c.isDigit else inRanges numericRanges c.toNat

def isAlphanumeric (c : Char) : Bool :=
  if isAscii c then c.isAlphanum else inRanges alphabeticRanges c.toNat || isNumeric c

def isUppercase (c : Char) : Bool :=
  if isAscii c then c.isUpper else inRanges uppercaseRanges c.toNat

def isLowercase (c : Char) : Bool :=
  if isAscii c then c.isLower else inRanges lowercaseRanges c.toNat

/-- What the rewriting of a name remembers: whether the next letter starts a word, the last letter that
did not start one, and whether anything was written yet. -/
structure WordState where
  newWord : Bool
  last : Char
  started : Bool

/-- One step of the rewriting: the letters written and the state after it.  Only ASCII letters change
case. -/
def WordState.step (s : WordState) (c : Char) : List Char × WordState :=
  if !isAlphanumeric c then ([], { s with newWord := s.newWord || s.started })
  else if isNumeric c then ([c], { s with newWord := true, started := true })
  else if s.newWord || (isLowercase s.last && isUppercase c) then
    ([c.toUpper], { s with newWord := false, started := true })
  else ([c.toLower], ⟨s.newWord, c, true⟩)

def joinWords (s : WordState) : List Char → List Char
  | [] => []
  | c :: cs => (s.step c).1 ++ joinWords (s.step c).2 cs

def toWords (capital : Bool) (cs : List Char) : List Char :=
  joinWords ⟨capital, ' ', false⟩ (dropEndWhile (fun c => !isAlphanumeric c) cs)

def isPascalCase (s : String) : Bool := toWords true s.toList == s.toList

def isCamelCase (s : String) : Bool := toWords false s.toList == s.toList

def getterName (member : String) : String := "get" ++ upperFirst member

end ClassTable.Text
