import ClassTable.Text.Case
import ClassTable.Text.UnprintableRanges

set_option autoImplicit false

namespace ClassTable.Text

def isUnprintable (c : Char) : Bool := inRanges unprintableRanges c.toNat

/-- The number of a character in the form `\u` with its hexadecimal digits in braces. -/
def escapeNumber (c : Char) : List Char :=
  ['\\', 'u', '\x7b'] ++ Nat.toDigits 16 c.toNat ++ ['\x7d']

def escapeChar (c : Char) : List Char :=
  match c with
  | '\x00' => ['\\', '0']
  | '\t' => ['\\', 't']
  | '\r' => ['\\', 'r']
  | '\n' => ['\\', 'n']
  | '\\' => ['\\', '\\']
  | '"' => ['\\', '"']
  | c => if isUnprintable c then escapeNumber c else [c]

def quotedChars (cs : List Char) : List Char := '"' :: cs.flatMap escapeChar ++ ['"']

def quoted (s : String) : String := String.ofList (quotedChars s.toList)

/-- A character in single quotes; a double quote stays as it is. -/
def quotedLetter (c : Char) : String :=
  let inner := match c with
    | '\'' => ['\\', '\'']
    | '"' => ['"']
    | c => escapeChar c
  String.ofList ('\'' :: inner ++ ['\''])

end ClassTable.Text
