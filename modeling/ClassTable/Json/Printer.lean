import ClassTable.Json

set_option autoImplicit false

namespace ClassTable.Json

def hexDigit (n : Nat) : Char := (Nat.toDigits 16 n).getLastD '0'

def escapeChar (c : Char) : List Char :=
  match c with
  | '"' => ['\\', '"']
  | '\\' => ['\\', '\\']
  | '\n' => ['\\', 'n']
  | '\r' => ['\\', 'r']
  | '\t' => ['\\', 't']
  | '\x08' => ['\\', 'b']
  | '\x0c' => ['\\', 'f']
  | c =>
    if c.toNat < 0x20 then ['\\', 'u', '0', '0', hexDigit (c.toNat / 16), hexDigit (c.toNat % 16)]
    else [c]

def quoteChars (cs : List Char) : List Char := '"' :: cs.flatMap escapeChar ++ ['"']

def quote (s : String) : String := String.ofList (quoteChars s.toList)

mutual

def compact : Json → String
  | null => "null"
  | bool b => if b then "true" else "false"
  | num n => n.text
  | str s => quote s
  | arr items => "[" ++ compactItems "" items ++ "]"
  | obj members => "\x7b" ++ compactMembers "" members ++ "\x7d"

def compactItems (separator : String) : List Json → String
  | [] => ""
  | item :: rest => separator ++ compact item ++ compactItems "," rest

def compactMembers (separator : String) : List (String × Json) → String
  | [] => ""
  | (key, value) :: rest =>
    separator ++ quote key ++ ":" ++ compact value ++ compactMembers "," rest

end

mutual

/-- The indented text of a value whose lines after the first start with `margin`. -/
def prettyAt (margin : String) : Json → String
  | null => "null"
  | bool b => if b then "true" else "false"
  | num n => n.text
  | str s => quote s
  | arr [] => "[]"
  | arr (item :: rest) => "[" ++ prettyItems (margin ++ "  ") "\n" (item :: rest) ++ "\n" ++ margin ++ "]"
  | obj [] => "\x7b\x7d"
  | obj (m :: rest) =>
    "\x7b" ++ prettyMembers (margin ++ "  ") "\n" (m :: rest) ++ "\n" ++ margin ++ "\x7d"

def prettyItems (margin separator : String) : List Json → String
  | [] => ""
  | item :: rest => separator ++ margin ++ prettyAt margin item ++ prettyItems margin ",\n" rest

def prettyMembers (margin separator : String) : List (String × Json) → String
  | [] => ""
  | (key, value) :: rest =>
    separator ++ margin ++ quote key ++ ": " ++ prettyAt margin value
      ++ prettyMembers margin ",\n" rest

end

def pretty (j : Json) : String := prettyAt "" j

end ClassTable.Json
