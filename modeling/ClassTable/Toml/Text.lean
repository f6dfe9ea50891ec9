set_option autoImplicit false

namespace ClassTable.Toml

def isInlineBlank (c : Char) : Bool := c = ' ' || c = '\t'

/-- Characters that may stand in comments and texts: all but the controls, the tab aside. -/
def isPlain (c : Char) : Bool := c = '\t' || (0x20 ≤ c.toNat && c.toNat ≠ 0x7F)

def skipBlanks (cs : List Char) : List Char := cs.dropWhile isInlineBlank

def afterBreak? : List Char → Option (List Char)
  | '\n' :: rest => some rest
  | '\r' :: '\n' :: rest => some rest
  | _ => none

def startsBreak (cs : List Char) : Bool := (afterBreak? cs).isSome

def skipComment : List Char → List Char
  | '#' :: rest => rest.dropWhile isPlain
  | cs => cs

def afterLine? (cs : List Char) : Option (List Char) :=
  match skipComment (skipBlanks cs) with
  | [] => some []
  | rest => afterBreak? rest

/-- Skips blanks, line breaks and comments; `comment` tells whether a comment is open. -/
def skipFill (comment : Bool) : List Char → List Char
  | [] => []
  | c :: rest =>
    if startsBreak (c :: rest) then skipFill false rest
    else if comment && isPlain c then skipFill true rest
    else if comment then c :: rest
    else if isInlineBlank c then skipFill false rest
    else if c = '#' then skipFill true rest
    else c :: rest

def hexDigit? (c : Char) : Option Nat :=
  if c.isDigit then some (c.toNat - '0'.toNat)
  else if 'a' ≤ c ∧ c ≤ 'f' then some (c.toNat - 'a'.toNat + 10)
  else if 'A' ≤ c ∧ c ≤ 'F' then some (c.toNat - 'A'.toNat + 10)
  else none

def charOfHex? (digits : List Char) : Option Char := do
  let values ← digits.mapM hexDigit?
  let n := values.foldl (fun n v => 16 * n + v) 0
  if n.isValidChar then some (Char.ofNat n) else none

def simpleEscape? : Char → Option Char
  | 'b' => some '\x08'
  | 't' => some '\t'
  | 'n' => some '\n'
  | 'f' => some '\x0c'
  | 'r' => some '\r'
  | '"' => some '"'
  | '\\' => some '\\'
  | _ => none

def consChar (c : Char) (read : List Char × List Char) : List Char × List Char := (c :: read.1, read.2)

def readEscaped? : List Char → Option (List Char × List Char)
  | [] => none
  | '"' :: rest => some ([], rest)
  | '\\' :: 'u' :: a :: b :: c :: d :: rest => do
    let char ← charOfHex? [a, b, c, d]
    consChar char <$> readEscaped? rest
  | '\\' :: 'U' :: a :: b :: c :: d :: e :: f :: g :: h :: rest => do
    let char ← charOfHex? [a, b, c, d, e, f, g, h]
    consChar char <$> readEscaped? rest
  | '\\' :: e :: rest => do
    let char ← simpleEscape? e
    consChar char <$> readEscaped? rest
  | c :: rest => if isPlain c then consChar c <$> readEscaped? rest else none

def readLiteral? : List Char → Option (List Char × List Char)
  | [] => none
  | '\'' :: rest => some ([], rest)
  | c :: rest => if isPlain c then consChar c <$> readLiteral? rest else none

/-- The rest of a text in three double quotes.  After a backslash at the end of a line, blanks and line
breaks are skipped; `skipping` holds while they are. -/
def readEscapedLines? (skipping : Bool) : List Char → Option (List Char × List Char)
  | [] => none
  | '"' :: '"' :: '"' :: '"' :: '"' :: rest => some (['"', '"'], rest)
  | '"' :: '"' :: '"' :: '"' :: rest => some (['"'], rest)
  | '"' :: '"' :: '"' :: rest => some ([], rest)
  | '\\' :: 'u' :: a :: b :: c :: d :: rest => do
    let char ← charOfHex? [a, b, c, d]
    consChar char <$> readEscapedLines? false rest
  | '\\' :: 'U' :: a :: b :: c :: d :: e :: f :: g :: h :: rest => do
    let char ← charOfHex? [a, b, c, d, e, f, g, h]
    consChar char <$> readEscapedLines? false rest
  | '\\' :: e :: rest =>
    if startsBreak (skipBlanks (e :: rest)) then readEscapedLines? true rest
    else do
      let char ← simpleEscape? e
      consChar char <$> readEscapedLines? false rest
  | '\r' :: '\n' :: rest =>
    if skipping then readEscapedLines? true rest else consChar '\n' <$> readEscapedLines? false rest
  | c :: rest =>
    if skipping && (c = '\n' || isInlineBlank c) then readEscapedLines? true rest
    else if c = '\n' || isPlain c then consChar c <$> readEscapedLines? false rest
    else none

def readLiteralLines? : List Char → Option (List Char × List Char)
  | [] => none
  | '\'' :: '\'' :: '\'' :: '\'' :: '\'' :: rest => some (['\'', '\''], rest)
  | '\'' :: '\'' :: '\'' :: '\'' :: rest => some (['\''], rest)
  | '\'' :: '\'' :: '\'' :: rest => some ([], rest)
  | '\r' :: '\n' :: rest => consChar '\n' <$> readLiteralLines? rest
  | c :: rest => if c = '\n' || isPlain c then consChar c <$> readLiteralLines? rest else none

def dropFirstBreak (cs : List Char) : List Char := (afterBreak? cs).getD cs

def readText? : List Char → Option (String × List Char)
  | '"' :: '"' :: '"' :: rest => do
    let (cs, rest) ← readEscapedLines? false (dropFirstBreak rest)
    pure (String.ofList cs, rest)
  | '"' :: rest => do
    let (cs, rest) ← readEscaped? rest
    pure (String.ofList cs, rest)
  | '\'' :: '\'' :: '\'' :: rest => do
    let (cs, rest) ← readLiteralLines? (dropFirstBreak rest)
    pure (String.ofList cs, rest)
  | '\'' :: rest => do
    let (cs, rest) ← readLiteral? rest
    pure (String.ofList cs, rest)
  | _ => none

def isBareKey (c : Char) : Bool := c.isAlphanum || c = '_' || c = '-'

def readKey? (cs : List Char) : Option (String × List Char) :=
  match cs with
  | '"' :: rest => do
    let (name, rest) ← readEscaped? rest
    pure (String.ofList name, rest)
  | '\'' :: rest => do
    let (name, rest) ← readLiteral? rest
    pure (String.ofList name, rest)
  | _ =>
    match cs.takeWhile isBareKey with
    | [] => none
    | name => some (String.ofList name, cs.drop name.length)

def readKeys? : Nat → List Char → Option (List String × List Char)
  | 0, _ => none
  | fuel + 1, cs => do
    let (key, rest) ← readKey? cs
    match skipBlanks rest with
    | '.' :: more => do
      let (keys, rest) ← readKeys? fuel (skipBlanks more)
      pure (key :: keys, rest)
    | rest => pure ([key], rest)

end ClassTable.Toml
