import ClassTable.Json.Reader
import ClassTable.Template.Tree

/-!
The grammar inside a tag.  Each reader takes the text from where a phrase starts and gives the phrase and
the text after it, or nothing when the text does not start with such a phrase.  White space may stand
between phrases, never inside a path.
-/

set_option autoImplicit false

namespace ClassTable.Template

open Json (isSpace skipSpace)

/-- Characters of names: ASCII letters and digits, three marks, and everything beyond ASCII. -/
def isSymbol (c : Char) : Bool :=
  c.isAlphanum || c = '_' || c = '-' || c = '$' || 0x80 ≤ c.toNat

def endsWord (cs : List Char) : Bool :=
  match cs with
  | c :: _ => !isSymbol c
  | [] => true

def after? : List Char → List Char → Option (List Char)
  | [], cs => some cs
  | _ :: _, [] => none
  | p :: ps, c :: cs => if p = c then after? ps cs else none

def afterWord? (word cs : List Char) : Option (List Char) := (after? word cs).filter endsWord

def consumed (cs rest : List Char) : List Char := cs.take (cs.length - rest.length)

def readName? (cs : List Char) : Option (String × List Char) :=
  match cs.takeWhile isSymbol with
  | [] => none
  | name => some (String.ofList name, cs.drop name.length)

def isSeparator (c : Char) : Bool := c = '/' || c = '.'

def afterSeparator? : List Char → Option (List Char)
  | c :: cs => if isSeparator c then some cs else none
  | [] => none

/-- A key by name, or any text in brackets.  The word `this` is the value itself. -/
def readKey? (cs : List Char) : Option (List Segment × List Char) := do
  let (name, rest) ← match cs with
    | '[' :: more =>
      match more.dropWhile (· != ']') with
      | ']' :: rest => some (String.ofList (more.takeWhile (· != ']')), rest)
      | _ => none
    | _ => readName? cs
  pure (if name = "this" then [] else [.key name], rest)

def readKeys : Nat → List Char → List Segment × List Char
  | 0, cs => ([], cs)
  | fuel + 1, cs =>
    match afterSeparator? cs >>= readKey? with
    | some (key, rest) => let (keys, rest) := readKeys fuel rest; (key ++ keys, rest)
    | none => ([], cs)

def readUps : Nat → List Char → List Segment × List Char
  | 0, cs => ([], cs)
  | fuel + 1, cs =>
    match after? ['.', '.'] cs >>= afterSeparator? with
    | some rest => let (ups, rest) := readUps fuel rest; (.up :: ups, rest)
    | none => ([], cs)

def skipCurrent (cs : List Char) : List Char :=
  (after? ['.', '/'] cs <|> after? "this".toList cs >>= afterSeparator?).getD cs

def readRoot (cs : List Char) : List Segment × List Char :=
  match after? "@root".toList cs >>= afterSeparator? with
  | some rest => ([.root], rest)
  | none => ([], cs)

def readDataMark (cs : List Char) : List Segment × List Char :=
  match cs with
  | '@' :: rest => ([.data], rest)
  | _ => ([], cs)

def readPath? (cs : List Char) : Option (Expr × List Char) := do
  let (root, rest) := readRoot (skipCurrent cs)
  let (mark, rest) := readDataMark rest
  let (ups, rest) := readUps rest.length rest
  let (key, rest) ← readKey? rest
  let (keys, rest) := readKeys rest.length rest
  pure (.path (String.ofList (consumed cs rest)) (root ++ mark ++ ups ++ key ++ keys), rest)

def afterText? (mark : Char) : List Char → Option (List Char)
  | [] => none
  | '\\' :: 'u' :: a :: b :: c :: d :: rest =>
    if [a, b, c, d].all fun h => (Json.hexValue? h).isSome then afterText? mark rest else none
  | '\\' :: e :: rest =>
    if e = mark || e ∈ ['\\', '/', 'b', 'f', 'n', 'r', 't'] then afterText? mark rest else none
  | c :: rest => if c = mark then some rest else afterText? mark rest

def skipDigits (cs : List Char) : List Char := cs.dropWhile Char.isDigit

def skipExponent (cs : List Char) : List Char :=
  match cs with
  | 'E' :: '-' :: d :: rest => if d.isDigit then skipDigits rest else cs
  | 'E' :: d :: rest => if d.isDigit then skipDigits rest else cs
  | _ => cs

def afterNumber? (cs : List Char) : Option (List Char) :=
  let unsigned := match cs with
    | '-' :: rest => rest
    | _ => cs
  match unsigned with
  | d :: rest =>
    if d.isDigit then
      let whole := skipDigits rest
      let fraction := match whole with
        | '.' :: rest => skipDigits rest
        | _ => whole
      let number := skipExponent fraction
      if endsWord number then some number else none
    else none
  | [] => none

mutual

def afterLiteral? : Nat → List Char → Option (List Char)
  | 0, _ => none
  | fuel + 1, cs =>
    match cs with
    | '"' :: rest => afterText? '"' rest
    | '\'' :: rest => afterText? '\'' rest
    | '[' :: rest => afterItems? fuel true (skipSpace rest)
    | '\x7b' :: rest => afterMembers? fuel true (skipSpace rest)
    | _ =>
      afterNumber? cs <|> afterWord? "null".toList cs <|> afterWord? "true".toList cs
        <|> afterWord? "false".toList cs

/-- The text after the rest of an array; an item may be missing only at its front. -/
def afterItems? : Nat → Bool → List Char → Option (List Char)
  | 0, _, _ => none
  | fuel + 1, front, cs =>
    match cs with
    | ']' :: rest => some rest
    | ',' :: rest => (afterLiteral? fuel (skipSpace rest)).bind fun rest =>
      afterItems? fuel false (skipSpace rest)
    | _ => if front then (afterLiteral? fuel cs).bind fun rest => afterItems? fuel false (skipSpace rest)
      else none

def afterMembers? : Nat → Bool → List Char → Option (List Char)
  | 0, _, _ => none
  | fuel + 1, front, cs =>
    match cs with
    | '\x7d' :: rest => some rest
    | ',' :: rest => afterMember? fuel (skipSpace rest)
    | _ => if front then afterMember? fuel cs else none

def afterMember? : Nat → List Char → Option (List Char)
  | 0, _ => none
  | fuel + 1, cs => do
    let rest ← match cs with
      | '"' :: rest => afterText? '"' rest
      | '\'' :: rest => afterText? '\'' rest
      | _ => none
    let rest ← after? [':'] (skipSpace rest)
    let rest ← afterLiteral? fuel (skipSpace rest)
    afterMembers? fuel false (skipSpace rest)

end

def requote : List Char → List Char
  | [] => []
  | '\\' :: '\'' :: rest => '\'' :: requote rest
  | '"' :: rest => '\\' :: '"' :: requote rest
  | c :: rest => c :: requote rest

/-- The value of a literal as written; the shape alone does not make it valid. -/
def literalValue? (cs : List Char) : Option Json :=
  match cs with
  | '\'' :: rest => Json.read? ('"' :: requote rest.dropLast ++ ['"'])
  | _ => Json.read? cs

/-- The words that end the parameters of a tag. -/
def startsKeyword (cs : List Char) : Bool :=
  (afterWord? "as".toList cs <|> afterWord? "else".toList cs).isSome

mutual

def readParam? : Nat → List Char → Option (Expr × List Char)
  | 0, _ => none
  | fuel + 1, cs =>
    if startsKeyword cs then none
    else
      match afterLiteral? (2 * cs.length + 2) cs with
      | some rest => (literalValue? (consumed cs rest)).map fun value => (.literal value, rest)
      | none => readPath? cs <|> readSubexpression? fuel cs

/-- A call in parentheses; it has arguments or is a path alone. -/
def readSubexpression? : Nat → List Char → Option (Expr × List Char)
  | 0, _ => none
  | fuel + 1, cs => do
    let inner ← after? ['('] cs
    let (call, rest) ← readCall? fuel (skipSpace inner) <|>
      (readPath? (skipSpace inner)).map fun (path, rest) => (.call path [] [], rest)
    let rest ← after? [')'] (skipSpace rest)
    pure (call, rest)

def readCall? : Nat → List Char → Option (Expr × List Char)
  | 0, _ => none
  | fuel + 1, cs => do
    let (name, rest) ← readName? cs
    match readArgs fuel rest with
    | ([], [], _) => none
    | (args, named, rest) => pure (.call (.name name) args named, rest)

def readArgs : Nat → List Char → List Expr × List (String × Expr) × List Char
  | 0, cs => ([], [], cs)
  | fuel + 1, cs =>
    match readNamed? fuel (skipSpace cs) with
    | some (named, rest) =>
      let (args, more, rest) := readArgs fuel rest
      (args, named :: more, rest)
    | none =>
      match readParam? fuel (skipSpace cs) with
      | some (arg, rest) =>
        let (args, named, rest) := readArgs fuel rest
        (arg :: args, named, rest)
      | none => ([], [], cs)

def readNamed? : Nat → List Char → Option ((String × Expr) × List Char)
  | 0, _ => none
  | fuel + 1, cs => do
    let (name, rest) ← readName? cs
    let rest ← after? ['='] (skipSpace rest)
    let (value, rest) ← readParam? fuel (skipSpace rest)
    pure ((name, value), rest)

end

/-- Enough fuel for the phrases of a text: each step down the grammar costs one and at most five are taken
without reading a character. -/
def phraseFuel (cs : List Char) : Nat := 5 * cs.length + 5

def readValue? (cs : List Char) : Option (Expr × List Char) :=
  readCall? (phraseFuel cs) cs <|>
    (readSubexpression? (phraseFuel cs) cs <|> readPath? cs).map fun (head, rest) =>
      (.call head [] [], rest)

def readLine? (cs : List Char) : Option (Expr × List Char) := do
  let (name, rest) ← readName? cs
  let (args, named, rest) := readArgs (phraseFuel rest) rest
  pure (.call (.name name) args named, rest)

def readBinders (cs : List Char) : List String × List Char :=
  let binders? : Option (List String × List Char) := do
    let rest ← after? "as".toList (skipSpace cs)
    let rest ← after? ['|'] (skipSpace rest)
    let (first, rest) ← readName? (skipSpace rest)
    match readName? (skipSpace rest) with
    | some (second, rest) => pure ([first, second], ← after? ['|'] (skipSpace rest))
    | none => pure ([first], ← after? ['|'] (skipSpace rest))
  binders?.getD ([], cs)

def isTemplateSymbol (c : Char) : Bool := isSymbol c || c = '/' || c = '.'

def readQuotedName? (cs : List Char) : Option (String × List Char) :=
  match cs with
  | '\'' :: rest =>
    match rest.dropWhile (· != '\'') with
    | '\'' :: after =>
      if (rest.takeWhile (· != '\'')).isEmpty then none
      else some (String.ofList (consumed cs after), after)
    | _ => none
  | _ => none

def readTemplateName? (cs : List Char) : Option (String × List Char) :=
  match cs.takeWhile isTemplateSymbol with
  | [] => readQuotedName? cs
  | name => some (String.ofList name, cs.drop name.length)

def readPartialLine? (cs : List Char) : Option (Expr × List Char) := do
  let (head, rest) ← (readTemplateName? cs).map (fun (name, rest) => (Expr.name name, rest)) <|>
    readSubexpression? (phraseFuel cs) cs <|> readPath? cs
  let (args, named, rest) := readArgs (phraseFuel rest) rest
  pure (.call head args named, rest)

end ClassTable.Template
