import ClassTable.Template.Tag

set_option autoImplicit false

namespace ClassTable.Template

open Json (skipSpace)

inductive Tag where
  | value (call : Expr)
  | openBlock (call : Expr) (binders : List String)
  | chain (call : Expr) (binders : List String)
  | otherwise
  | close (name : String)
  | embed (call : Expr)
  | openEmbed (call : Expr)
  | directive (call : Expr)
  | openDirective (call : Expr)
  | comment
deriving BEq, Repr, Inhabited

/-- A tag in its place: the source before it, nearest character first, the source after it, and the marks
that drop the white space on either side. -/
structure PlacedTag where
  tag : Tag
  before : List Char
  after : List Char
  dropBefore : Bool
  dropAfter : Bool
deriving Repr, Inhabited

inductive Token where
  | text (cs : List Char)
  | tag (t : PlacedTag)
deriving Repr, Inhabited

def openMark : List Char := ['\x7b', '\x7b']

def closeMark : List Char := ['\x7d', '\x7d']

def rawOpenMark : List Char := openMark ++ openMark

def rawCloseMark : List Char := closeMark ++ closeMark

def startsWith (mark cs : List Char) : Bool := (after? mark cs).isSome

def readTextUpTo (mark : List Char) : Nat → List Char → List Char × List Char
  | 0, cs => ([], cs)
  | _, [] => ([], [])
  | fuel + 1, '\\' :: rest =>
    match rest with
    | '\x7b' :: '\x7b' :: '\x7b' :: more =>
      let (text, rest) := readTextUpTo mark fuel more
      (openMark ++ '\x7b' :: text, rest)
    | '\x7b' :: '\x7b' :: more =>
      let (text, rest) := readTextUpTo mark fuel more
      (openMark ++ text, rest)
    | _ =>
      let slashes := rest.takeWhile (· == '\\')
      let more := rest.drop slashes.length
      if !slashes.isEmpty && startsWith openMark more then
        let (text, rest) := readTextUpTo mark fuel more
        (slashes ++ text, rest)
      else
        let (text, rest) := readTextUpTo mark fuel rest
        ('\\' :: text, rest)
  | fuel + 1, c :: rest =>
    if startsWith mark (c :: rest) then ([], c :: rest)
    else
      let (text, rest) := readTextUpTo mark fuel rest
      (c :: text, rest)

def readTilde (cs : List Char) : Bool × List Char :=
  match skipSpace cs with
  | '~' :: rest => (true, skipSpace rest)
  | rest => (false, rest)

def readEnd? (mark cs : List Char) : Option (Bool × List Char) := do
  let (dropAfter, rest) := readTilde cs
  pure (dropAfter, ← after? mark rest)

def afterFirst? (mark : List Char) : List Char → Option (List Char)
  | [] => none
  | c :: cs => after? mark (c :: cs) <|> afterFirst? mark cs

/-- The end of a comment.  One that opens with two dashes closes with two dashes if it can. -/
def afterComment? (cs : List Char) : Option (List Char) :=
  (after? ['-', '-'] (skipSpace cs) >>= afterFirst? (['-', '-'] ++ closeMark))
    <|> afterFirst? closeMark cs

/-- A tag that writes in triple braces: the third pair inside the white-space marks or outside them. -/
def readTriple? (cs : List Char) : Option (Tag × Bool × Bool × List Char) :=
  let inside? : Option (Tag × Bool × Bool × List Char) := do
    let (dropBefore, rest) := readTilde cs
    let rest ← after? ['\x7b'] rest
    let (call, rest) ← readValue? (skipSpace rest)
    let rest ← after? ['\x7d'] (skipSpace rest)
    let (dropAfter, rest) ← readEnd? closeMark rest
    pure (.value call, dropBefore, dropAfter, rest)
  let outside? : Option (Tag × Bool × Bool × List Char) := do
    let rest ← after? ['\x7b'] cs
    let (dropBefore, rest) := readTilde rest
    let (call, rest) ← readValue? rest
    let (dropAfter, rest) ← readEnd? ('\x7d' :: closeMark) rest
    pure (.value call, dropBefore, dropAfter, rest)
  inside? <|> outside?

def readOtherwise? (cs : List Char) : Option (Tag × List Char) := do
  let rest ← afterWord? "else".toList cs <|> after? ['^'] cs
  match readLine? (skipSpace rest) with
  | some (call, rest) =>
    let (binders, rest) := readBinders rest
    pure (.chain call binders, rest)
  | none => pure (.otherwise, rest)

def readClose? (cs : List Char) : Option (Tag × List Char) := do
  let rest := skipSpace cs
  let rest := skipSpace ((after? ['*'] rest).getD rest)
  let (name, rest) ← readTemplateName? rest
  pure (.close name, rest)

def readBody? (cs : List Char) : Option (Tag × List Char) :=
  match cs with
  | '#' :: rest =>
    match skipSpace rest with
    | '*' :: rest => (readLine? (skipSpace rest)).map fun (call, rest) => (.openDirective call, rest)
    | '>' :: rest => (readPartialLine? (skipSpace rest)).map fun (call, rest) => (.openEmbed call, rest)
    | rest => (readLine? rest).map fun (call, rest) =>
      let (binders, rest) := readBinders rest
      (.openBlock call binders, rest)
  | '/' :: rest => readClose? rest
  | '>' :: rest => (readPartialLine? (skipSpace rest)).map fun (call, rest) => (.embed call, rest)
  | '*' :: rest => (readLine? (skipSpace rest)).map fun (call, rest) => (.directive call, rest)
  | '&' :: rest =>
    (readSubexpression? (phraseFuel rest) (skipSpace rest) <|> readPath? (skipSpace rest)).map
      fun (head, rest) => (.value (.call head [] []), rest)
  | _ => readOtherwise? cs <|> (readValue? cs).map fun (call, rest) => (.value call, rest)

def readTag? (cs : List Char) : Option (Tag × Bool × Bool × List Char) :=
  match cs with
  | '!' :: rest => (afterComment? rest).map fun rest => (.comment, false, false, rest)
  | _ =>
    let plain? : Option (Tag × Bool × Bool × List Char) := do
      let (dropBefore, rest) := readTilde cs
      let (tag, rest) ← readBody? rest
      let (dropAfter, rest) ← readEnd? closeMark rest
      pure (tag, dropBefore, dropAfter, rest)
    plain? <|> readTriple? cs

/-- A block whose body is text whatever it looks like, from its four opening braces on, and the source
after it. -/
def readRawBlock? (before cs : List Char) : Option (List Token × List Char) := do
  let rest ← after? rawOpenMark cs
  let (dropBefore, rest) := readTilde rest
  let (call, rest) ← readLine? rest
  let (dropAfter, inner) ← readEnd? rawCloseMark rest
  let (text, closing) := readTextUpTo rawOpenMark (inner.length + 1) inner
  let rest ← after? rawOpenMark closing
  let (dropEnd, rest) := readTilde rest
  let rest ← after? ['/'] rest
  let (name, rest) ← readName? (skipSpace rest)
  let (dropRest, rest) ← readEnd? rawCloseMark rest
  let beforeClosing := (consumed cs closing).reverse ++ before
  pure ([.tag ⟨.openBlock call [], before, inner, dropBefore, dropAfter⟩, .text text,
    .tag ⟨.close name, beforeClosing, rest, dropEnd, dropRest⟩], rest)

def tokens? : Nat → List Char → List Char → Option (List Token)
  | 0, _, _ => none
  | fuel + 1, before, cs =>
    let (text, rest) := readTextUpTo openMark (cs.length + 1) cs
    let texts := if text.isEmpty then [] else [.text text]
    if rest.isEmpty then some texts
    else
      let before := (consumed cs rest).reverse ++ before
      if startsWith rawOpenMark rest then do
        let (block, after) ← readRawBlock? before rest
        let more ← tokens? fuel ((consumed rest after).reverse ++ before) after
        pure (texts ++ block ++ more)
      else do
        let (tag, dropBefore, dropAfter, after) ← readTag? (rest.drop openMark.length)
        let more ← tokens? fuel ((consumed rest after).reverse ++ before) after
        pure (texts ++ .tag ⟨tag, before, after, dropBefore, dropAfter⟩ :: more)

end ClassTable.Template
