import ClassTable.Decimal.Reader
import ClassTable.Setting
import ClassTable.Text.Blank
import ClassTable.Toml.Text

set_option autoImplicit false

namespace ClassTable.Environment

def isBlank (c : Char) : Bool := c = ' ' || c = '\t'

def skipBlanks (cs : List Char) : List Char := cs.dropWhile isBlank

def isSeparator (c : Char) : Bool := c ∈ [',', '\x7b', '\x7d', '[', ']']

def isKeyChar (c : Char) : Bool := c.isAlphanum || c = '_' || c = '-'

def maxNumber : Nat := 18446744073709551615

def maxNegative : Nat := 9223372036854775808

/-- A whole number below zero, or zero itself, that fits 64 bits. -/
def negative? (cs : List Char) : Option Int :=
  match cs with
  | '-' :: digits => (Text.natOfDigits? digits).bind fun n =>
    if n ≤ maxNegative then some (-n) else none
  | _ => none

def plainValue (cs : List Char) : Setting :=
  match if cs.contains '.' then Decimal.float? cs else none with
  | some x => .decimal x
  | none =>
    match Text.natUpTo? maxNumber cs, negative? cs with
    | some n, _ => .unsigned n
    | none, some n => .signed n
    | none, none => .text (String.ofList cs)

def afterWord? (word : String) (cs : List Char) : Option (List Char) :=
  if word.toList.isPrefixOf cs then some (cs.drop word.length) else none

mutual

def readValue? : Nat → List Char → Option (Setting × List Char)
  | 0, _ => none
  | fuel + 1, cs => do
    let cs := skipBlanks cs
    let (value, rest) ← match afterWord? "true" cs, afterWord? "false" cs with
      | some rest, _ => some (Setting.flag true, rest)
      | none, some rest => some (Setting.flag false, rest)
      | none, none =>
        match cs with
        | '\x7b' :: rest => (readMembers? fuel rest).map fun (ms, rest) => (.table (Keyed.ofList ms), rest)
        | '[' :: rest => (readItems? fuel rest).map fun (items, rest) => (.list items, rest)
        | '"' :: rest => (Toml.readEscaped? rest).map fun (s, rest) => (.text (String.ofList s), rest)
        | '\'' :: c :: '\'' :: rest => some (.letter c, rest)
        | '\'' :: _ => none
        | _ =>
          let written := cs.takeWhile (!isSeparator ·)
          some (plainValue (Text.trimChars written), cs.drop written.length)
    pure (value, skipBlanks rest)

def readItems? : Nat → List Char → Option (List Setting × List Char)
  | 0, _ => none
  | fuel + 1, cs =>
    match cs with
    | ']' :: rest => some ([], rest)
    | _ => do
      let (item, rest) ← readValue? fuel cs
      match rest with
      | ',' :: rest => do
        let (items, rest) ← readItems? fuel rest
        pure (item :: items, rest)
      | ']' :: rest => pure ([item], rest)
      | _ => none

def readMembers? : Nat → List Char → Option (List (String × Setting) × List Char)
  | 0, _ => none
  | fuel + 1, cs =>
    match cs with
    | '\x7d' :: rest => some ([], rest)
    | _ => do
      let (key, rest) ← match skipBlanks cs with
        | '"' :: rest => Toml.readEscaped? rest
        | rest =>
          let key := rest.takeWhile isKeyChar
          if key.isEmpty then none else some (key, rest.drop key.length)
      match skipBlanks rest with
      | '=' :: rest => do
        let (value, rest) ← readValue? fuel rest
        let member := (String.ofList key, value)
        match rest with
        | ',' :: rest => do
          let (members, rest) ← readMembers? fuel rest
          pure (member :: members, rest)
        | '\x7d' :: rest => pure ([member], rest)
        | _ => none
      | _ => none

end

/-- The value of a variable; what cannot be read to its end is taken as text. -/
def valueOf (s : String) : Setting :=
  match readValue? (2 * s.length + 2) s.toList with
  | some (value, []) => value
  | _ => .text s

/-- What the names of variables begin with, in any letter case. -/
def mark : String := "DTOFORGE_"

/-- Splits a name at each pair of underscores, from the left, and at each dot. -/
def splitName : List Char → List (List Char)
  | [] => [[]]
  | '_' :: '_' :: rest => [] :: splitName rest
  | c :: rest =>
    if c = '.' then [] :: splitName rest
    else
      match splitName rest with
      | [] => [[c]]
      | part :: parts => (c :: part) :: parts

/-- The keys that a variable stands for, in lower case. -/
def keysOf? (name : String) : Option (List String) :=
  let cs := (Text.trimChars name.toList).map Char.toLower
  let front := mark.toLower.toList
  if front.isPrefixOf cs then
    let parts := splitName (Text.trimChars (cs.drop front.length))
    if parts.any List.isEmpty then none else some (parts.map String.ofList)
  else none

/-- The settings of variables, of which the later in name order override the earlier. -/
def settings (vars : List (String × String)) : Keyed Setting :=
  (Keyed.ofList vars).foldl (fun members (name, value) =>
    match keysOf? name with
    | some keys =>
      match Setting.under keys (valueOf (Text.trim value)) with
      | .table later => Setting.mergeMembers members later
      | _ => members
    | none => members) []

end ClassTable.Environment
