import ClassTable.Toml.Document
import ClassTable.Toml.Scalar
import ClassTable.Toml.Text

set_option autoImplicit false

namespace ClassTable.Toml

mutual

def readValue? : Nat → List Char → Option (Setting × List Char)
  | 0, _ => none
  | fuel + 1, cs =>
    match cs with
    | '"' :: _ => (readText? cs).map fun (s, rest) => (.text s, rest)
    | '\'' :: _ => (readText? cs).map fun (s, rest) => (.text s, rest)
    | '[' :: rest => do
      let (items, rest) ← readItems? fuel (skipFill false rest)
      pure (.list items, rest)
    | '\x7b' :: rest => do
      let (items, rest) ← match skipBlanks rest with
        | '\x7d' :: rest => some ([], rest)
        | rest => readMembers? fuel [] rest
      pure (.table (Items.toMembers items), rest)
    | _ => scalar? cs

def readItems? : Nat → List Char → Option (List Setting × List Char)
  | 0, _ => none
  | fuel + 1, cs =>
    match cs with
    | ']' :: rest => some ([], rest)
    | _ => do
      let (item, rest) ← readValue? fuel cs
      match skipFill false rest with
      | ',' :: rest => do
        let (items, rest) ← readItems? fuel (skipFill false rest)
        pure (item :: items, rest)
      | ']' :: rest => pure ([item], rest)
      | _ => none

def readMembers? : Nat → Items → List Char → Option (Items × List Char)
  | 0, _, _ => none
  | fuel + 1, items, cs => do
    let (keys, rest) ← readKeys? (cs.length + 1) cs
    let (value, rest) ← readValue? fuel (skipBlanks (← after? '=' rest))
    let items ← Items.insert? value (keys.getLast?.getD "") keys.dropLast items
    match skipBlanks rest with
    | ',' :: rest => readMembers? fuel items (skipBlanks rest)
    | '\x7d' :: rest => pure (items, rest)
    | _ => none

end

/-- The tables so far, and the keys of the header that counts. -/
structure Document where
  items : Items
  header : List String

def readHeader? (closing cs : List Char) : Option (List String × List Char) := do
  let (keys, rest) ← readKeys? (cs.length + 1) (skipBlanks cs)
  guard (closing.isPrefixOf rest)
  pure (keys, rest.drop closing.length)

def readLine? (d : Document) (cs : List Char) : Option (Document × List Char) :=
  match cs with
  | '[' :: '[' :: rest => do
    let (keys, rest) ← readHeader? [']', ']'] rest
    let items ← Items.changeAt? (Items.openNext? (keys.getLast?.getD "")) keys.dropLast d.items
    pure (⟨items, keys⟩, rest)
  | '[' :: rest => do
    let (keys, rest) ← readHeader? [']'] rest
    let items ← Items.changeAt? (Items.openTable? (keys.getLast?.getD "")) keys.dropLast d.items
    pure (⟨items, keys⟩, rest)
  | _ => do
    let (keys, rest) ← readKeys? (cs.length + 1) cs
    let rest := skipBlanks (← after? '=' rest)
    let (value, rest) ← readValue? (2 * rest.length + 2) rest
    let items ← Items.changeAt? (Items.insert? value (keys.getLast?.getD "") keys.dropLast) d.header
      d.items
    pure (⟨items, d.header⟩, rest)

def readLines? : Nat → Document → List Char → Option Document
  | 0, _, _ => none
  | fuel + 1, d, cs =>
    match skipBlanks cs with
    | [] => some d
    | rest =>
      match afterLine? rest with
      | some rest => readLines? fuel d rest
      | none => do
        let (d, rest) ← readLine? d rest
        readLines? fuel d (← afterLine? rest)

/-- The settings of a file, or nothing if the file is malformed.  A byte order mark in front is skipped. -/
def read? (source : String) : Option (Keyed Setting) := do
  let cs := match source.toList with
    | '\ufeff' :: rest => rest
    | cs => cs
  let d ← readLines? (cs.length + 1) ⟨[], []⟩ cs
  pure (Items.toMembers d.items)

end ClassTable.Toml
