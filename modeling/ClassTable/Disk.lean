import ClassTable.Path
import ClassTable.Text.Utf8

/-!
File systems as values: files and directories under their places, and the directory that relative paths
start from.  Each operation walks its path from component to component, so a path that leads through a file
or through nothing fails even where a later `..` would lead out again.
-/

set_option autoImplicit false

namespace ClassTable

open Text (Bytes)

/-- The names from the root down. -/
abbrev Place := List String

def Place.upward (p : Place) : List Place := (List.range (p.length + 1)).reverse.map (p.take ·)

inductive DiskEntry where
  | file (content : Bytes)
  | directory
deriving DecidableEq, Repr

inductive DiskFault where
  | missing
  | occupied
  | notDirectory
  | isDirectory
  | nameTooLong
  | zeroInName
deriving DecidableEq, Repr

def DiskFault.message : DiskFault → String
  | missing => "No such file or directory (os error 2)"
  | occupied => "File exists (os error 17)"
  | notDirectory => "Not a directory (os error 20)"
  | isDirectory => "Is a directory (os error 21)"
  | nameTooLong => "File name too long (os error 36)"
  | zeroInName => "file name contained an unexpected NUL byte"

/-- The root directory is always there and has no entry. -/
structure Disk where
  entries : List (Place × DiskEntry)
  working : Place
deriving Repr

namespace Disk

def maxNameSize : Nat := 255

def maxPathSize : Nat := 4095

def entry? (d : Disk) (p : Place) : Option DiskEntry :=
  if p = [] then some .directory else d.entries.lookup p

def put (d : Disk) (p : Place) (e : DiskEntry) : Disk :=
  { d with entries := d.entries.filter (·.1 != p) ++ [(p, e)] }

def startOf (d : Disk) (path : String) : Place := if Path.isAbsolute path then [] else d.working

def pathFault? (path : String) : Option DiskFault :=
  if path.toList.contains '\x00' then some .zeroInName
  else if path.isEmpty then some .missing
  else if maxPathSize < path.utf8ByteSize then some .nameTooLong
  else none

def step (d : Disk) (p : Place) (name : String) : Except DiskFault Place :=
  match d.entry? p with
  | none => .error .missing
  | some (.file _) => .error .notDirectory
  | some .directory =>
    if name = "." then .ok p
    else if name = ".." then .ok p.dropLast
    else if maxNameSize < name.utf8ByteSize then .error .nameTooLong
    else .ok (p ++ [name])

/-- The place that names lead to; nothing need be there. -/
def walk (d : Disk) (p : Place) : List String → Except DiskFault Place
  | [] => .ok p
  | name :: rest => do d.walk (← d.step p name) rest

def resolve (d : Disk) (p : Place) (names : List String) : Except DiskFault (Place × DiskEntry) := do
  let place ← d.walk p names
  match d.entry? place with
  | some e => pure (place, e)
  | none => .error .missing

def find (d : Disk) (path : String) : Except DiskFault DiskEntry :=
  match pathFault? path with
  | some fault => .error fault
  | none => do
    let (_, e) ← d.resolve (d.startOf path) (Path.components path)
    match e with
    | .file _ => if Path.endsInSlash path then .error .notDirectory else pure e
    | .directory => pure e

def «exists» (d : Disk) (path : String) : Bool := (d.find path).isOk

def fileAt? (d : Disk) (path : String) : Option Bytes :=
  match d.find path with
  | .ok (.file bytes) => some bytes
  | _ => none

/-- Where a file at a path is looked for: from the working directory, then from each directory above it. -/
def searched (d : Disk) (path : String) : List String :=
  d.working.upward.map fun dir => Path.join (Path.absolute dir) path

def target (d : Disk) (p : Place) (names : List String) : Except DiskFault Place := do
  let (parent, _) ← d.resolve p names.dropLast
  d.step parent (names.getLast?.getD ".")

def write (d : Disk) (path : String) (content : Bytes) : Except DiskFault Disk :=
  match pathFault? path with
  | some fault => .error fault
  | none => do
    let names := Path.components path
    let place ← d.target (d.startOf path) names
    if Path.endsInSlash path then .error .isDirectory
    else
      match d.entry? place with
      | some .directory => .error .isDirectory
      | _ => pure (d.put place (.file content))

def makeAt (d : Disk) (p : Place) (names : List String) : Except DiskFault Disk := do
  let place ← d.target p names
  match d.entry? place with
  | some _ => .error .occupied
  | none => pure (d.put place .directory)

/-- The names without those that stay where they are, a first one aside. -/
def dropCurrent (absolute : Bool) : List String → List String
  | [] => []
  | name :: rest =>
    if absolute && name == "." then dropCurrent true rest
    else name :: rest.filter (· != ".")

/-- Makes a directory and those above it; on a fault the ones made so far stay.  `bound` limits how far
up to look. -/
def makeAllAt (absolute : Bool) (p : Place) : Nat → Disk → List String → Disk × Except DiskFault Unit
  | 0, d, _ => (d, .error .missing)
  | bound + 1, d, names =>
    if names.isEmpty && !absolute then (d, .ok ())
    else
      let settle (d : Disk) (fault : DiskFault) : Disk × Except DiskFault Unit :=
        match d.resolve p names with
        | .ok (_, .directory) => (d, .ok ())
        | _ => (d, .error fault)
      match d.makeAt p names with
      | .ok d => (d, .ok ())
      | .error .missing =>
        match makeAllAt absolute p bound d (dropCurrent absolute names).dropLast with
        | (d, .error fault) => (d, .error fault)
        | (d, .ok ()) =>
          match d.makeAt p names with
          | .ok d => (d, .ok ())
          | .error fault => settle d fault
      | .error fault => settle d fault

def makeDirectories (d : Disk) (path : String) : Disk × Except DiskFault Unit :=
  if path.isEmpty then (d, .ok ())
  else
    match pathFault? path with
    | some fault => (d, .error fault)
    | none =>
      let names := Path.components path
      makeAllAt (Path.isAbsolute path) (d.startOf path) (names.length + 1) d names

def content : DiskEntry → Except DiskFault Bytes
  | .file bytes => .ok bytes
  | .directory => .error .isDirectory

end Disk

end ClassTable
