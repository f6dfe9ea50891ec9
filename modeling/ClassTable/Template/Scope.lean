import ClassTable.Template.Fault
import ClassTable.Template.Tree
import ClassTable.Text.Numeral

set_option autoImplicit false

namespace ClassTable.Template

structure Frame where
  value : Json
  /-- Variables of the block, such as the index of an iteration. -/
  vars : List (String × Json)
  /-- Names that the tag of the block gives to values. -/
  names : List (String × Json)

def Frame.of (value : Json) : Frame := ⟨value, [], []⟩

structure Scope where
  root : Json
  nearest : Frame
  outer : List Frame

namespace Scope

def start (root : Json) : Scope := ⟨root, .of root, []⟩

def frames (s : Scope) : List Frame := s.nearest :: s.outer

def push (s : Scope) (f : Frame) : Scope := { s with nearest := f, outer := s.frames }

def only (s : Scope) (value : Json) : Scope := { s with nearest := .of value, outer := [] }

def maxIndex : Nat := 18446744073709551615

def child (value : Json) (key : String) : Except Fault (Option Json) :=
  match value with
  | .arr items =>
    match Text.natUpTo? maxIndex key.toList with
    | some i => .ok items[i]?
    | none => .error (.indexNotNumeric key)
  | .obj members => .ok (members.lookup key)
  | _ => .ok none

def descend (value : Json) : List String → Except Fault (Option Json)
  | [] => .ok (some value)
  | key :: keys => do
    match ← child value key with
    | some value => descend value keys
    | none => pure none

def keysOf : List Segment → List String
  | [] => []
  | .key name :: rest => name :: keysOf rest
  | _ :: rest => keysOf rest

def leadingUps : List Segment → Nat
  | .up :: rest => leadingUps rest + 1
  | _ => 0

def named? (s : Scope) (name : String) : Option Json := s.frames.findSome? (·.names.lookup name)

/-- The frame a number of blocks out; beyond the last one the nearest counts. -/
def frameOut (s : Scope) (level : Nat) : Frame := s.frames[level]?.getD s.nearest

/-- A path over values: names given by blocks come first, then the frame that it starts at. -/
def findValue (s : Scope) (path : List Segment) : Except Fault (Option Json) :=
  let ups := leadingUps path
  match path.drop ups with
  | .key name :: rest =>
    match s.named? name with
    | some value => descend value (keysOf rest)
    | none => descend (s.frameOut ups).value (keysOf path)
  | .root :: _ => descend s.root (keysOf path)
  | _ => descend (s.frameOut ups).value (keysOf path)

/-- What a path leads to, if anything.  A variable is looked up in exactly one frame, by its first key. -/
def find (s : Scope) (path : List Segment) : Except Fault (Option Json) :=
  match path with
  | .data :: rest =>
    let level := leadingUps rest
    match rest.drop level with
    | .key name :: _ => .ok (s.frames[level]?.bind (·.vars.lookup name))
    | _ => s.findValue path
  | _ => s.findValue path

end Scope

end ClassTable.Template
