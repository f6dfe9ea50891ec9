import ClassTable.ColumnNames
import ClassTable.Precondition
import ClassTable.Project
import ClassTable.Setting

/-!
From values of settings to what they mean.  A record is read from a table, member by member in key order,
or from a list, in the order of its parts; parts that are not given keep their standard values.
-/

set_option autoImplicit false

namespace ClassTable

inductive SettingReason where
  /-- Descriptions of the value and of what was asked for. -/
  | wrongType (found expected : String)
  | unknownPolicy (name : String)
  | notADate (fault : Date.Fault)
deriving DecidableEq, Repr

def SettingReason.message : SettingReason → String
  | wrongType found expected => "invalid type: found " ++ found ++ ", expected " ++ expected
  | unknownPolicy name =>
    "unknown variant: found `" ++ name ++ "`, expected ``reject` or `overwrite``"
  | notADate fault => fault.message

structure SettingFault where
  path : List String
  reason : SettingReason
deriving DecidableEq, Repr

namespace Setting

abbrev Decoded (α : Type) := Except SettingFault α

def refuse {α : Type} (v : Setting) (expected : String) : Decoded α :=
  .error ⟨[], .wrongType v.describe expected⟩

def atKey {α : Type} (key : String) (d : Decoded α) : Decoded α :=
  d.mapError fun f => { f with path := key :: f.path }

/-- A single character counts as a text. -/
def asText? : Setting → Option String
  | text s => some s
  | letter c => some (String.singleton c)
  | _ => none

def decodeText (expected : String) (v : Setting) : Decoded String :=
  match v.asText? with
  | some s => .ok s
  | none => v.refuse expected

def decodeDate (v : Setting) : Decoded Date :=
  match v.asText? with
  | some s => (Date.ofText s).mapError fun f => ⟨[], .notADate f⟩
  | none => v.refuse "a formatted date string"

def policyOfName (name : String) : Decoded CollisionPolicy :=
  match CollisionPolicy.ofName? name with
  | some policy => .ok policy
  | none => .error ⟨[], .unknownPolicy name⟩

/-- A policy is a name; a table in its place has the name for a key, but then asks for no value. -/
def decodePolicy (v : Setting) : Decoded CollisionPolicy :=
  match v with
  | text s => policyOfName s
  | table [] => v.refuse "enum"
  | table ((name, inner) :: _) => do
    let _ ← policyOfName name
    atKey name (inner.refuse "unit")
  | _ => v.refuse "enum CollisionPolicy"

structure RecordPart (σ : Type) where
  key : String
  change : Setting → σ → Decoded σ

def part {σ α : Type} (key : String) (decode : Setting → Decoded α) (put : α → σ → σ) : RecordPart σ :=
  ⟨key, fun v s => do pure (put (← decode v) s)⟩

def decodeMembers {σ : Type} (parts : List (RecordPart σ)) (s : σ) :
    List (String × Setting) → Decoded σ
  | [] => .ok s
  | (key, value) :: rest =>
    match parts.find? (·.key == key) with
    | some p => do decodeMembers parts (← atKey key (p.change value s)) rest
    | none => decodeMembers parts s rest

def decodeItems {σ : Type} (i : Nat) (s : σ) : List (RecordPart σ) → List Setting → Decoded σ
  | p :: parts, value :: rest => do
    decodeItems (i + 1) (← atKey (toString i) (p.change value s)) parts rest
  | _, _ => .ok s

def decodeRecord {σ : Type} (name : String) (parts : List (RecordPart σ)) (standard : σ) (v : Setting) :
    Decoded σ :=
  match v with
  | table members => decodeMembers parts standard members
  | list items => decodeItems 0 standard parts items
  | letter c => (text (String.singleton c)).refuse ("struct " ++ name)
  | _ => v.refuse ("struct " ++ name)

end Setting

end ClassTable
