import ClassTable.Definition
import ClassTable.Log
import ClassTable.Row

/-!
From rows to definitions.  Nesting is in the layers alone.  In a level with base layer `b`, a row at
`b - 1` starts a class, a row at `b` is a field of the class before it, rows above `b` are a nested table
of the field before them, read as a level with base `b + 2`, and a row below `b - 1` ends the level.
Logically deleted rows are passed over and count as consumed.

Class rows sit on even layers, so a level whose base is even accepts no row.
-/

set_option autoImplicit false

namespace ClassTable

/-- The base layer of a whole table: its classes sit on layer zero. -/
def rootBase : Nat := 1

/-- The base layer of a table nested in a level, never above the largest layer. -/
def nestedBase (base : Nat) : Nat := min (base + 2) maxLayer

/-- What the last row of a level left open: nothing, a class, or a field with its name. -/
inductive Owner where
  | nothing
  | ofClass
  | ofField (name : String)
deriving DecidableEq, Repr

/-- The reading of the rows after some row of a level: classes nested in the open field, further fields of
the open class, the classes after it, and the number of rows read. -/
structure Level where
  children : List ClassDef
  fields : List FieldDef
  classes : List ClassDef
  consumed : Nat

namespace Level

def done : Level := ⟨[], [], [], 0⟩

def skip (l : Level) : Level := { l with consumed := l.consumed + 1 }

/-- Puts a class in front, which takes the fields that were waiting for it. -/
def startClass (row : Row) (l : Level) : Level :=
  ⟨[], [], ⟨row.name, row.description, l.fields⟩ :: l.classes, l.consumed + 1⟩

def startField (row : Row) (invariant : Bool) (l : Level) : Level :=
  ⟨[], ⟨row.name, row.dataType, row.initialValue, row.description, invariant, l.children⟩ :: l.fields,
    l.classes, l.consumed + 1⟩

def nest (inner l : Level) : Level :=
  { l with children := inner.classes ++ l.children, consumed := inner.consumed + l.consumed }

end Level

/-- Reads a level from its first row on.  A nested table always reads its first row, so the rows after it
are fewer. -/
def readLevel (base : Nat) (owner : Owner) : List Row → Logged RowFault Level
  | [] => pure .done
  | row :: rest =>
    match row.isDeleted with
    | .error fault => .fail fault
    | .ok true => do
      .tell [.skippedRow row.index]
      let level ← readLevel base owner rest
      pure level.skip
    | .ok false =>
      match _isLayer : row.layer with
      | .error fault => .fail fault
      | .ok layer =>
        if layer + 1 < base then pure .done
        else if layer + 1 = base ∧ layer % 2 = 0 then do
          .tell [.classStart row.index layer row.name]
          let level ← readLevel base .ofClass rest
          pure (level.startClass row)
        else if base < layer then
          match owner with
          | .ofField name => do
            let inner ← readLevel (nestedBase base) .nothing (row :: rest)
            .tell [.nestedTable row.index name inner.classes.length inner.consumed]
            let level ← readLevel base owner (rest.drop (inner.consumed - 1))
            pure (inner.nest level)
          | _ => .fail (.orphanTable row.index layer)
        else
          match owner with
          | .nothing => .fail (.orphanField row.index row.name layer)
          | _ =>
            match row.isInvariant with
            | .error fault => .fail fault
            | .ok invariant => do
              let level ← readLevel base (.ofField row.name) rest
              pure (level.startField row invariant)
termination_by rows => (rows.length, maxLayer - base)
decreasing_by
  all_goals simp_wf
  · exact Prod.Lex.left _ _ (Nat.lt_succ_self _)
  · exact Prod.Lex.left _ _ (Nat.lt_succ_self _)
  · have := Row.layer_le _isLayer
    apply Prod.Lex.right
    unfold nestedBase
    omega
  · apply Prod.Lex.left
    omega
  · exact Prod.Lex.left _ _ (Nat.lt_succ_self _)

/-- The classes of a level that begins with a class, and the number of rows it takes. -/
def buildLevel (base : Nat) (rows : List Row) : Logged RowFault (List ClassDef × Nat) := do
  let level ← readLevel base .nothing rows
  pure (level.classes, level.consumed)

/-- The forest of a table whose outermost level has base layer `base`. -/
def buildForest (base : Nat) (rows : List Row) : Logged RowFault (List ClassDef) := do
  let (forest, consumed) ← buildLevel base rows
  .tell [.builtForest rows.length consumed forest.length]
  pure forest

end ClassTable
