import ClassTable.Layering
import ClassTable.Proofs.Scan

set_option autoImplicit false

namespace ClassTable

/-- What a row does to a level that is being read. -/
inductive Step where
  | fault (f : RowFault)
  | skip
  | finish
  | start (layer : Nat)
  | nest (field : String)
  | member (invariant : Bool)
deriving DecidableEq, Repr

def Row.step (base : Nat) (owner : Owner) (row : Row) : Step :=
  match row.isDeleted with
  | .error fault => .fault fault
  | .ok true => .skip
  | .ok false =>
    match row.layer with
    | .error fault => .fault fault
    | .ok layer =>
      if layer + 1 < base then .finish
      else if layer + 1 = base ∧ layer % 2 = 0 then .start layer
      else if base < layer then
        match owner with
        | .ofField name => .nest name
        | _ => .fault (.orphanTable row.index layer)
      else
        match owner with
        | .nothing => .fault (.orphanField row.index row.name layer)
        | _ =>
          match row.isInvariant with
          | .error fault => .fault fault
          | .ok invariant => .member invariant

inductive Row.Steps (base : Nat) (owner : Owner) (row : Row) : Step → Prop
  | flagFault {fault : RowFault} (flag : row.isDeleted = .error fault) : Steps base owner row (.fault fault)
  | deleted (flag : row.isDeleted = .ok true) : Steps base owner row .skip
  | layerFault {fault : RowFault} (live : row.isDeleted = .ok false) (parse : row.layer = .error fault) :
      Steps base owner row (.fault fault)
  | below {layer : Nat} (live : row.isDeleted = .ok false) (parse : row.layer = .ok layer)
      (low : layer + 1 < base) : Steps base owner row .finish
  | ofClass {layer : Nat} (live : row.isDeleted = .ok false) (parse : row.layer = .ok layer)
      (start : layer + 1 = base) (even : layer % 2 = 0) : Steps base owner row (.start layer)
  | nested {layer : Nat} {name : String} (live : row.isDeleted = .ok false) (parse : row.layer = .ok layer)
      (above : base < layer) (open_ : owner = .ofField name) : Steps base owner row (.nest name)
  | noField {layer : Nat} (live : row.isDeleted = .ok false) (parse : row.layer = .ok layer)
      (above : base < layer) (closed : ∀ name, owner ≠ .ofField name) :
      Steps base owner row (.fault (.orphanTable row.index layer))
  | noClass {layer : Nat} (live : row.isDeleted = .ok false) (parse : row.layer = .ok layer)
      (high : base ≤ layer + 1) (le : layer ≤ base) (other : ¬(layer + 1 = base ∧ layer % 2 = 0))
      (closed : owner = .nothing) : Steps base owner row (.fault (.orphanField row.index row.name layer))
  | invariantFault {layer : Nat} {fault : RowFault} (live : row.isDeleted = .ok false)
      (parse : row.layer = .ok layer) (high : base ≤ layer + 1) (le : layer ≤ base)
      (other : ¬(layer + 1 = base ∧ layer % 2 = 0)) (open_ : owner ≠ .nothing)
      (flag : row.isInvariant = .error fault) : Steps base owner row (.fault fault)
  | ofField {layer : Nat} {invariant : Bool} (live : row.isDeleted = .ok false)
      (parse : row.layer = .ok layer) (high : base ≤ layer + 1) (le : layer ≤ base)
      (other : ¬(layer + 1 = base ∧ layer % 2 = 0)) (open_ : owner ≠ .nothing)
      (flag : row.isInvariant = .ok invariant) : Steps base owner row (.member invariant)

namespace Row

variable {base : Nat} {owner : Owner} {row : Row} {name : String}

theorem steps (base : Nat) (owner : Owner) (row : Row) : row.Steps base owner (row.step base owner) := by
  unfold step
  cases flag : row.isDeleted with
  | error fault => exact .flagFault flag
  | ok deleted =>
    cases deleted with
    | true => exact .deleted flag
    | false =>
      cases parse : row.layer with
      | error fault => exact .layerFault flag parse
      | ok layer =>
        dsimp only
        split
        · next low => exact .below flag parse low
        · next notLow =>
          have high : base ≤ layer + 1 := Nat.le_of_not_lt notLow
          split
          · next start => exact .ofClass flag parse start.1 start.2
          · next other =>
            split
            · next above =>
              cases owner with
              | nothing => exact .noField flag parse above (by simp)
              | ofClass => exact .noField flag parse above (by simp)
              | ofField name => exact .nested flag parse above rfl
            · next notAbove =>
              have le : layer ≤ base := Nat.le_of_not_lt notAbove
              have field : owner ≠ .nothing → row.Steps base owner
                  (match row.isInvariant with
                  | .error fault => .fault fault
                  | .ok invariant => .member invariant) := fun open_ => by
                cases invariant : row.isInvariant with
                | error fault => exact .invariantFault flag parse high le other open_ invariant
                | ok b => exact .ofField flag parse high le other open_ invariant
              cases owner with
              | nothing => exact .noClass flag parse high le other rfl
              | ofClass => exact field (by simp)
              | ofField name => exact field (by simp)

theorem steps_of_step {s : Step} (h : row.step base owner = s) : row.Steps base owner s :=
  h ▸ row.steps base owner

theorem not_isLive_of_skip (h : row.step base owner = .skip) : ¬row.isLive = true := by
  cases steps_of_step h with
  | deleted flag => simp only [isLive, flag, Bool.not_true, Bool.false_eq_true, not_false_iff]

theorem isLive_of_step {s : Step} (h : row.step base owner = s) (other : s ≠ .skip) : row.isLive = true := by
  unfold isLive
  cases flag : row.isDeleted with
  | error fault => rfl
  | ok deleted =>
    cases deleted with
    | false => rfl
    | true => exact absurd (h.symm.trans (by simp only [step, flag])) other

theorem row_of_step_fault {f : RowFault} (h : row.step base owner = .fault f) : f.row = row.index := by
  cases steps_of_step h with
  | flagFault flag => exact row_of_flag_error flag
  | layerFault _ parse => exact row_of_layer_error parse
  | noField => rfl
  | noClass => rfl
  | invariantFault _ _ _ _ _ _ flag => exact row_of_flag_error flag

/-- The row that opens a nested table starts a class there or fails; the table never ends at it. -/
theorem step_nested (h : row.step base owner = .nest name) :
    row.step (nestedBase base) .nothing = .start (base + 1) ∨
      ∃ fault, row.step (nestedBase base) .nothing = .fault fault := by
  cases steps_of_step h with
  | @nested layer _ live parse above =>
    have le := layer_le parse
    have notBelow : ¬layer + 1 < nestedBase base := by
      unfold nestedBase
      omega
    simp only [step, live, parse, if_neg notBelow]
    split
    · next start =>
      obtain ⟨here, -⟩ := start
      have same : layer = base + 1 := by
        unfold nestedBase at here
        omega
      rw [same]
      exact .inl rfl
    · split
      · exact .inr ⟨_, rfl⟩
      · exact .inr ⟨_, rfl⟩

end Row

theorem readLevel_cons (base : Nat) (owner : Owner) (row : Row) (rest : List Row) :
    readLevel base owner (row :: rest) =
      (match row.step base owner with
      | .fault f => .fail f
      | .skip => do
        .tell [.skippedRow row.index]
        let level ← readLevel base owner rest
        pure level.skip
      | .finish => pure .done
      | .start layer => do
        .tell [.classStart row.index layer row.name]
        let level ← readLevel base .ofClass rest
        pure (level.startClass row)
      | .nest name => do
        let inner ← readLevel (nestedBase base) .nothing (row :: rest)
        .tell [.nestedTable row.index name inner.classes.length inner.consumed]
        let level ← readLevel base owner (rest.drop (inner.consumed - 1))
        pure (inner.nest level)
      | .member invariant => do
        let level ← readLevel base (.ofField row.name) rest
        pure (level.startField row invariant)) := by
  rw [readLevel]
  unfold Row.step
  cases row.isDeleted with
  | error fault => rfl
  | ok deleted =>
    cases deleted with
    | true => rfl
    | false =>
      dsimp only
      split
      · next fault parse => simp only [parse]
      · next layer parse =>
        simp only [parse]
        split
        · rfl
        · split
          · rfl
          · split
            · cases owner <;> rfl
            · cases owner with
              | nothing => rfl
              | ofClass => cases row.isInvariant <;> rfl
              | ofField name => cases row.isInvariant <;> rfl

theorem readLevel_induction {motive : Nat → Owner → List Row → Prop}
    (nil : ∀ base owner, motive base owner [])
    (fault : ∀ base owner row rest f, row.step base owner = .fault f → motive base owner (row :: rest))
    (skip : ∀ base owner row rest, row.step base owner = .skip → motive base owner rest →
      motive base owner (row :: rest))
    (finish : ∀ base owner row rest, row.step base owner = .finish → motive base owner (row :: rest))
    (start : ∀ base owner row rest layer, row.step base owner = .start layer → motive base .ofClass rest →
      motive base owner (row :: rest))
    (nest : ∀ base owner row rest name, row.step base owner = .nest name →
      motive (nestedBase base) .nothing (row :: rest) → (∀ n, motive base owner (rest.drop n)) →
      motive base owner (row :: rest))
    (member : ∀ base owner row rest invariant, row.step base owner = .member invariant →
      motive base (.ofField row.name) rest → motive base owner (row :: rest)) :
    ∀ base owner rows, motive base owner rows
  | base, owner, [] => nil base owner
  | base, owner, row :: rest =>
    have ih : ∀ base' owner' rows', rows'.length ≤ rest.length → motive base' owner' rows' :=
      fun base' owner' rows' _ =>
        readLevel_induction nil fault skip finish start nest member base' owner' rows'
    match h : row.step base owner with
    | .fault f => fault base owner row rest f h
    | .skip => skip base owner row rest h (ih base owner rest (Nat.le_refl _))
    | .finish => finish base owner row rest h
    | .start layer => start base owner row rest layer h (ih base .ofClass rest (Nat.le_refl _))
    | .nest name =>
      nest base owner row rest name h
        (readLevel_induction nil fault skip finish start nest member (nestedBase base) .nothing (row :: rest))
        fun n => ih base owner (rest.drop n) (by simp)
    | .member invariant =>
      member base owner row rest invariant h (ih base (.ofField row.name) rest (Nat.le_refl _))
termination_by base _ rows => (rows.length, maxLayer - base)
decreasing_by
  · exact Prod.Lex.left _ _ (by simp; omega)
  · cases Row.steps_of_step h with
    | nested _ parse above =>
      have le := Row.layer_le parse
      apply Prod.Lex.right
      unfold nestedBase
      omega

theorem consumed_pos_of_nest {base : Nat} {owner : Owner} {row : Row} {rest : List Row} {name : String}
    {inner : Level} (h : row.step base owner = .nest name)
    (read : (readLevel (nestedBase base) .nothing (row :: rest)).result = .ok inner) : 0 < inner.consumed := by
  rw [readLevel_cons] at read
  rcases Row.step_nested h with start | ⟨fault, fails⟩
  · simp only [start] at read
    obtain ⟨-, -, read⟩ := Logged.result_bind_eq_ok.1 read
    obtain ⟨level, -, read⟩ := Logged.result_bind_eq_ok.1 read
    cases read
    exact Nat.succ_pos level.consumed
  · simp only [fails] at read
    cases read

theorem drop_cons_of_pos {row : Row} {rest : List Row} {n : Nat} (h : 0 < n) :
    (row :: rest).drop n = rest.drop (n - 1) := by
  cases n with
  | zero => cases h
  | succ n => rfl

theorem row_of_readLevel_error :
    ∀ base owner rows fault, (readLevel base owner rows).result = .error fault →
      ∃ row ∈ rows, fault.row = row.index := by
  have later : ∀ {row : Row} {rows rest : List Row} {fault : RowFault}, rows <:+ rest →
      (∃ r ∈ rows, fault.row = r.index) → ∃ r ∈ row :: rest, fault.row = r.index := by
    rintro row rows rest fault suffix ⟨r, mem, same⟩
    exact ⟨r, List.mem_cons_of_mem row (suffix.subset mem), same⟩
  apply readLevel_induction
  case nil =>
    intro base owner fault h
    rw [readLevel] at h
    cases h
  case fault =>
    intro base owner row rest f step fault h
    rw [readLevel_cons, step] at h
    cases h
    exact ⟨row, List.mem_cons_self .., Row.row_of_step_fault step⟩
  case skip =>
    intro base owner row rest step ih fault h
    rw [readLevel_cons, step] at h
    obtain ⟨⟨⟩⟩ | ⟨-, -, h⟩ := Logged.result_bind_eq_error.1 h
    obtain h | ⟨-, -, ⟨⟩⟩ := Logged.result_bind_eq_error.1 h
    exact later (List.suffix_refl rest) (ih fault h)
  case finish =>
    intro base owner row rest step fault h
    rw [readLevel_cons, step] at h
    cases h
  case start =>
    intro base owner row rest layer step ih fault h
    rw [readLevel_cons, step] at h
    obtain ⟨⟨⟩⟩ | ⟨-, -, h⟩ := Logged.result_bind_eq_error.1 h
    obtain h | ⟨-, -, ⟨⟩⟩ := Logged.result_bind_eq_error.1 h
    exact later (List.suffix_refl rest) (ih fault h)
  case nest =>
    intro base owner row rest name step ihInner ih fault h
    rw [readLevel_cons, step] at h
    obtain h | ⟨inner, -, h⟩ := Logged.result_bind_eq_error.1 h
    · exact ihInner fault h
    · obtain ⟨⟨⟩⟩ | ⟨-, -, h⟩ := Logged.result_bind_eq_error.1 h
      obtain h | ⟨-, -, ⟨⟩⟩ := Logged.result_bind_eq_error.1 h
      exact later (List.drop_suffix (inner.consumed - 1) rest) (ih (inner.consumed - 1) fault h)
  case member =>
    intro base owner row rest invariant step ih fault h
    rw [readLevel_cons, step] at h
    obtain h | ⟨-, -, ⟨⟩⟩ := Logged.result_bind_eq_error.1 h
    exact later (List.suffix_refl rest) (ih fault h)

theorem row_of_buildForest_error {base : Nat} {rows : List Row} {fault : RowFault}
    (h : (buildForest base rows).result = .error fault) : ∃ row ∈ rows, fault.row = row.index := by
  obtain h | ⟨-, -, ⟨⟩⟩ := Logged.result_bind_eq_error.1 h
  obtain h | ⟨-, -, ⟨⟩⟩ := Logged.result_bind_eq_error.1 h
  exact row_of_readLevel_error base .nothing rows fault h

end ClassTable
