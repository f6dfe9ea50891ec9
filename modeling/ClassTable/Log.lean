set_option autoImplicit false

namespace ClassTable

inductive Event where
  | skippedRow (row : Nat)
  | classStart (row layer : Nat) (name : String)
  | nestedTable (row : Nat) (field : String) (classes consumed : Nat)
  | builtForest (rows consumed classes : Nat)
  | columnAbsent (header key : String)
  | classNameStyle (name : String)
  | fieldNameStyle (className field : String)
  | classRepeated (name : String)
deriving DecidableEq, Repr

inductive Severity where
  | trace
  | debug
  | warn
deriving DecidableEq, Repr

namespace Event

def severity : Event → Severity
  | skippedRow .. => .trace
  | classStart .. => .debug
  | nestedTable .. => .debug
  | builtForest .. => .debug
  | columnAbsent .. => .warn
  | classNameStyle .. => .warn
  | fieldNameStyle .. => .warn
  | classRepeated .. => .warn

def message : Event → String
  | skippedRow .. => "Skipping logically deleted row"
  | classStart .. => "Class start"
  | nestedTable .. => "Nested table"
  | builtForest .. => "Built definition forest"
  | columnAbsent .. => "Optional column not found, treating as empty"
  | classNameStyle .. => "Class name is not PascalCase"
  | fieldNameStyle .. => "Field name is not camelCase"
  | classRepeated .. => "Class rendered more than once, keeping the last definition"

end Event

theorem except_bind_eq_ok {ε α β : Type} {x : Except ε α} {f : α → Except ε β} {b : β} :
    x.bind f = .ok b ↔ ∃ a, x = .ok a ∧ f a = .ok b := by
  cases x <;> simp [Except.bind]

theorem except_map_eq_ok {ε α β : Type} {x : Except ε α} {f : α → β} {b : β} :
    x.map f = .ok b ↔ ∃ a, x = .ok a ∧ f a = b := by
  cases x <;> simp [Except.map]

theorem except_bind_eq_error {ε α β : Type} {x : Except ε α} {f : α → Except ε β} {e : ε} :
    x.bind f = .error e ↔ x = .error e ∨ ∃ a, x = .ok a ∧ f a = .error e := by
  cases x <;> simp [Except.bind]

/-- The events of a run, oldest first, and its result. -/
structure Logged (ε α : Type) where
  events : List Event
  result : Except ε α

namespace Logged

variable {ε δ α β : Type}

protected def pure (a : α) : Logged ε α := ⟨[], .ok a⟩

protected def bind (x : Logged ε α) (f : α → Logged ε β) : Logged ε β :=
  match x.result with
  | .error e => ⟨x.events, .error e⟩
  | .ok a => ⟨x.events ++ (f a).events, (f a).result⟩

instance : Monad (Logged ε) where
  pure := Logged.pure
  bind := Logged.bind

def fail (e : ε) : Logged ε α := ⟨[], .error e⟩

def tell (events : List Event) : Logged ε Unit := ⟨events, .ok ()⟩

def ofExcept (r : Except ε α) : Logged ε α := ⟨[], r⟩

def mapError (f : ε → δ) (x : Logged ε α) : Logged δ α := ⟨x.events, x.result.mapError f⟩

def warnings (x : Logged ε α) : List Event := x.events.filter (·.severity == .warn)

@[simp] theorem result_pure (a : α) : (pure a : Logged ε α).result = .ok a := rfl

@[simp] theorem result_fail (e : ε) : (fail e : Logged ε α).result = .error e := rfl

@[simp] theorem result_tell (events : List Event) : (tell events : Logged ε Unit).result = .ok () := rfl

@[simp] theorem result_ofExcept (r : Except ε α) : (ofExcept r).result = r := rfl

@[simp] theorem result_mapError (f : ε → δ) (x : Logged ε α) :
    (x.mapError f).result = x.result.mapError f := rfl

theorem result_mapError_eq_ok {f : ε → δ} {x : Logged ε α} {a : α} :
    (x.mapError f).result = .ok a ↔ x.result = .ok a := by
  rw [result_mapError]
  cases x.result with
  | ok b =>
    change (.ok b : Except δ α) = .ok a ↔ _
    simp
  | error e => exact iff_of_false nofun nofun

theorem result_mapError_eq_error {f : ε → δ} {x : Logged ε α} {e : δ} :
    (x.mapError f).result = .error e ↔ ∃ cause, x.result = .error cause ∧ f cause = e := by
  rw [result_mapError]
  cases x.result with
  | ok a => exact iff_of_false nofun nofun
  | error cause =>
    change (.error (f cause) : Except δ α) = .error e ↔ _
    simp

@[simp] theorem result_bind (x : Logged ε α) (f : α → Logged ε β) :
    (x >>= f).result = x.result.bind fun a => (f a).result := by
  change (Logged.bind x f).result = _
  unfold Logged.bind
  cases x.result <;> rfl

theorem bind_of_error {x : Logged ε α} {f : α → Logged ε β} {e : ε} (h : x.result = .error e) :
    (x >>= f) = ⟨x.events, .error e⟩ := by
  change Logged.bind x f = _
  unfold Logged.bind
  rw [h]

theorem bind_of_ok {x : Logged ε α} {f : α → Logged ε β} {a : α} (h : x.result = .ok a) :
    (x >>= f) = ⟨x.events ++ (f a).events, (f a).result⟩ := by
  change Logged.bind x f = _
  unfold Logged.bind
  rw [h]

theorem events_bind_of_ok {x : Logged ε α} {f : α → Logged ε β} {a : α} (h : x.result = .ok a) :
    (x >>= f).events = x.events ++ (f a).events := by
  change (Logged.bind x f).events = _
  unfold Logged.bind
  rw [h]

theorem result_bind_eq_ok {x : Logged ε α} {f : α → Logged ε β} {b : β} :
    (x >>= f).result = .ok b ↔ ∃ a, x.result = .ok a ∧ (f a).result = .ok b := by
  rw [result_bind]
  exact except_bind_eq_ok

theorem result_bind_eq_error {x : Logged ε α} {f : α → Logged ε β} {e : ε} :
    (x >>= f).result = .error e ↔ x.result = .error e ∨ ∃ a, x.result = .ok a ∧ (f a).result = .error e := by
  rw [result_bind]
  exact except_bind_eq_error

end Logged

end ClassTable
