import ClassTable.Proofs.Building
import ClassTable.Proofs.Checking

/-!
What generation accepts, in terms of the rows alone.  Whether a class has fields, and where it stands among
the classes of a forest, shows in the row that follows it: a class has fields exactly when the next live row
lies one layer deeper (`allComplete_forestLayout`).  So the conditions on rows in `Generable` decide whether
a run succeeds (`generate_outcome`), whatever the project is.
-/

set_option autoImplicit false

namespace ClassTable

def Line.Complete (next : Option Line) : Line → Prop
  | ofClass layer name description =>
    (Text.isBlankText name = false ∧ Text.isBlankText description = false) ∧
      ∃ line, next = some line ∧ line.layer = layer + 1
  | ofField _ name dataType _ _ _ => Text.isBlankText name = false ∧ Text.isBlankText dataType = false

def AllComplete : List Line → Prop
  | [] => True
  | line :: rest => line.Complete rest.head? ∧ AllComplete rest

def Line.className? : Line → Option String
  | ofClass _ name _ => some name
  | ofField .. => none

section Layouts

variable {layer : Nat} {fields : List FieldDef} {rest : List Line}

theorem field_follows_iff (below : StartsBelow (layer + 1) rest) :
    (∃ line, (fieldsLayout (layer + 1) fields ++ rest).head? = some line ∧ line.layer = layer + 1) ↔
      fields ≠ [] := by
  cases fields with
  | cons f fields => simp
  | nil =>
    cases rest with
    | nil => simp
    | cons line rest =>
      have lower : line.layer < layer + 1 := below
      simp [Nat.ne_of_lt lower]

mutual

theorem allComplete_fieldsLayout (layer : Nat) :
    ∀ (fields : List FieldDef) {rest : List Line}, StartsBelow (layer + 1) rest →
      (AllComplete (fieldsLayout layer fields ++ rest) ↔
        ((∀ f ∈ fields, Text.isBlankText f.name = false ∧ Text.isBlankText f.dataType = false) ∧
          ∀ c ∈ fieldsWalk fields, c.fault? = none) ∧ AllComplete rest)
  | [], rest, _ => by simp [fieldsWalk]
  | ⟨name, dataType, initialValue, description, invariant, children⟩ :: fields, rest, below => by
    have deeper := (startsBelow_fieldsLayout layer fields below).mono (Nat.le_succ (layer + 1))
    rw [fieldsLayout_cons, List.cons_append, List.append_assoc]
    simp only [AllComplete, Line.Complete, allComplete_forestLayout (layer + 1) children deeper,
      allComplete_fieldsLayout layer fields below, List.forall_mem_cons, fieldsWalk, List.forall_mem_append]
    tauto

theorem allComplete_forestLayout (layer : Nat) :
    ∀ (forest : List ClassDef) {rest : List Line}, StartsBelow (layer + 1) rest →
      (AllComplete (forestLayout layer forest ++ rest) ↔
        (∀ c ∈ forestWalk forest, c.fault? = none) ∧ AllComplete rest)
  | [], rest, _ => by simp [forestWalk]
  | ⟨name, description, fields⟩ :: forest, rest, below => by
    have after := startsBelow_forestLayout layer forest below
    have deeper := after.mono (Nat.le_succ (layer + 1))
    rw [forestLayout_cons, List.cons_append, List.append_assoc]
    simp only [AllComplete, Line.Complete, field_follows_iff after,
      allComplete_fieldsLayout (layer + 1) fields deeper, allComplete_forestLayout layer forest below,
      forestWalk, ClassDef.walk, List.cons_append, List.forall_mem_cons, List.forall_mem_append,
      ClassDef.fault?_eq_none_iff (c := ⟨name, description, fields⟩)]
    tauto

end

mutual

theorem classNames_fieldsLayout (layer : Nat) :
    ∀ fields : List FieldDef,
      (fieldsLayout layer fields).filterMap Line.className? = (fieldsWalk fields).map ClassDef.name
  | [] => rfl
  | ⟨name, dataType, initialValue, description, invariant, children⟩ :: fields => by
    rw [fieldsLayout_cons, List.filterMap_cons_none rfl, List.filterMap_append,
      classNames_forestLayout (layer + 1) children, classNames_fieldsLayout layer fields, fieldsWalk,
      List.map_append]

theorem classNames_forestLayout (layer : Nat) :
    ∀ forest : List ClassDef,
      (forestLayout layer forest).filterMap Line.className? = (forestWalk forest).map ClassDef.name
  | [] => rfl
  | ⟨name, description, fields⟩ :: forest => by
    have start : (Line.ofClass layer name description).className? = some name := rfl
    rw [forestLayout_cons, List.filterMap_cons_some start, List.filterMap_append,
      classNames_fieldsLayout (layer + 1) fields, classNames_forestLayout layer forest, forestWalk,
      ClassDef.walk, List.map_append, List.map_cons, List.cons_append]

end

end Layouts

namespace Row

def startsClass (r : Row) : Bool :=
  match r.layer with
  | .ok layer => layer % 2 == 0
  | .error _ => false

/-- What a live row needs so that its class or field can be written, given the live row after it. -/
structure Complete (next : Option Row) (r : Row) : Prop where
  field : ∀ layer, r.layer = .ok layer → layer % 2 = 1 →
    (∃ invariant, r.isInvariant = .ok invariant) ∧ Text.isBlankText r.name = false ∧
      Text.isBlankText r.dataType = false
  start : ∀ layer, r.layer = .ok layer → layer % 2 = 0 →
    (Text.isBlankText r.name = false ∧ Text.isBlankText r.description = false) ∧
      ∃ row, next = some row ∧ row.layer = .ok (layer + 1)

end Row

/-- Layers that can be read, start at zero and rise by at most one from row to row. -/
def Layered : Option Nat → List Row → Prop
  | _, [] => True
  | last, r :: rest => ∃ layer, r.layer = .ok layer ∧ Follows rootBase last layer ∧ Layered (some layer) rest

def classNames (rows : List Row) : List String :=
  ((rows.filter Row.isLive).filter Row.startsClass).map Row.name

/-- What rows need so that sources can be generated from them. -/
structure Generable (rows : List Row) : Prop where
  flags : ∀ r ∈ rows, ∃ deleted, r.isDeleted = .ok deleted
  layers : Layered none (rows.filter Row.isLive)
  complete : ∀ before r after, rows.filter Row.isLive = before ++ r :: after → r.Complete after.head?
  distinct : (classNames rows).Nodup

section Rows

variable {live : List Row} {lines : List Line} {last : Option Nat}

theorem forall_split_cons {α : Type} {P : α → List α → Prop} {y : α} {ys : List α} :
    (∀ before x after, y :: ys = before ++ x :: after → P x after) ↔
      P y ys ∧ ∀ before x after, ys = before ++ x :: after → P x after := by
  constructor
  · intro h
    refine ⟨h [] y ys rfl, ?_⟩
    rintro before x after rfl
    exact h (y :: before) x after rfl
  · rintro ⟨here, there⟩ before x after split
    cases before with
    | nil =>
      cases split
      exact here
    | cons _ before =>
      cases split
      exact there before x after rfl

theorem Row.line_eq_ok {r : Row} {l : Line} (h : r.line = .ok l) :
    (∃ layer, r.layer = .ok layer ∧ layer % 2 = 0 ∧ l = .ofClass layer r.name r.description) ∨
    ∃ layer invariant, r.layer = .ok layer ∧ layer % 2 = 1 ∧ r.isInvariant = .ok invariant ∧
      l = .ofField layer r.name r.dataType r.initialValue r.description invariant := by
  have parse := Row.layer_of_line h
  rcases Nat.mod_two_eq_zero_or_one l.layer with even | odd
  · have same := Except.ok.inj (h.symm.trans (Row.line_of_even parse even))
    exact .inl ⟨_, parse, even, same⟩
  · cases flag : r.isInvariant with
    | error fault => cases h.symm.trans (Row.line_of_invariant_fault parse odd flag)
    | ok invariant =>
      have same := Except.ok.inj (h.symm.trans (Row.line_of_odd parse odd flag))
      exact .inr ⟨_, invariant, parse, odd, rfl, same⟩

theorem layered_iff (say : Say live lines) : Layered last live ↔ WellPlaced rootBase last lines := by
  induction say generalizing last with
  | nil => exact Iff.rfl
  | @cons r line live lines read _ ih =>
    have parse := Row.layer_of_line read
    simp only [Layered, WellPlaced, parse, Except.ok.injEq, exists_eq_left', ih]
    simp [rootBase]

theorem complete_iff {r : Row} {line : Line} (read : r.line = .ok line) (say : Say live lines) :
    r.Complete live.head? ↔ line.Complete lines.head? := by
  have next : ∀ layer, (∃ row, live.head? = some row ∧ row.layer = .ok layer) ↔
      ∃ line, lines.head? = some line ∧ line.layer = layer := fun layer => by
    cases say with
    | nil => simp
    | cons read _ => simp [Row.layer_of_line read]
  obtain ⟨layer, parse, even, rfl⟩ | ⟨layer, invariant, parse, odd, flag, rfl⟩ := Row.line_eq_ok read
  · constructor
    · intro h
      obtain ⟨texts, follows⟩ := h.start layer parse even
      exact ⟨texts, (next _).1 follows⟩
    · rintro ⟨texts, follows⟩
      refine ⟨fun n hn odd => ?_, fun n hn _ => ?_⟩
      · obtain rfl := Except.ok.inj (parse.symm.trans hn)
        omega
      · obtain rfl := Except.ok.inj (parse.symm.trans hn)
        exact ⟨texts, (next _).2 follows⟩
  · constructor
    · exact fun h => (h.field layer parse odd).2
    · intro texts
      refine ⟨fun _ _ _ => ⟨⟨invariant, flag⟩, texts⟩, fun n hn even => ?_⟩
      obtain rfl := Except.ok.inj (parse.symm.trans hn)
      omega

theorem allComplete_iff (say : Say live lines) :
    (∀ before r after, live = before ++ r :: after → r.Complete after.head?) ↔ AllComplete lines := by
  induction say with
  | nil => simp [AllComplete]
  | cons read say ih => rw [forall_split_cons, ih, complete_iff read say, AllComplete]

theorem classNames_of_say (say : Say live lines) :
    (live.filter Row.startsClass).map Row.name = lines.filterMap Line.className? := by
  induction say with
  | nil => rfl
  | @cons r line live lines read _ ih =>
    obtain ⟨layer, parse, even, rfl⟩ | ⟨layer, invariant, parse, odd, -, rfl⟩ := Row.line_eq_ok read
    · have starts : r.startsClass = true := by simp [Row.startsClass, parse, even]
      rw [List.filter_cons_of_pos starts, List.map_cons, ih]
      rfl
    · have starts : ¬r.startsClass = true := by simp [Row.startsClass, parse, odd]
      rw [List.filter_cons_of_neg starts, ih]
      rfl

theorem exists_say (layers : Layered last live)
    (complete : ∀ before r after, live = before ++ r :: after → r.Complete after.head?) :
    ∃ lines, Say live lines := by
  induction live generalizing last with
  | nil => exact ⟨[], .nil⟩
  | cons r live ih =>
    obtain ⟨layer, parse, -, layers⟩ := layers
    obtain ⟨here, complete⟩ := forall_split_cons.1 complete
    obtain ⟨lines, say⟩ := ih layers complete
    rcases Nat.mod_two_eq_zero_or_one layer with even | odd
    · exact ⟨_, .cons (Row.line_of_even parse even) say⟩
    · obtain ⟨⟨invariant, flag⟩, -⟩ := here.field layer parse odd
      exact ⟨_, .cons (Row.line_of_odd parse odd flag) say⟩

end Rows

section Forests

variable {rows : List Row} {forest : List ClassDef}

theorem scan_root {last : Option Nat} {lines : List Line} {rest : List Row}
    (h : scan rootBase last rows = .ok (lines, rest)) : rest = [] := by
  induction rows generalizing last lines with
  | nil =>
    cases h
    rfl
  | cons row rows ih =>
    obtain ⟨-, h⟩ | ⟨-, ⟨layer, -, low⟩, -, -⟩ | ⟨_, _, -, -, -, -, -, h⟩ := scan_cons_ok h
    · exact ih h
    · exact absurd low (Nat.not_lt_of_le (Nat.le_add_left 1 layer))
    · exact ih h

theorem buildForest_root_iff :
    (buildForest rootBase rows).result = .ok forest ↔
      (∀ r ∈ rows, ∃ deleted, r.isDeleted = .ok deleted) ∧
        Say (rows.filter Row.isLive) (forestLayout 0 forest) ∧
        WellPlaced rootBase none (forestLayout 0 forest) := by
  rw [buildForest_ok_iff (show rootBase % 2 = 1 from rfl), ← scan_complete_iff]
  constructor
  · rintro ⟨rest, read⟩
    obtain rfl := scan_root read
    exact read
  · exact fun read => ⟨[], read⟩

theorem allComplete_layout : AllComplete (forestLayout 0 forest) ↔ ∀ c ∈ forestWalk forest, c.fault? = none := by
  have all := allComplete_forestLayout 0 forest (startsBelow_nil (0 + 1))
  simpa [AllComplete] using all

/-- Once a forest is built, the conditions on the rows are those that the check makes on the forest. -/
theorem generable_iff_check (built : (buildForest rootBase rows).result = .ok forest) :
    Generable rows ↔ (checkForest .reject forest).result = .ok () := by
  obtain ⟨flags, say, placed⟩ := buildForest_root_iff.1 built
  have names : classNames rows = (forestWalk forest).map ClassDef.name :=
    (classNames_of_say say).trans (classNames_forestLayout 0 forest)
  have complete := (allComplete_iff say).trans allComplete_layout
  rw [checkForest, checkClasses_reject_iff, ← names, ← complete]
  constructor
  · exact fun h => ⟨h.complete, h.distinct, fun _ _ => List.not_mem_nil⟩
  · exact fun ⟨complete, distinct, _⟩ => ⟨flags, (layered_iff say).2 placed, complete, distinct⟩

theorem Generable.build (h : Generable rows) : ∃ forest, (buildForest rootBase rows).result = .ok forest := by
  obtain ⟨lines, say⟩ := exists_say h.layers h.complete
  have read := scan_complete h.flags say ((layered_iff say).1 h.layers)
  exact (buildForest_isOk_iff (by decide)).2 ⟨_, read⟩

theorem generate_result (project : Project) (rows : List Row) :
    (generate project rows).result =
      match (buildForest rootBase rows).result with
      | .error fault => .error (.row fault)
      | .ok forest => ((Renderer.standard project).render forest).result := by
  unfold generate
  rw [Logged.result_bind, Logged.result_mapError]
  cases (buildForest rootBase rows).result <;> rfl

end Forests

/-- Generation succeeds exactly on the rows that meet the conditions, with one source for each class and
under its name.  It fails with the fault of the build if there is one, otherwise with a class that lacks
something or repeats a name; no template ever fails. -/
theorem generate_outcome (project : Project) (rows : List Row) :
    ((∃ sources, (generate project rows).result = .ok sources) ↔ Generable rows) ∧
      match (generate project rows).result with
      | .ok sources => (Keyed.keys sources).Perm (classNames rows)
      | .error fault =>
        match (buildForest rootBase rows).result with
        | .error rowFault => fault = .row rowFault
        | .ok _ => fault.isPrecondition = true := by
  rw [generate_result]
  cases built : (buildForest rootBase rows).result with
  | error rowFault =>
    refine ⟨⟨fun ⟨_, h⟩ => (nomatch h), fun h => ?_⟩, rfl⟩
    obtain ⟨forest, built'⟩ := h.build
    cases built.symm.trans built'
  | ok forest =>
    simp only [render_standard, generable_iff_check built]
    cases check : (checkForest .reject forest).result with
    | error fault => exact ⟨⟨fun ⟨_, h⟩ => (nomatch h), fun h => (nomatch h)⟩, rfl⟩
    | ok _ =>
      refine ⟨⟨fun _ => rfl, fun _ => ⟨_, rfl⟩⟩, ?_⟩
      obtain ⟨-, say, -⟩ := buildForest_root_iff.1 built
      obtain ⟨-, distinct, -⟩ := checkClasses_reject_iff.1 check
      have names : classNames rows = (forestWalk forest).map ClassDef.name :=
        (classNames_of_say say).trans (classNames_forestLayout 0 forest)
      have keys : (addTexts project [] (forestWalk forest)).keys.Perm
          ((forestWalk forest).map ClassDef.name ++ Keyed.keys []) :=
        keys_addTexts distinct fun _ _ => List.not_mem_nil
      rw [names]
      simpa [Keyed.keys] using keys

end ClassTable
