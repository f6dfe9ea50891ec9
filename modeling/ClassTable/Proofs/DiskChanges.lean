import ClassTable.Disk
import ClassTable.Log
import ClassTable.Proofs.Keyed
import ClassTable.Proofs.Paths
import Mathlib.Data.List.Infix
import Mathlib.Tactic.SplitIfs

set_option autoImplicit false

namespace ClassTable

namespace Disk

open Text (Bytes)

variable {d d' d'' : Disk} {p q : Place} {e : DiskEntry} {name : String} {names front : List String}

def locate (d : Disk) (path : String) : Except DiskFault Place := d.walk (d.startOf path) (Path.components path)

/-- Holds of a later state, in which all that were directories still are. -/
structure Extends (d d' : Disk) : Prop where
  working : d'.working = d.working
  directories : ∀ p, d.entry? p = some .directory → d'.entry? p = some .directory

section Entries

theorem entry?_nil (d : Disk) : d.entry? [] = some .directory := if_pos rfl

theorem entry?_put (d : Disk) (q : Place) (e : DiskEntry) (inner : p ≠ []) :
    entry? (d.put p e) q = if q = p then some e else d.entry? q := by
  unfold put entry?
  by_cases same : q = p
  · rw [if_neg (same ▸ inner), if_pos same, List.lookup_append, Keyed.lookup_filter_bne,
      if_pos (beq_iff_eq.2 same), same]
    simp
  · rw [if_neg same, List.lookup_append, Keyed.lookup_filter_bne, if_neg (mt beq_iff_eq.1 same)]
    have last : List.lookup q [(p, e)] = none := by
      rw [List.lookup_cons, beq_eq_false_iff_ne.2 same]
      rfl
    rw [last, Option.or_none]

end Entries

namespace Extends

theorem refl (d : Disk) : Extends d d := ⟨rfl, fun _ h => h⟩

theorem trans (first : Extends d d') (second : Extends d' d'') : Extends d d'' :=
  ⟨second.working.trans first.working, fun p h => second.directories p (first.directories p h)⟩

theorem put (d : Disk) (e : DiskEntry) (free : d.entry? p ≠ some .directory) : Extends d (d.put p e) := by
  have inner : p ≠ [] := fun root => free (root ▸ entry?_nil d)
  refine ⟨rfl, fun q dir => ?_⟩
  have other : q ≠ p := fun same => free (same ▸ dir)
  rw [entry?_put d q e inner, if_neg other]
  exact dir

theorem startOf (h : Extends d d') (path : String) : d'.startOf path = d.startOf path := by
  unfold Disk.startOf
  rw [h.working]

end Extends

section Walks

theorem directory_of_step (h : d.step p name = .ok q) : d.entry? p = some .directory := by
  unfold step at h
  cases entry : d.entry? p with
  | none => simp [entry] at h
  | some e =>
    cases e with
    | file content => simp [entry] at h
    | directory => rfl

theorem step_dot (dir : d.entry? p = some .directory) : d.step p "." = .ok p := by
  rw [step, dir]
  exact if_pos rfl

theorem Extends.step (h : Extends d d') (ok : d.step p name = .ok q) : d'.step p name = .ok q := by
  have dir := directory_of_step ok
  have dir' := h.directories p dir
  rw [Disk.step, dir] at ok
  rw [Disk.step, dir']
  exact ok

theorem walk_cons_ok : d.walk p (name :: names) = .ok q ↔ ∃ p', d.step p name = .ok p' ∧ d.walk p' names = .ok q :=
  except_bind_eq_ok

theorem walk_append_ok :
    d.walk p (front ++ names) = .ok q ↔ ∃ p', d.walk p front = .ok p' ∧ d.walk p' names = .ok q := by
  induction front generalizing p with
  | nil =>
    constructor
    · exact fun h => ⟨p, rfl, h⟩
    · rintro ⟨p', ⟨⟩, h⟩
      exact h
  | cons name front ih =>
    rw [List.cons_append, walk_cons_ok]
    constructor
    · rintro ⟨p₁, first, rest⟩
      obtain ⟨p₂, rest, last⟩ := ih.1 rest
      exact ⟨p₂, walk_cons_ok.2 ⟨p₁, first, rest⟩, last⟩
    · rintro ⟨p₂, rest, last⟩
      obtain ⟨p₁, first, rest⟩ := walk_cons_ok.1 rest
      exact ⟨p₁, first, ih.2 ⟨p₂, rest, last⟩⟩

theorem Extends.walk (h : Extends d d') (ok : d.walk p names = .ok q) : d'.walk p names = .ok q := by
  induction names generalizing p with
  | nil => exact ok
  | cons name names ih =>
    obtain ⟨p', first, rest⟩ := walk_cons_ok.1 ok
    exact walk_cons_ok.2 ⟨p', h.step first, ih rest⟩

theorem Extends.locate {path : String} (h : Extends d d') (ok : d.locate path = .ok q) :
    d'.locate path = .ok q := by
  unfold Disk.locate
  rw [h.startOf]
  exact h.walk ok

theorem resolve_eq_ok : d.resolve p names = .ok (q, e) ↔ d.walk p names = .ok q ∧ d.entry? q = some e := by
  constructor
  · intro h
    obtain ⟨place, led, h⟩ := except_bind_eq_ok.1 h
    cases entry : d.entry? place with
    | none => simp [entry] at h
    | some e' =>
      rw [entry] at h
      cases h
      exact ⟨led, entry⟩
  · rintro ⟨led, entry⟩
    refine except_bind_eq_ok.2 ⟨q, led, ?_⟩
    rw [entry]
    rfl

theorem walk_of_target (h : d.target p names = .ok q) : d.walk p names = .ok q := by
  obtain ⟨⟨parent, e⟩, found, last⟩ := except_bind_eq_ok.1 h
  obtain ⟨led, -⟩ := resolve_eq_ok.1 found
  rcases List.eq_nil_or_concat names with rfl | ⟨front, name, rfl⟩
  · cases led
    have stay := step_dot (directory_of_step last)
    exact stay.symm.trans last
  · rw [List.concat_eq_append] at *
    rw [List.dropLast_concat] at led
    rw [List.getLast?_concat] at last
    exact walk_append_ok.2 ⟨parent, led, walk_cons_ok.2 ⟨q, last, rfl⟩⟩

theorem startOf_join (d : Disk) (dir : String) (plain : Path.IsPlain name) :
    d.startOf (Path.join dir name) = d.startOf dir := by
  unfold startOf
  by_cases empty : dir = ""
  · have whole : Path.join dir name = name := by
      rw [empty]
      simp [Path.join]
    have relative : Path.isAbsolute dir = false := by
      rw [empty]
      decide
    rw [whole, plain.relative, relative]
  · rw [Path.isAbsolute_join empty plain]

theorem step_plain (plain : Path.IsPlain name) (h : d.step p name = .ok q) : q = p ++ [name] := by
  have dir := directory_of_step h
  rw [step, dir] at h
  dsimp only at h
  rw [if_neg plain.notCurrent, if_neg plain.notParent] at h
  split at h
  · cases h
  · exact (Except.ok.inj h).symm

theorem locate_join {dir : String} (plain : Path.IsPlain name)
    (led : d.locate (Path.join dir name) = .ok q) :
    ∃ parent, d.locate dir = .ok parent ∧ q = parent ++ [name] := by
  unfold locate at led
  rw [startOf_join d dir plain, Path.components_join dir plain] at led
  obtain ⟨parent, way, last⟩ := walk_append_ok.1 led
  obtain ⟨place, step, ⟨⟩⟩ := walk_cons_ok.1 last
  exact ⟨parent, way, step_plain plain step⟩

end Walks

section Files

variable {path : String} {content : Bytes}

theorem write_ok (h : d.write path content = .ok d') :
    (pathFault? path = none ∧ Path.endsInSlash path = false) ∧
      ∃ p, d.locate path = .ok p ∧ d.entry? p ≠ some .directory ∧ d' = d.put p (.file content) := by
  unfold write at h
  cases fault : pathFault? path with
  | some f => simp [fault] at h
  | none =>
    rw [fault] at h
    obtain ⟨p, found, h⟩ := except_bind_eq_ok.1 h
    cases ends : Path.endsInSlash path with
    | true => simp [ends] at h
    | false =>
      rw [ends, if_neg Bool.false_ne_true] at h
      refine ⟨⟨rfl, rfl⟩, p, walk_of_target found, ?_⟩
      split at h
      · cases h
      · next free =>
        cases h
        exact ⟨free, rfl⟩

theorem find_of_locate (readable : pathFault? path = none ∧ Path.endsInSlash path = false)
    (led : d.locate path = .ok p) (file : d.entry? p = some (.file content)) :
    d.find path = .ok (.file content) := by
  obtain ⟨noFault, ends⟩ := readable
  have found : d.resolve (d.startOf path) (Path.components path) = .ok (p, .file content) :=
    resolve_eq_ok.2 ⟨led, file⟩
  unfold find
  rw [noFault]
  refine except_bind_eq_ok.2 ⟨_, found, ?_⟩
  simp [ends]
  rfl

theorem find_directory_iff :
    d.find path = .ok .directory ↔
      pathFault? path = none ∧ ∃ p, d.locate path = .ok p ∧ d.entry? p = some .directory := by
  constructor
  · intro h
    unfold find at h
    cases fault : pathFault? path with
    | some f => simp [fault] at h
    | none =>
      rw [fault] at h
      obtain ⟨⟨p, e⟩, found, h⟩ := except_bind_eq_ok.1 h
      obtain ⟨led, entry⟩ := resolve_eq_ok.1 found
      cases e with
      | directory => exact ⟨rfl, p, led, entry⟩
      | file content =>
        dsimp only at h
        split at h <;> cases h
  · rintro ⟨noFault, p, led, dir⟩
    have found : d.resolve (d.startOf path) (Path.components path) = .ok (p, .directory) :=
      resolve_eq_ok.2 ⟨led, dir⟩
    unfold find
    rw [noFault]
    exact except_bind_eq_ok.2 ⟨_, found, rfl⟩

theorem Extends.find_directory (h : Extends d d') (there : d.find path = .ok .directory) :
    d'.find path = .ok .directory := by
  obtain ⟨noFault, p, led, dir⟩ := find_directory_iff.1 there
  exact find_directory_iff.2 ⟨noFault, p, h.locate led, h.directories p dir⟩

end Files

/-- What making directories along some names may do: add directories at places that the first names lead to. -/
structure Made (p : Place) (names : List String) (d d' : Disk) : Prop where
  grows : Extends d d'
  added : ∀ q, d'.entry? q ≠ d.entry? q → d.entry? q = none ∧ d'.entry? q = some .directory ∧
    ∃ front, front <+: names ∧ d'.walk p front = .ok q

namespace Made

theorem refl (p : Place) (names : List String) (d : Disk) : Made p names d d :=
  ⟨.refl d, fun _ changed => absurd rfl changed⟩

theorem trans (first : Made p names d d') (second : Made p names d' d'') : Made p names d d'' := by
  refine ⟨first.grows.trans second.grows, fun q changed => ?_⟩
  by_cases before : d'.entry? q = d.entry? q
  · obtain ⟨free, made, way⟩ := second.added q (before ▸ changed)
    exact ⟨before ▸ free, made, way⟩
  · obtain ⟨free, made, front, way, led⟩ := first.added q before
    exact ⟨free, second.grows.directories q made, front, way, second.grows.walk led⟩

theorem of_prefix (shorter : front <+: names) (made : Made p front d d') : Made p names d d' := by
  refine ⟨made.grows, fun q changed => ?_⟩
  obtain ⟨free, dir, start, way, led⟩ := made.added q changed
  exact ⟨free, dir, start, way.trans shorter, led⟩

end Made

section Directories

theorem makeAt_ok (h : d.makeAt p names = .ok d') :
    Made p names d d' ∧ ∃ q, d'.resolve p names = .ok (q, .directory) := by
  obtain ⟨place, found, h⟩ := except_bind_eq_ok.1 h
  have led := walk_of_target found
  cases entry : d.entry? place with
  | some e => simp [entry] at h
  | none =>
    rw [entry] at h
    cases h
    have free : d.entry? place ≠ some .directory := by simp [entry]
    have inner : place ≠ [] := fun root => free (root ▸ entry?_nil d)
    have grown := Extends.put d .directory free
    have here : entry? (d.put place .directory) place = some .directory := by
      rw [entry?_put d place .directory inner, if_pos rfl]
    refine ⟨⟨grown, fun q changed => ?_⟩, place, resolve_eq_ok.2 ⟨grown.walk led, here⟩⟩
    have same : q = place := by
      by_contra other
      rw [entry?_put d q .directory inner, if_neg other] at changed
      exact changed rfl
    rw [same]
    exact ⟨entry, here, names, List.prefix_refl names, grown.walk led⟩

theorem walk_of_filter (way : front <+: names.filter (· != ".")) (led : d.walk p front = .ok q) :
    ∃ front', front' <+: names ∧ d.walk p front' = .ok q := by
  induction names generalizing p front with
  | nil => exact ⟨front, way, led⟩
  | cons name names ih =>
    cases front with
    | nil => exact ⟨[], List.nil_prefix, led⟩
    | cons first front =>
      obtain ⟨p', step, rest⟩ := walk_cons_ok.1 led
      by_cases stays : name = "."
      · rw [List.filter_cons_of_neg (by simp [stays])] at way
        obtain ⟨front', way, led⟩ := ih way led
        have stay := step_dot (directory_of_step step)
        rw [stays]
        exact ⟨"." :: front', (List.prefix_cons_inj _).2 way, walk_cons_ok.2 ⟨p, stay, led⟩⟩
      · rw [List.filter_cons_of_pos (by simpa using stays), List.cons_prefix_cons] at way
        obtain ⟨rfl, way⟩ := way
        obtain ⟨front', way, rest⟩ := ih way rest
        exact ⟨first :: front', (List.prefix_cons_inj _).2 way, walk_cons_ok.2 ⟨p', step, rest⟩⟩

theorem walk_of_dropCurrent {absolute : Bool} (way : front <+: dropCurrent absolute names)
    (led : d.walk p front = .ok q) : ∃ front', front' <+: names ∧ d.walk p front' = .ok q := by
  cases front with
  | nil => exact ⟨[], List.nil_prefix, led⟩
  | cons first front =>
    obtain ⟨p', step, rest⟩ := walk_cons_ok.1 led
    induction names with
    | nil => exact ⟨first :: front, way, led⟩
    | cons name names ih =>
      unfold dropCurrent at way
      split at way
      · next skipped =>
        obtain ⟨rfl, stays⟩ : absolute = true ∧ name = "." := by simpa using skipped
        obtain ⟨front', way, led⟩ := ih way
        have stay := step_dot (directory_of_step step)
        rw [stays]
        exact ⟨"." :: front', (List.prefix_cons_inj _).2 way, walk_cons_ok.2 ⟨p, stay, led⟩⟩
      · rw [List.cons_prefix_cons] at way
        obtain ⟨rfl, way⟩ := way
        obtain ⟨front', way, rest⟩ := walk_of_filter way rest
        exact ⟨first :: front', (List.prefix_cons_inj _).2 way, walk_cons_ok.2 ⟨p', step, rest⟩⟩

theorem Made.of_dropCurrent {absolute : Bool} (made : Made p (dropCurrent absolute names) d d') :
    Made p names d d' := by
  refine ⟨made.grows, fun q changed => ?_⟩
  obtain ⟨free, dir, start, way, led⟩ := made.added q changed
  exact ⟨free, dir, walk_of_dropCurrent way led⟩

structure Tried (absolute : Bool) (p : Place) (names : List String) (d : Disk)
    (tried : Disk × Except DiskFault Unit) : Prop where
  made : Made p names d tried.1
  there : tried.2 = .ok () →
    (names = [] ∧ absolute = false) ∨ ∃ q, tried.1.resolve p names = .ok (q, .directory)

theorem tried_of_error {absolute : Bool} {fault : DiskFault} (made : Made p names d d') :
    Tried absolute p names d (d', .error fault) := ⟨made, nofun⟩

theorem tried_of_makeAt {absolute : Bool} (made : Made p names d d') (h : d'.makeAt p names = .ok d'') :
    Tried absolute p names d (d'', .ok ()) := by
  obtain ⟨last, there⟩ := makeAt_ok h
  exact ⟨made.trans last, fun _ => .inr there⟩

theorem tried_settle {absolute : Bool} (made : Made p names d d') (fault : DiskFault) :
    Tried absolute p names d
      (match d'.resolve p names with
      | .ok (_, .directory) => (d', .ok ())
      | _ => (d', .error fault)) := by
  split
  · next q found => exact ⟨made, fun _ => .inr ⟨q, found⟩⟩
  · exact tried_of_error made

theorem tried_makeAllAt (absolute : Bool) (p : Place) (bound : Nat) (d : Disk) (names : List String) :
    Tried absolute p names d (makeAllAt absolute p bound d names) := by
  -- On the bound, since each call is for the names without the last one.
  induction bound generalizing d names with
  | zero => exact tried_of_error (.refl p names d)
  | succ bound ih =>
    have start := Made.refl p names d
    rw [makeAllAt]
    split
    · next here =>
      obtain ⟨none, relative⟩ : names = [] ∧ absolute = false := by simpa using here
      exact ⟨start, fun _ => .inl ⟨none, relative⟩⟩
    · dsimp only
      split
      · next made => exact tried_of_makeAt start made
      · have above := ih d (dropCurrent absolute names).dropLast
        split
        · next d' fault stopped =>
          rw [stopped] at above
          exact tried_of_error (above.made.of_prefix (List.dropLast_prefix _)).of_dropCurrent
        · next d' done =>
          rw [done] at above
          have made : Made p names d d' := (above.made.of_prefix (List.dropLast_prefix _)).of_dropCurrent
          split
          · next last => exact tried_of_makeAt made last
          · exact tried_settle made _
      · exact tried_settle start _

end Directories

/-- Making a directory adds directories on its path and nothing else; if it succeeds the directory is there.
The empty path is no directory to make. -/
theorem makeDirectories_made (d : Disk) (path : String) :
    Made (d.startOf path) (Path.components path) d (d.makeDirectories path).1 ∧
      ((d.makeDirectories path).2 = .ok () → path ≠ "" → (d.makeDirectories path).1.find path = .ok .directory) := by
  unfold makeDirectories
  split
  · next empty => exact ⟨.refl _ _ d, fun _ nonempty => absurd (String.isEmpty_iff.1 empty) nonempty⟩
  · split
    · exact ⟨.refl _ _ d, nofun⟩
    · next noFault =>
      have tried := tried_makeAllAt (Path.isAbsolute path) (d.startOf path) ((Path.components path).length + 1)
        d (Path.components path)
      refine ⟨tried.made, fun done nonempty => ?_⟩
      obtain ⟨none, relative⟩ | ⟨q, found⟩ := tried.there done
      · exact absurd none (Path.components_ne_nil nonempty relative)
      · obtain ⟨led, dir⟩ := resolve_eq_ok.1 found
        refine find_directory_iff.2 ⟨noFault, q, ?_, dir⟩
        rw [locate, tried.made.grows.startOf]
        exact led

end Disk
end ClassTable
