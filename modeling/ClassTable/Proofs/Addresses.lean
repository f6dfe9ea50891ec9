import ClassTable.Proofs.Traversals
import Mathlib.Algebra.GroupWithZero.Nat
import Mathlib.Data.List.Sort

/-!
The entries of a forest by their addresses.  Equal classes and equal fields may stand in several places, so what
holds of each of them is said of its address, the path of numbers that leads to it.  Table order is the dictionary
order of the addresses (`lists_forestAddresses`).  The fields of a class therefore keep their order, and a class
that a field declares comes after the field with nothing in between but the entries of the earlier classes of that
field (`traversals_agree`).
-/

set_option autoImplicit false

namespace ClassTable

/-- The number of a root, then at each level the number of an entry directly below. -/
abbrev Address := List Nat

def roots (forest : List ClassDef) : List Entry := forest.map .start

namespace Entry

def below : Entry → List Entry
  | start c => c.fields.map member
  | member f => roots f.children

def flatten : Entry → List Entry
  | start c => c.flatten
  | member f => member f :: forestFlatten f.children

def at? : Entry → Address → Option Entry
  | e, [] => some e
  | e, i :: path => e.below[i]?.bind fun sub => sub.at? path

end Entry

/-- What stands at an address of a forest, given by its roots, or of any other siblings. -/
def entryAt? (siblings : List Entry) : Address → Option Entry
  | [] => none
  | i :: path => siblings[i]?.bind fun e => e.at? path

def numbered (groups : List (List Address)) : List Address :=
  groups.zipIdx.flatMap fun (paths, i) => paths.map (i :: ·)

mutual

def ClassDef.addresses : ClassDef → List Address
  | ⟨_, _, fields⟩ => [] :: numbered (fieldsAddresses fields)

def fieldsAddresses : List FieldDef → List (List Address)
  | [] => []
  | ⟨_, _, _, _, _, children⟩ :: rest => ([] :: numbered (classesAddresses children)) :: fieldsAddresses rest

def classesAddresses : List ClassDef → List (List Address)
  | [] => []
  | c :: rest => c.addresses :: classesAddresses rest

end

def Entry.addresses : Entry → List Address
  | start c => c.addresses
  | member f => [] :: numbered (classesAddresses f.children)

def forestAddresses (forest : List ClassDef) : List Address := numbered (classesAddresses forest)

/-- Holds when `addresses` are all those where `look` finds an entry, in dictionary order and hence each once, and
`entries` are what it finds there. -/
structure Lists (look : Address → Option Entry) (addresses : List Address) (entries : List Entry) : Prop where
  shown : addresses.map look = entries.map some
  all : ∀ p, p ∈ addresses ↔ (look p).isSome
  ordered : addresses.Pairwise (· < ·)

theorem Lists.filterMap {look : Address → Option Entry} {addresses : List Address} {entries : List Entry}
    {α : Type} (listed : Lists look addresses entries) (g : Entry → Option α) :
    addresses.filterMap (fun p => (look p).bind g) = entries.filterMap g := by
  calc addresses.filterMap (fun p => (look p).bind g)
      = (addresses.map look).filterMap fun found => found.bind g := by
        rw [List.filterMap_map]
        rfl
    _ = (entries.map some).filterMap fun found => found.bind g := by rw [listed.shown]
    _ = entries.filterMap g := by
        rw [List.filterMap_map]
        rfl

section Trees

theorem classesAddresses_eq_map (forest : List ClassDef) :
    classesAddresses forest = (roots forest).map Entry.addresses := by
  induction forest with
  | nil => rfl
  | cons c forest ih =>
    rw [classesAddresses, ih]
    rfl

theorem fieldsAddresses_eq_map (fields : List FieldDef) :
    fieldsAddresses fields = (fields.map Entry.member).map Entry.addresses := by
  induction fields with
  | nil => rfl
  | cons f fields ih =>
    cases f
    rw [fieldsAddresses, ih]
    rfl

theorem forestFlatten_eq_roots (forest : List ClassDef) :
    forestFlatten forest = (roots forest).flatMap Entry.flatten := by
  rw [forestFlatten_eq_flatMap, roots, List.flatMap_map]
  rfl

theorem fieldsFlatten_eq_flatMap (fields : List FieldDef) :
    fieldsFlatten fields = (fields.map Entry.member).flatMap Entry.flatten := by
  induction fields with
  | nil => rfl
  | cons f fields ih =>
    rw [fieldsFlatten_cons, ih]
    rfl

theorem Entry.addresses_eq (e : Entry) : e.addresses = [] :: numbered (e.below.map addresses) := by
  cases e with
  | start c =>
    cases c
    exact congrArg (fun groups => [] :: numbered groups) (fieldsAddresses_eq_map _)
  | member f => exact congrArg (fun groups => [] :: numbered groups) (classesAddresses_eq_map f.children)

theorem Entry.flatten_eq (e : Entry) : e.flatten = e :: e.below.flatMap flatten := by
  cases e with
  | start c =>
    cases c
    exact congrArg (start _ :: ·) (fieldsFlatten_eq_flatMap _)
  | member f => exact congrArg (member f :: ·) (forestFlatten_eq_roots f.children)

section

variable {motive : Entry → Prop} (step : ∀ e : Entry, (∀ sub ∈ e.below, motive sub) → motive e)

include step

mutual

theorem Entry.of_fields : ∀ fields : List FieldDef, ∀ e ∈ fields.map Entry.member, motive e
  | [], _, mem => nomatch mem
  | ⟨name, dataType, initialValue, description, invariant, children⟩ :: fields, e, mem => by
    obtain rfl | mem := List.mem_cons.1 mem
    · exact step _ (Entry.of_classes children)
    · exact Entry.of_fields fields e mem

theorem Entry.of_classes : ∀ forest : List ClassDef, ∀ e ∈ roots forest, motive e
  | [], _, mem => nomatch mem
  | ⟨name, description, fields⟩ :: forest, e, mem => by
    obtain rfl | mem := List.mem_cons.1 mem
    · exact step _ (Entry.of_fields fields)
    · exact Entry.of_classes forest e mem

end

theorem Entry.induct (e : Entry) : motive e := by
  cases e with
  | start c => exact Entry.of_classes step [c] _ (List.mem_singleton_self _)
  | member f => exact Entry.of_fields step [f] _ (List.mem_singleton_self _)

end

end Trees

section Numbering

variable {siblings : List Entry} {p : Address}

theorem mem_numbered {groups : List (List Address)} :
    p ∈ numbered groups ↔ ∃ i path paths, groups[i]? = some paths ∧ path ∈ paths ∧ p = i :: path := by
  simp only [numbered, List.mem_flatMap, List.mem_map, Prod.exists, List.mem_zipIdx_iff_getElem?]
  constructor
  · rintro ⟨paths, i, found, path, mem, rfl⟩
    exact ⟨i, path, paths, found, mem, rfl⟩
  · rintro ⟨i, path, paths, found, mem, rfl⟩
    exact ⟨paths, i, found, path, mem, rfl⟩

theorem ordered_zipIdx {α : Type} (xs : List α) : xs.zipIdx.Pairwise fun a b => a.2 < b.2 := by
  have numbers : (xs.zipIdx.map Prod.snd).Pairwise (· < ·) := by
    rw [List.zipIdx_map_snd]
    exact List.pairwise_lt_range'
  exact List.pairwise_map.1 numbers

theorem ordered_numbered {groups : List (List Address)} (ordered : ∀ paths ∈ groups, paths.Pairwise (· < ·)) :
    (numbered groups).Pairwise (· < ·) := by
  refine List.pairwise_flatMap.2 ⟨fun (paths, i) mem => ?_, (ordered_zipIdx groups).imp fun lt => ?_⟩
  · have here := ordered paths (List.mem_of_getElem? (List.mem_zipIdx_iff_getElem?.1 mem))
    exact List.pairwise_map.2 (here.imp fun lt => List.cons_lt_cons_iff.2 (.inr ⟨rfl, lt⟩))
  · simp only [List.mem_map, forall_exists_index, and_imp]
    rintro _ path - rfl _ path' - rfl
    exact List.cons_lt_cons_iff.2 (.inl lt)

theorem shown_numbered (shown : ∀ e ∈ siblings, e.addresses.map e.at? = e.flatten.map some) :
    (numbered (siblings.map Entry.addresses)).map (entryAt? siblings) =
      (siblings.flatMap Entry.flatten).map some := by
  have each : ∀ x ∈ siblings.zipIdx, ((x.1.addresses).map (x.2 :: ·)).map (entryAt? siblings) =
      x.1.flatten.map some := by
    rintro ⟨e, i⟩ mem
    have found : siblings[i]? = some e := List.mem_zipIdx_iff_getElem?.1 mem
    rw [← shown e (List.mem_of_getElem? found), List.map_map]
    refine List.map_congr_left fun path _ => ?_
    simp [entryAt?, found]
  have unnumbered : siblings.zipIdx.flatMap (fun x => x.1.flatten) = siblings.flatMap Entry.flatten := by
    rw [← List.flatMap_map Prod.fst Entry.flatten, List.zipIdx_map_fst]
  rw [numbered, List.zipIdx_map, List.flatMap_map, List.map_flatMap, ← unnumbered, List.map_flatMap]
  exact List.flatMap_congr each

theorem lists_siblings (each : ∀ e ∈ siblings, Lists e.at? e.addresses e.flatten) :
    Lists (entryAt? siblings) (numbered (siblings.map Entry.addresses)) (siblings.flatMap Entry.flatten) where
  shown := shown_numbered fun e mem => (each e mem).shown
  all p := by
    rw [mem_numbered]
    cases p with
    | nil => simp [entryAt?]
    | cons i path =>
      cases found : siblings[i]? with
      | none => simp [entryAt?, found]
      | some e =>
        have here := (each e (List.mem_of_getElem? found)).all path
        simp [entryAt?, found, here]
  ordered := by
    refine ordered_numbered fun paths mem => ?_
    obtain ⟨e, known, rfl⟩ := List.mem_map.1 mem
    exact (each e known).ordered

theorem Entry.lists (e : Entry) : Lists e.at? e.addresses e.flatten := by
  induction e using Entry.induct with
  | step e ih =>
    have rest := lists_siblings ih
    have inner : ∀ p ∈ numbered (e.below.map addresses), ∃ i path, p = i :: path := by
      intro p mem
      obtain ⟨i, path, -, -, -, same⟩ := mem_numbered.1 mem
      exact ⟨i, path, same⟩
    rw [addresses_eq, flatten_eq]
    refine ⟨?_, fun p => ?_, List.pairwise_cons.2 ⟨fun p mem => ?_, rest.ordered⟩⟩
    · have look : ∀ p ∈ numbered (e.below.map addresses), e.at? p = entryAt? e.below p := by
        intro p mem
        obtain ⟨i, path, rfl⟩ := inner p mem
        rfl
      rw [List.map_cons, List.map_congr_left look, rest.shown]
      rfl
    · cases p with
      | nil => simp [at?]
      | cons i path => exact List.mem_cons.trans ((or_iff_right (List.cons_ne_nil i path)).trans (rest.all _))
    · obtain ⟨i, path, rfl⟩ := inner p mem
      exact List.nil_lt_cons i path

theorem lists_forestAddresses (forest : List ClassDef) :
    Lists (entryAt? (roots forest)) (forestAddresses forest) (forestFlatten forest) := by
  rw [forestAddresses, classesAddresses_eq_map, forestFlatten_eq_roots]
  exact lists_siblings fun e _ => e.lists

example :
    forestAddresses
        [⟨"Order", "", [⟨"lines", "List", "", "", true, [⟨"Line", "", [.plain "sku" "String"]⟩]⟩,
            .plain "id" "long"]⟩,
          ⟨"Buyer", "", []⟩] =
      [[0], [0, 0], [0, 0, 0], [0, 0, 0, 0], [0, 1], [1]] := rfl

end Numbering

section Order

variable {p q : Address} {k : Nat}

theorem lt_append_cons (p : Address) (i : Nat) (path : Address) : p < p ++ i :: path := by
  have lt : p ++ [] < p ++ i :: path := List.append_left_lt (List.nil_lt_cons i path)
  simpa using lt

/-- What comes behind an address and before its continuation by `k` is a continuation by a lower number. -/
theorem between_iff : p < q ∧ q < p ++ [k] ↔ ∃ i < k, p ++ [i] <+: q := by
  constructor
  · rintro ⟨above, before⟩
    induction p generalizing q with
    | nil =>
      cases q with
      | nil => exact absurd above (List.lt_irrefl _)
      | cons i q =>
        have lt : i < k := by simpa [List.cons_lt_cons_iff] using before
        exact ⟨i, lt, by simp⟩
    | cons a p ih =>
      cases q with
      | nil => exact absurd above (List.not_lt_nil _)
      | cons b q =>
        have above := List.cons_lt_cons_iff.1 above
        have before := List.cons_lt_cons_iff.1 before
        -- With a lower first number `q` would come before `p`, with a higher one behind all below `p`.
        obtain rfl : a = b := by omega
        obtain ⟨i, lt, below⟩ := ih (q := q) (by simpa using above) (by simpa using before)
        exact ⟨i, lt, by simpa using below⟩
  · rintro ⟨i, lt, path, rfl⟩
    rw [List.append_assoc]
    exact ⟨lt_append_cons p i path, List.append_left_lt (List.cons_lt_cons_iff.2 (.inl lt))⟩

theorem exists_between {addresses : List Address} (ordered : addresses.Pairwise (· < ·)) (hp : p ∈ addresses)
    (hq : q ∈ addresses) (lt : p < q) :
    ∃ before between after, addresses = before ++ p :: (between ++ q :: after) ∧
      ∀ x, x ∈ between ↔ x ∈ addresses ∧ p < x ∧ x < q := by
  obtain ⟨before, rest, rfl⟩ := List.append_of_mem hp
  obtain ⟨-, ordered, front⟩ := List.pairwise_append.1 ordered
  obtain ⟨first, ordered⟩ := List.pairwise_cons.1 ordered
  have behind : q ∈ rest := by
    rcases List.mem_append.1 hq with mem | mem
    · exact absurd lt (List.lt_asymm (front q mem p (List.mem_cons_self ..)))
    · rcases List.mem_cons.1 mem with rfl | mem
      · exact absurd lt (List.lt_irrefl _)
      · exact mem
  obtain ⟨between, after, rfl⟩ := List.append_of_mem behind
  obtain ⟨-, ordered, middle⟩ := List.pairwise_append.1 ordered
  obtain ⟨last, -⟩ := List.pairwise_cons.1 ordered
  refine ⟨before, between, after, rfl, fun x => ⟨fun mem => ⟨by simp [mem], ?_, ?_⟩, ?_⟩⟩
  · exact first x (List.mem_append_left _ mem)
  · exact middle x mem q (List.mem_cons_self ..)
  · rintro ⟨mem, above, below⟩
    simp only [List.mem_append, List.mem_cons] at mem
    rcases mem with mem | rfl | mem | rfl | mem
    · exact absurd above (List.lt_asymm (front x mem p (List.mem_cons_self ..)))
    · exact absurd above (List.lt_irrefl _)
    · exact mem
    · exact absurd below (List.lt_irrefl _)
    · exact absurd below (List.lt_asymm (last x mem))

end Order

section Children

variable {forest : List ClassDef} {siblings : List Entry} {c : ClassDef} {owner p : Address} {k : Nat}

theorem Entry.at?_append (e : Entry) (p q : Address) : e.at? (p ++ q) = (e.at? p).bind fun sub => sub.at? q := by
  induction p generalizing e with
  | nil => rfl
  | cons i p ih =>
    rw [List.cons_append, at?, at?]
    cases e.below[i]? with
    | none => rfl
    | some sub => exact ih sub

theorem entryAt?_concat (ne : p ≠ []) (k : Nat) :
    entryAt? siblings (p ++ [k]) = (entryAt? siblings p).bind fun e => e.below[k]? := by
  cases p with
  | nil => exact absurd rfl ne
  | cons i p =>
    rw [List.cons_append, entryAt?, entryAt?]
    cases siblings[i]? with
    | none => rfl
    | some e => simp [Entry.at?_append, Entry.at?]

theorem ne_nil_of_entryAt? {e : Entry} (stands : entryAt? siblings p = some e) : p ≠ [] := by
  rintro rfl
  cases stands

/-- The class at `p` is class number `k` of the field at `owner`. -/
def IsChild (forest : List ClassDef) (owner : Address) (k : Nat) (p : Address) : Prop :=
  p = owner ++ [k] ∧ ∃ f c, entryAt? (roots forest) owner = some (.member f) ∧ f.children[k]? = some c ∧
    entryAt? (roots forest) p = some (.start c)

theorem entryAt?_field (stands : entryAt? (roots forest) p = some (.start c)) (j : Nat) :
    entryAt? (roots forest) (p ++ [j]) = c.fields[j]?.map .member := by
  rw [entryAt?_concat (ne_nil_of_entryAt? stands), stands]
  exact List.getElem?_map

theorem filter_dropLast (stands : entryAt? (roots forest) p = some (.start c)) :
    ((forestAddresses forest).filter fun q => q.dropLast = p) =
      (List.range c.fields.length).map fun j => p ++ [j] := by
  have listed := lists_forestAddresses forest
  refine List.Pairwise.eq_of_mem_iff (listed.ordered.filter _) ?_ fun q => ?_
  · refine List.pairwise_map.2 (List.pairwise_lt_range.imp fun lt => ?_)
    exact List.append_left_lt (List.cons_lt_cons_iff.2 (.inl lt))
  · simp only [List.mem_filter, listed.all, decide_eq_true_eq, List.mem_map, List.mem_range]
    have field (j : Nat) : (entryAt? (roots forest) (p ++ [j])).isSome ↔ j < c.fields.length := by
      simp [entryAt?_field stands]
    constructor
    · rintro ⟨here, rfl⟩
      obtain ⟨e, found⟩ := Option.isSome_iff_exists.1 here
      have split := List.dropLast_append_getLast (ne_nil_of_entryAt? found)
      rw [← split] at here
      exact ⟨_, (field _).1 here, split⟩
    · rintro ⟨j, lt, rfl⟩
      exact ⟨(field j).2 lt, List.dropLast_concat⟩

theorem exists_isChild (stands : entryAt? (roots forest) p = some (.start c)) (inner : ∀ i, p ≠ [i]) :
    ∃ owner k, IsChild forest owner k p := by
  obtain ⟨owner, k, rfl⟩ := List.eq_nil_or_concat' p |>.resolve_left (ne_nil_of_entryAt? stands)
  have ne : owner ≠ [] := by
    rintro rfl
    exact inner k rfl
  have found := stands
  rw [entryAt?_concat ne, Option.bind_eq_some_iff] at found
  obtain ⟨e, above, found⟩ := found
  cases e with
  | start d => simp [Entry.below] at found
  | member f =>
    refine ⟨owner, k, rfl, f, c, above, ?_, stands⟩
    simpa [Entry.below, roots] using found

theorem IsChild.owner_eq {owner' : Address} {k' : Nat} (child : IsChild forest owner k p)
    (child' : IsChild forest owner' k' p) : owner' = owner := by
  have same := child.1.symm.trans child'.1
  exact (List.append_inj_left' same rfl).symm

theorem IsChild.between (child : IsChild forest owner k p) :
    ∃ before between after, forestAddresses forest = before ++ owner :: (between ++ p :: after) ∧
      ∀ q, q ∈ between ↔ q ∈ forestAddresses forest ∧ ∃ i < k, owner ++ [i] <+: q := by
  obtain ⟨rfl, f, c, above, -, here⟩ := child
  have listed := lists_forestAddresses forest
  have known : owner ∈ forestAddresses forest := (listed.all _).2 (by simp [above])
  have known' : owner ++ [k] ∈ forestAddresses forest := (listed.all _).2 (by simp [here])
  obtain ⟨before, between, after, split, mem⟩ :=
    exists_between listed.ordered known known' (lt_append_cons owner k [])
  refine ⟨before, between, after, split, fun q => ?_⟩
  rw [mem, between_iff]

end Children

/-- The count, the walk and the table order of a forest agree.  The classes of the table order are the walk, and
their number is the count; the fields of the table order are as many as the classes of the walk have.  Each entry
of the forest comes once in table order, the fields of a class in their order.  A class that is no root is a child
of exactly one field, which it follows with only the entries of earlier children of the field in between. -/
theorem traversals_agree (forest : List ClassDef) :
    (forest.flatMap ClassDef.flatten).filterMap Entry.class? = forest.flatMap ClassDef.walk ∧
    forestNodeCount forest = (forest.flatMap ClassDef.walk).length ∧
    ((forest.flatMap ClassDef.flatten).filterMap Entry.field?).length =
      ((forest.flatMap ClassDef.walk).map fun c => c.fields.length).sum ∧
    Lists (entryAt? (roots forest)) (forestAddresses forest) (forest.flatMap ClassDef.flatten) ∧
    (forestAddresses forest).filterMap (fun p => (entryAt? (roots forest) p).bind Entry.class?) =
      forest.flatMap ClassDef.walk ∧
    (∀ p c, entryAt? (roots forest) p = some (.start c) →
      (((forestAddresses forest).filter fun q => q.dropLast = p) =
        (List.range c.fields.length).map fun j => p ++ [j]) ∧
      (∀ j, entryAt? (roots forest) (p ++ [j]) = c.fields[j]?.map .member) ∧
      ((∀ i, p ≠ [i]) → ∃! owner, ∃ k, IsChild forest owner k p)) ∧
    ∀ owner k p, IsChild forest owner k p →
      ∃ before between after, forestAddresses forest = before ++ owner :: (between ++ p :: after) ∧
        ∀ q, q ∈ between ↔ q ∈ forestAddresses forest ∧ ∃ i < k, owner ++ [i] <+: q := by
  have listed := lists_forestAddresses forest
  have classes := filterMap_class?_forestFlatten forest
  have number := (filterMap_field?_forestFlatten forest).length_eq
  have placed : (forestAddresses forest).filterMap (fun p => (entryAt? (roots forest) p).bind Entry.class?) =
      forestWalk forest := (listed.filterMap Entry.class?).trans classes
  rw [List.length_flatMap] at number
  rw [← forestFlatten_eq_flatMap, ← forestWalk_eq_flatMap]
  refine ⟨classes, (length_forestWalk forest).symm, number, listed, placed,
    fun p c stands => ⟨filter_dropLast stands, entryAt?_field stands, fun inner => ?_⟩,
    fun owner k p child => child.between⟩
  obtain ⟨owner, k, child⟩ := exists_isChild stands inner
  exact ⟨owner, ⟨k, child⟩, fun owner' ⟨k', child'⟩ => child.owner_eq child'⟩

end ClassTable
