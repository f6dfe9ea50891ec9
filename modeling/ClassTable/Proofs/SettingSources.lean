import ClassTable.Proofs.LetterCase
import ClassTable.Proofs.SettingLeaves
import Mathlib.Data.List.Nodup

set_option autoImplicit false

namespace ClassTable.Settings

open Setting

def overlay (old : Option Setting) (v : Setting) : Setting :=
  match old with
  | some old => merge old v
  | none => v

theorem overlay_none (v : Setting) : overlay none v = v := rfl

section Merging

variable {base later : Keyed Setting} {l : Leaf}

theorem mergeMembers_cons (base : Keyed Setting) (key : String) (v : Setting) (rest : List (String × Setting)) :
    mergeMembers base ((key, v) :: rest) = mergeMembers (base.insert key (overlay (base.get? key) v)) rest := by
  rw [mergeMembers]
  unfold overlay
  cases base.get? key <;> rfl

theorem sorted_mergeMembers (inOrder : base.Sorted) : (mergeMembers base later).Sorted := by
  induction later generalizing base with
  | nil =>
    rw [mergeMembers]
    exact inOrder
  | cons m later ih =>
    rw [mergeMembers_cons]
    exact ih (Keyed.sorted_insert inOrder)

theorem get?_mergeMembers (distinct : later.keys.Nodup) (key : String) :
    Keyed.get? (mergeMembers base later) key =
      match later.get? key with
      | some v => some (overlay (base.get? key) v)
      | none => base.get? key := by
  induction later generalizing base with
  | nil =>
    rw [mergeMembers]
    rfl
  | cons m later ih =>
    obtain ⟨fresh, others⟩ := List.nodup_cons.1 distinct
    rw [mergeMembers_cons, ih others, Keyed.get?_insert, Keyed.get?_cons]
    by_cases here : key = m.1
    · rw [if_pos here, if_pos here, here, Keyed.get?_eq_none fresh]
    · rw [if_neg here, if_neg here]

theorem overlay_table (old : Option Setting) (members : Keyed Setting) :
    ∃ ms : Keyed Setting, overlay old (.table members) = .table ms := by
  cases old with
  | none => exact ⟨members, rfl⟩
  | some old =>
    change ∃ ms, merge old (.table members) = .table ms
    cases old <;> exact ⟨_, by simp only [merge]; rfl⟩

theorem overlay_tables (old members : Keyed Setting) :
    overlay (some (.table old)) (.table members) = .table (mergeMembers old members) := by
  change merge (.table old) (.table members) = _
  rw [merge]

theorem overlay_of_not_table (old : Option Setting) {v : Setting} (single : ∀ ms, v ≠ .table ms) :
    overlay old v = v := by
  cases old with
  | none => rfl
  | some old =>
    change merge old v = v
    cases v with
    | table ms => exact absurd rfl (single ms)
    | _ => simp only [merge]

theorem not_means_table (l : Leaf) (ms : Keyed Setting) (x : l.Value) : ¬l.Means (.table ms) x := by
  cases l with
  | created =>
    rintro ⟨s, text, -⟩
    exact absurd text nofun
  | templateDir =>
    rintro ⟨s, text, -⟩
    exact absurd text nofun
  | _ => exact nofun

theorem means_overlay (l : Leaf) (old : Option Setting) (v : Setting) (x : l.Value) :
    l.Means (overlay old v) x ↔ l.Means v x := by
  by_cases single : ∃ ms, v = .table ms
  · obtain ⟨members, rfl⟩ := single
    obtain ⟨ms, same⟩ := overlay_table old members
    rw [same]
    exact iff_of_false (not_means_table l ms x) (not_means_table l members x)
  · rw [overlay_of_not_table old fun ms same => single ⟨ms, same⟩]

theorem hasTables_mergeMembers (baseTables : HasTables base) (tables : HasTables later)
    (inOrder : later.Sorted) :
    HasTables (mergeMembers base later) := by
  intro g v found
  rw [get?_mergeMembers inOrder.nodup] at found
  cases own : later.get? g.name with
  | none =>
    rw [own] at found
    exact baseTables g v found
  | some w =>
    obtain ⟨members, rfl, membersInOrder⟩ := tables g w own
    rw [own] at found
    obtain rfl := Option.some.inj found
    cases below : base.get? g.name with
    | none => exact ⟨members, rfl, membersInOrder⟩
    | some old =>
      obtain ⟨ms, rfl, msInOrder⟩ := baseTables g old below
      exact ⟨_, overlay_tables ms members, sorted_mergeMembers msInOrder⟩

theorem stored?_mergeMembers (baseTables : HasTables base) (tables : HasTables later)
    (inOrder : later.Sorted) (l : Leaf) :
    stored? (mergeMembers base later) l =
      match stored? later l with
      | some v => some (overlay (stored? base l) v)
      | none => stored? base l := by
  unfold stored?
  rw [get?_mergeMembers inOrder.nodup]
  cases own : later.get? l.group.name with
  | none => rfl
  | some w =>
    obtain ⟨members, rfl, membersInOrder⟩ := tables l.group w own
    cases below : base.get? l.group.name with
    | none =>
      dsimp only [overlay]
      cases Keyed.get? members l.key <;> rfl
    | some old =>
      obtain ⟨ms, rfl, -⟩ := baseTables l.group old below
      dsimp only
      rw [overlay_tables]
      exact get?_mergeMembers membersInOrder.nodup l.key

/-- Where the later of two sources gives a value, a leaf reads as that one. -/
theorem read_mergeMembers (baseTables : HasTables base) (tables : HasTables later) (inOrder : later.Sorted)
    {otherwise x : l.Value} :
    l.Read (stored? (mergeMembers base later) l) otherwise x ↔
      l.Read ((stored? later l).or (stored? base l)) otherwise x := by
  rw [stored?_mergeMembers baseTables tables inOrder]
  cases stored? later l with
  | none => exact .rfl
  | some v => exact means_overlay l _ v x

end Merging

open Environment (keysOf? splitName valueOf)

/-- The name of a variable as it is compared: without blanks around it and in lower case. -/
def comparedName (name : String) : List Char := (Text.trimChars name.toList).map Char.toLower

def variableName (table key : List Char) : List Char :=
  Environment.mark.toLower.toList ++ (table ++ '_' :: '_' :: key)

def IsMarked (name : String) : Prop := Environment.mark.toLower.toList <+: comparedName name

/-- Holds of environments in which each variable with the mark names a key of a table of settings, no two of
them the same one. -/
structure WellNamed (vars : List (String × String)) : Prop where
  form : ∀ x ∈ vars, IsMarked x.1 → ∃ (g : Group) (key : List Char),
    key ≠ [] ∧ '.' ∉ key ∧ ¬['_', '_'] <:+: key ∧ comparedName x.1 = variableName g.name.toList key
  once : ∀ x ∈ vars, ∀ y ∈ vars, IsMarked x.1 → comparedName x.1 = comparedName y.1 → x = y

def inEnvironment? (vars : List (String × String)) (l : Leaf) : Option Setting :=
  (vars.find? fun x => comparedName x.1 = variableName l.group.name.toList l.key.toList).map fun x =>
    valueOf (Text.trim x.2)

section Names

variable {name : String} {key front rest cs : List Char} {g : Group} {l : Leaf}

theorem splitName_of_plain (noDot : '.' ∉ cs) (noMark : ¬['_', '_'] <:+: cs) : splitName cs = [cs] := by
  induction cs with
  | nil => rfl
  | cons c cs ih =>
    obtain ⟨notDot, noDot⟩ : '.' ≠ c ∧ '.' ∉ cs := by simpa using noDot
    have rest := ih noDot fun inside => noMark (inside.trans (List.suffix_cons c cs).isInfix)
    rw [splitName, if_neg notDot.symm, rest]
    rintro behind rfl rfl
    exact noMark (List.prefix_append ['_', '_'] behind).isInfix

theorem splitName_append (noDot : '.' ∉ front) (noMark : '_' ∉ front) :
    splitName (front ++ '_' :: '_' :: rest) = front :: splitName rest := by
  induction front with
  | nil => rfl
  | cons c front ih =>
    obtain ⟨notDot, noDot⟩ : '.' ≠ c ∧ '.' ∉ front := by simpa using noDot
    obtain ⟨notMark, noMark⟩ : '_' ≠ c ∧ '_' ∉ front := by simpa using noMark
    change splitName (c :: (front ++ '_' :: '_' :: rest)) = _
    rw [splitName, if_neg notDot.symm, ih noDot noMark]
    rintro _ rfl
    exact absurd rfl notMark

theorem getLast?_comparedName {c : Char} (last : (comparedName name).getLast? = some c) :
    Text.isBlank c = false := by
  unfold comparedName at last
  rw [List.getLast?_map, Option.map_eq_some_iff] at last
  obtain ⟨d, last, rfl⟩ := last
  exact (Text.isBlank_toLower _).trans (Text.not_isBlank_of_getLast? last)

theorem Group.name_form (g : Group) :
    '.' ∉ g.name.toList ∧ '_' ∉ g.name.toList ∧ g.name.toList ≠ [] ∧
      g.name.toList.all (!Text.isBlank ·) = true := by
  cases g <;> decide +kernel

theorem keysOf?_of_form (keyed : key ≠ []) (noDot : '.' ∉ key) (noMark : ¬['_', '_'] <:+: key)
    (form : comparedName name = variableName g.name.toList key) :
    keysOf? name = some [g.name, String.ofList key] := by
  let whole := g.name.toList ++ '_' :: '_' :: key
  have marked : Environment.mark.toLower.toList.isPrefixOf (comparedName name) = true := by
    have front : Environment.mark.toLower.toList <+: variableName g.name.toList key := List.prefix_append _ _
    exact List.isPrefixOf_iff_prefix.2 (form.symm ▸ front)
  have behind : (comparedName name).drop Environment.mark.toLower.toList.length = whole := by
    rw [form]
    exact List.drop_left
  obtain ⟨noDot', noMark', nonempty, plain⟩ := g.name_form
  have trimmed : Text.trimChars whole = whole := by
    apply Text.trimChars_eq_self
    · intro c first
      rw [List.head?_append_of_ne_nil _ nonempty] at first
      simpa using List.all_eq_true.1 plain c (List.mem_of_head? first)
    · intro c last
      have ends : (comparedName name).getLast? = some c := by
        rw [form, variableName, List.getLast?_append_of_ne_nil _ (by simp)]
        exact last
      exact getLast?_comparedName ends
  have parts : splitName whole = [g.name.toList, key] := by
    rw [splitName_append noDot' noMark', splitName_of_plain noDot noMark]
  have split : splitName (Text.trimChars ((comparedName name).drop Environment.mark.toLower.toList.length)) =
      [g.name.toList, key] :=
    (congrArg splitName ((congrArg Text.trimChars behind).trans trimmed)).trans parts
  have named (pieces : List (List Char)) (same : pieces = [g.name.toList, key]) :
      (if pieces.any List.isEmpty then none else some (pieces.map String.ofList)) = some [g.name, String.ofList key] := by
    subst same
    simp [keyed, nonempty]
  exact (if_pos marked).trans (named _ split)

theorem keysOf?_eq_none (unmarked : ¬IsMarked name) : keysOf? name = none := by
  have front : ¬Environment.mark.toLower.toList.isPrefixOf (comparedName name) = true := by
    rw [List.isPrefixOf_iff_prefix]
    exact unmarked
  exact if_neg front

theorem Leaf.key_form (l : Leaf) : l.key.toList ≠ [] ∧ '.' ∉ l.key.toList ∧ ¬['_', '_'] <:+: l.key.toList := by
  cases l with
  | column c => cases c <;> decide +kernel
  | _ => decide +kernel

theorem wellNamed_of_called {vars : List (String × String)}
    (called : ∀ x ∈ vars, (∃ l : Leaf, comparedName x.1 = variableName l.group.name.toList l.key.toList) ∨ ¬IsMarked x.1)
    (distinct : (vars.map fun x => comparedName x.1).Nodup) : WellNamed vars where
  form := by
    intro x mem marked
    obtain ⟨l, name⟩ := (called x mem).resolve_right (not_not_intro marked)
    obtain ⟨keyed, noDot, noMark⟩ := l.key_form
    exact ⟨l.group, l.key.toList, keyed, noDot, noMark, name⟩
  once := fun x memx y memy _ same => List.inj_on_of_nodup_map distinct memx memy same

theorem isMarked_of_called (called : comparedName name = variableName l.group.name.toList l.key.toList) :
    IsMarked name := by
  unfold IsMarked
  rw [called]
  exact List.prefix_append _ _

theorem leaf_eq_of_called {l' : Leaf} (called : comparedName name = variableName l.group.name.toList l.key.toList)
    (called' : comparedName name = variableName l'.group.name.toList l'.key.toList) : l = l' := by
  obtain ⟨keyed, noDot, noMark⟩ := l.key_form
  obtain ⟨keyed', noDot', noMark'⟩ := l'.key_form
  have keys := (keysOf?_of_form keyed noDot noMark called).symm.trans (keysOf?_of_form keyed' noDot' noMark' called')
  obtain ⟨group, key⟩ : l.group.name = l'.group.name ∧ l.key = l'.key := by simpa using keys
  exact (Leaf.key_inj (Group.name_inj.1 group)).1 key

theorem keysOf?_eq_leaf_iff {vars : List (String × String)} {x : String × String} (named : WellNamed vars)
    (mem : x ∈ vars) :
    keysOf? x.1 = some [l.group.name, l.key] ↔
      comparedName x.1 = variableName l.group.name.toList l.key.toList := by
  obtain ⟨keyed, noDot, noMark⟩ := l.key_form
  constructor
  · intro keys
    by_cases marked : IsMarked x.1
    · obtain ⟨g, key, keyed', noDot', noMark', form⟩ := named.form x mem marked
      rw [keysOf?_of_form keyed' noDot' noMark' form] at keys
      obtain ⟨group, same⟩ : g.name = l.group.name ∧ String.ofList key = l.key := by simpa using keys
      rw [form, group, ← same, String.toList_ofList]
    · rw [keysOf?_eq_none marked] at keys
      exact absurd keys nofun
  · intro form
    rw [keysOf?_of_form keyed noDot noMark form, String.ofList_toList]

end Names

section Variables

variable {vars : List (String × String)} {members : Keyed Setting} {g : Group} {key : String} {l : Leaf} {v : Setting}

theorem inEnvironment?_of_called {x : String × String} (named : WellNamed vars) (mem : x ∈ vars)
    (called : comparedName x.1 = variableName l.group.name.toList l.key.toList) :
    inEnvironment? vars l = some (valueOf (Text.trim x.2)) := by
  have marked := isMarked_of_called called
  unfold inEnvironment?
  cases found : vars.find? fun x => comparedName x.1 = variableName l.group.name.toList l.key.toList with
  | none => exact absurd called (by simpa using List.find?_eq_none.1 found x mem)
  | some y =>
    have called' : comparedName y.1 = variableName l.group.name.toList l.key.toList := by
      simpa using List.find?_some found
    rw [← named.once x mem y (List.mem_of_find?_eq_some found) marked (called.trans called'.symm)]
    rfl

theorem inEnvironment?_eq_none (others : ∀ x ∈ vars, IsMarked x.1 → ∃ l' : Leaf, l' ≠ l ∧
    comparedName x.1 = variableName l'.group.name.toList l'.key.toList) : inEnvironment? vars l = none := by
  unfold inEnvironment?
  rw [Option.map_eq_none_iff, List.find?_eq_none]
  intro x mem called
  have called := of_decide_eq_true called
  have marked := isMarked_of_called called
  obtain ⟨l', other, called'⟩ := others x mem marked
  exact other (leaf_eq_of_called called' called)

def addVariable (members : Keyed Setting) (x : String × String) : Keyed Setting :=
  match keysOf? x.1 with
  | some keys =>
    match Setting.under keys (valueOf (Text.trim x.2)) with
    | .table later => mergeMembers members later
    | _ => members
  | none => members

theorem hasTables_single (g : Group) (key : String) (v : Setting) :
    HasTables [(g.name, .table [(key, v)])] := by
  intro g' w found
  rw [Keyed.get?_cons] at found
  split at found
  · exact ⟨[(key, v)], (Option.some.inj found).symm, List.pairwise_singleton _ _⟩
  · exact absurd found nofun

theorem stored?_single (g : Group) (key : String) (v : Setting) (l : Leaf) :
    stored? [(g.name, .table [(key, v)])] l = if l.group.name = g.name ∧ l.key = key then some v else none := by
  unfold stored?
  rw [Keyed.get?_cons]
  by_cases group : l.group.name = g.name
  · rw [if_pos group]
    change Keyed.get? [(key, v)] l.key = _
    rw [Keyed.get?_cons]
    by_cases same : l.key = key
    · rw [if_pos same, if_pos ⟨group, same⟩]
    · rw [if_neg same, if_neg fun both => same both.2]
      rfl
  · rw [if_neg group, if_neg fun both => group both.1]
    rfl

theorem addVariable_none {x : String × String} (keys : keysOf? x.1 = none) :
    addVariable members x = members := by
  unfold addVariable
  rw [keys]

theorem addVariable_some {x : String × String} (keys : keysOf? x.1 = some [g.name, key]) :
    addVariable members x = mergeMembers members [(g.name, .table [(key, valueOf (Text.trim x.2))])] := by
  unfold addVariable
  rw [keys]
  generalize valueOf (Text.trim x.2) = v
  rfl

theorem stored?_addVariable {x : String × String}
    (form : ∀ keys, keysOf? x.1 = some keys → ∃ (g : Group) (key : String), keys = [g.name, key])
    (inOrder : members.Sorted) (tables : HasTables members) :
    (addVariable members x).Sorted ∧ HasTables (addVariable members x) ∧ ∀ l : Leaf,
      stored? (addVariable members x) l =
        if keysOf? x.1 = some [l.group.name, l.key] then some (overlay (stored? members l) (valueOf (Text.trim x.2)))
        else stored? members l := by
  cases keys : keysOf? x.1 with
  | none =>
    rw [addVariable_none keys]
    exact ⟨inOrder, tables, fun l => (if_neg nofun).symm⟩
  | some names =>
    obtain ⟨g, key, rfl⟩ := form names keys
    have single := hasTables_single g key (valueOf (Text.trim x.2))
    have one : Keyed.Sorted [(g.name, Setting.table [(key, valueOf (Text.trim x.2))])] := List.pairwise_singleton _ _
    rw [addVariable_some keys]
    refine ⟨sorted_mergeMembers inOrder, hasTables_mergeMembers tables single one, fun l => ?_⟩
    have names : some [g.name, key] = some [l.group.name, l.key] ↔ l.group.name = g.name ∧ l.key = key := by
      simp [eq_comm]
    have entry := stored?_mergeMembers tables single one l
    by_cases same : l.group.name = g.name ∧ l.key = key
    · rw [entry, stored?_single, if_pos same, if_pos (names.2 same)]
    · rw [entry, stored?_single, if_neg same, if_neg (mt names.1 same)]

theorem stored?_foldl_addVariable (pairs : List (String × String))
    (form : ∀ x ∈ pairs, ∀ keys, keysOf? x.1 = some keys → ∃ (g : Group) (key : String), keys = [g.name, key])
    (once : pairs.Pairwise fun x y => ∀ keys, keysOf? x.1 = some keys → keysOf? y.1 ≠ some keys)
    (inOrder : members.Sorted) (tables : HasTables members) :
    (pairs.foldl addVariable members).Sorted ∧ HasTables (pairs.foldl addVariable members) ∧
      ∀ l : Leaf, stored? (pairs.foldl addVariable members) l =
        match pairs.find? fun x => keysOf? x.1 = some [l.group.name, l.key] with
        | some x => some (overlay (stored? members l) (valueOf (Text.trim x.2)))
        | none => stored? members l := by
  induction pairs generalizing members with
  | nil => exact ⟨inOrder, tables, fun _ => rfl⟩
  | cons x pairs ih =>
    obtain ⟨first, rest⟩ := List.pairwise_cons.1 once
    obtain ⟨inOrder', tables', entries⟩ := stored?_addVariable (form x (.head _)) inOrder tables
    obtain ⟨sorted, hasTables, all⟩ := ih (fun y mem => form y (.tail _ mem)) rest inOrder' tables'
    refine ⟨sorted, hasTables, fun l => ?_⟩
    by_cases here : keysOf? x.1 = some [l.group.name, l.key]
    · have noOther : pairs.find? (fun y => keysOf? y.1 = some [l.group.name, l.key]) = none := by
        apply List.find?_eq_none.2
        intro y mem
        simpa using first y mem _ here
      rw [List.foldl_cons, all l, entries l, List.find?_cons, noOther, if_pos here, decide_eq_true here]
    · rw [List.foldl_cons, all l, entries l, List.find?_cons, if_neg here, decide_eq_false here]

theorem isMarked_of_keysOf? {name : String} {keys : List String} (found : keysOf? name = some keys) :
    IsMarked name := by
  by_contra unmarked
  rw [keysOf?_eq_none unmarked] at found
  exact absurd found nofun

theorem find?_eq_of_unique {α : Type} {xs ys : List α} {p q : α → Bool}
    (same : ∀ x, (x ∈ xs ∧ p x) ↔ (x ∈ ys ∧ q x))
    (unique : ∀ x ∈ xs, ∀ y ∈ xs, p x → p y → x = y) : xs.find? p = ys.find? q := by
  cases found : ys.find? q with
  | none =>
    apply List.find?_eq_none.2
    intro x mem holds
    obtain ⟨mem', holds'⟩ := (same x).1 ⟨mem, holds⟩
    exact List.find?_eq_none.1 found x mem' holds'
  | some y =>
    obtain ⟨mem, holds⟩ := (same y).2 ⟨List.mem_of_find?_eq_some found, List.find?_some found⟩
    cases found' : xs.find? p with
    | none => exact absurd holds (List.find?_eq_none.1 found' y mem)
    | some x =>
      have one := unique x (List.mem_of_find?_eq_some found') y mem (List.find?_some found') holds
      rw [one]

theorem comparedName_eq {x y : String × String} {keys : List String} (named : WellNamed vars) (memx : x ∈ vars)
    (memy : y ∈ vars) (foundx : keysOf? x.1 = some keys) (foundy : keysOf? y.1 = some keys) :
    comparedName x.1 = comparedName y.1 := by
  obtain ⟨g, key, keyed, noDot, noMark, form⟩ := named.form x memx (isMarked_of_keysOf? foundx)
  obtain ⟨g', key', keyed', noDot', noMark', form'⟩ := named.form y memy (isMarked_of_keysOf? foundy)
  rw [keysOf?_of_form keyed noDot noMark form] at foundx
  rw [keysOf?_of_form keyed' noDot' noMark' form', ← foundx] at foundy
  obtain ⟨group, same⟩ : g'.name = g.name ∧ String.ofList key' = String.ofList key := by simpa using foundy
  rw [form, form', group, String.ofList_inj.1 same]

/-- An environment gives for a leaf what its variable holds. -/
theorem stored?_settings (named : WellNamed vars) :
    (Environment.settings vars).Sorted ∧ HasTables (Environment.settings vars) ∧
      ∀ l : Leaf, stored? (Environment.settings vars) l = inEnvironment? vars l := by
  let pairs := Keyed.ofList vars
  have subset : ∀ x ∈ pairs, x ∈ vars := fun x mem =>
    (Keyed.mem_of_mem_insertAll mem).elim id fun none => absurd none List.not_mem_nil
  have form : ∀ x ∈ pairs, ∀ keys, keysOf? x.1 = some keys → ∃ (g : Group) (key : String), keys = [g.name, key] := by
    intro x mem keys found
    obtain ⟨g, key, keyed, noDot, noMark, form⟩ := named.form x (subset x mem) (isMarked_of_keysOf? found)
    rw [keysOf?_of_form keyed noDot noMark form] at found
    exact ⟨g, String.ofList key, (Option.some.inj found).symm⟩
  have once : pairs.Pairwise fun x y => ∀ keys, keysOf? x.1 = some keys → keysOf? y.1 ≠ some keys := by
    have inOrder : pairs.Pairwise fun x y => x.1 < y.1 := List.pairwise_map.1 (Keyed.sorted_insertAll Keyed.sorted_nil)
    refine inOrder.imp_of_mem fun {x y} memx memy before keys foundx foundy => ?_
    have same := comparedName_eq named (subset x memx) (subset y memy) foundx foundy
    have one := named.once x (subset x memx) y (subset y memy) (isMarked_of_keysOf? foundx) same
    exact absurd before (one ▸ lt_irrefl x.1)
  have start : HasTables [] := fun g v found => absurd found nofun
  obtain ⟨inOrder, tables, entries⟩ := stored?_foldl_addVariable pairs form once Keyed.sorted_nil start
  refine ⟨inOrder, tables, fun l => (entries l).trans ?_⟩
  have chosen : (pairs.find? fun x => keysOf? x.1 = some [l.group.name, l.key]) =
      vars.find? fun x => comparedName x.1 = variableName l.group.name.toList l.key.toList := by
    apply find?_eq_of_unique
    · intro x
      rw [decide_eq_true_iff, decide_eq_true_iff]
      constructor
      · rintro ⟨mem, keys⟩
        exact ⟨subset x mem, (keysOf?_eq_leaf_iff named (subset x mem)).1 keys⟩
      · rintro ⟨mem, called⟩
        have keys := (keysOf?_eq_leaf_iff named mem).2 called
        have present : x.1 ∈ pairs.keys := Keyed.mem_keys_insertAll.2 (.inl (List.mem_map_of_mem mem))
        obtain ⟨y, memy, same⟩ := List.mem_map.1 present
        have one := named.once x mem y (subset y memy) (isMarked_of_keysOf? keys) (by rw [same])
        exact ⟨one ▸ memy, keys⟩
    · intro x memx y memy keysx keysy
      have keysx := of_decide_eq_true keysx
      have keysy := of_decide_eq_true keysy
      have same := comparedName_eq named (subset x memx) (subset y memy) keysx keysy
      exact named.once x (subset x memx) y (subset y memy) (isMarked_of_keysOf? keysx) same
  rw [chosen, inEnvironment?]
  cases vars.find? fun x => comparedName x.1 = variableName l.group.name.toList l.key.toList with
  | none => rfl
  | some x => exact congrArg some (overlay_none _)

end Variables

end ClassTable.Settings
