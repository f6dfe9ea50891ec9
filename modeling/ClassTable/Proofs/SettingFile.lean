import ClassTable.Proofs.Keyed
import ClassTable.Settings

set_option autoImplicit false

namespace ClassTable.Toml

/-- Holds of values that are no table or one in key order. -/
def InOrder (v : Setting) : Prop := ∀ ms : Keyed Setting, v = .table ms → ms.Sorted

/-- Holds of items whose values are in order; tables under headers are put in order when they are closed. -/
def Items.InOrder (items : Items) : Prop := ∀ x ∈ items, ∀ v, x.2 = .value v → Toml.InOrder v

theorem sorted_toMembers (items : Items) : (Items.toMembers items).Sorted :=
  Keyed.sorted_insertAll Keyed.sorted_nil

section Values

variable {cs rest : List Char} {v : Setting} {fuel : Nat}

theorem orElse_eq_some {α : Type} {a b : Option α} {x : α} (found : (a <|> b) = some x) :
    a = some x ∨ b = some x := by
  cases a with
  | none => exact .inr found
  | some _ => exact .inl found

theorem inOrder_word? {word : String} {w : Setting} (read : word? word w cs = some (v, rest))
    (single : InOrder w) :
    InOrder v := by
  unfold word? at read
  split at read
  · cases read
    exact single
  · exact absurd read nofun

theorem inOrder_moment? (read : moment? cs = some (v, rest)) : InOrder v := by
  obtain ⟨left, -, read⟩ := Option.bind_eq_some_iff.1 read
  cases read
  rintro ms ⟨⟩
  exact List.pairwise_singleton _ _

theorem inOrder_decimal? (read : decimal? cs = some (v, rest)) : InOrder v := by
  obtain ⟨whole, -, read⟩ := Option.bind_eq_some_iff.1 read
  obtain ⟨fraction, -, read⟩ := Option.bind_eq_some_iff.1 read
  obtain ⟨x, -, read⟩ := Option.bind_eq_some_iff.1 read
  obtain ⟨-, -, read⟩ := Option.bind_eq_some_iff.1 read
  cases read
  exact nofun

theorem inOrder_ofInt? {n : Int} (read : ofInt? n = some v) : InOrder v := by
  unfold ofInt? at read
  split at read
  · cases read
    exact nofun
  · exact absurd read nofun

theorem inOrder_ofRadix? {radix : Nat} {isDigit : Char → Bool}
    (read : ofRadix? radix isDigit cs = some (v, rest)) :
    InOrder v := by
  obtain ⟨digits, -, read⟩ := Option.bind_eq_some_iff.1 read
  obtain ⟨n, number, read⟩ := Option.bind_eq_some_iff.1 read
  cases read
  exact inOrder_ofInt? number

theorem inOrder_whole? (read : whole? cs = some (v, rest)) : InOrder v := by
  unfold whole? at read
  split at read
  · exact inOrder_ofRadix? read
  · exact inOrder_ofRadix? read
  · exact inOrder_ofRadix? read
  · obtain ⟨digits, -, read⟩ := Option.bind_eq_some_iff.1 read
    obtain ⟨n, number, read⟩ := Option.bind_eq_some_iff.1 read
    cases read
    exact inOrder_ofInt? number

theorem inOrder_specialDecimal? (read : specialDecimal? cs = some (v, rest)) : InOrder v := by
  unfold specialDecimal? at read
  rcases orElse_eq_some read with read | read
  · exact inOrder_word? read nofun
  · exact inOrder_word? read nofun

theorem inOrder_scalar? (read : scalar? cs = some (v, rest)) : InOrder v := by
  unfold scalar? at read
  rcases orElse_eq_some read with read | read
  · exact inOrder_moment? read
  rcases orElse_eq_some read with read | read
  · exact inOrder_decimal? read
  rcases orElse_eq_some read with read | read
  · exact inOrder_specialDecimal? read
  rcases orElse_eq_some read with read | read
  · exact inOrder_whole? read
  rcases orElse_eq_some read with read | read
  · exact inOrder_word? read nofun
  · exact inOrder_word? read nofun

theorem inOrder_readValue? (read : readValue? fuel cs = some (v, rest)) : InOrder v := by
  cases fuel with
  | zero => exact absurd read nofun
  | succ fuel =>
    unfold readValue? at read
    split at read
    · obtain ⟨_, -, read⟩ := Option.map_eq_some_iff.1 read
      cases read
      exact nofun
    · obtain ⟨_, -, read⟩ := Option.map_eq_some_iff.1 read
      cases read
      exact nofun
    · obtain ⟨_, -, read⟩ := Option.bind_eq_some_iff.1 read
      cases read
      exact nofun
    · dsimp only at read
      split at read
      · cases read
        rintro ms ⟨⟩
        exact sorted_toMembers []
      · obtain ⟨⟨items, _⟩, -, read⟩ := Option.bind_eq_some_iff.1 read
        cases read
        rintro ms ⟨⟩
        exact sorted_toMembers items
    · exact inOrder_scalar? read

end Values

section Lines

variable {items items' : Items} {key : String} {item : Item} {change : Items → Option Items}

theorem mem_of_mem_set {x : String × Item} (mem : x ∈ items.set key item) : x ∈ items ∨ x = (key, item) := by
  unfold Items.set at mem
  split at mem
  · obtain ⟨y, old, same⟩ := List.mem_map.1 mem
    split at same
    · exact .inr same.symm
    · exact .inl (same ▸ old)
  · rcases List.mem_append.1 mem with old | new
    · exact .inl old
    · exact .inr (List.mem_singleton.1 new)

theorem inOrder_set (inOrder : items.InOrder) (new : ∀ v, item = .value v → InOrder v) :
    (items.set key item).InOrder := by
  intro x mem v value
  rcases mem_of_mem_set mem with old | rfl
  · exact inOrder x old v value
  · exact new v value

theorem inOrder_of_map {make : Items → Item} {inner? : Option Items} (inOrder : items.InOrder)
    (changed : ((inner?.map make).bind fun item => some (items.set key item)) = some items')
    (nested : ∀ inner v, make inner ≠ .value v) : items'.InOrder := by
  obtain ⟨item, made, same⟩ := Option.bind_eq_some_iff.1 changed
  obtain ⟨inner, -, rfl⟩ := Option.map_eq_some_iff.1 made
  obtain rfl := Option.some.inj same
  exact inOrder_set inOrder fun v value => absurd value (nested inner v)

theorem inOrder_changeAt? (keys : List String) (inOrder : items.InOrder)
    (kept : ∀ items items' : Items, items.InOrder → change items = some items' → items'.InOrder)
    (changed : Items.changeAt? change keys items = some items') : items'.InOrder := by
  cases keys with
  | nil => exact kept items items' inOrder changed
  | cons key keys =>
    rw [Items.changeAt?] at changed
    cases found : items.lookup key with
    | none =>
      rw [found] at changed
      exact inOrder_of_map inOrder changed nofun
    | some item =>
      rw [found] at changed
      cases item with
      | value v => exact absurd changed nofun
      | table origin inner => exact inOrder_of_map inOrder changed nofun
      | series before last => exact inOrder_of_map inOrder changed nofun

theorem inOrder_insert? {value : Setting} (keys : List String) (inOrder : items.InOrder) (new : InOrder value)
    (inserted : Items.insert? value key keys items = some items') : items'.InOrder := by
  cases keys with
  | nil =>
    unfold Items.insert? at inserted
    split at inserted
    · exact absurd inserted nofun
    · cases inserted
      refine inOrder_set inOrder ?_
      rintro v ⟨⟩
      exact new
  | cons k ks =>
    rw [Items.insert?] at inserted
    cases found : items.lookup k with
    | none =>
      rw [found] at inserted
      exact inOrder_of_map inOrder inserted nofun
    | some item =>
      rw [found] at inserted
      cases item with
      | value v => exact absurd inserted nofun
      | table origin inner =>
        cases origin with
        | header => exact absurd inserted nofun
        | _ =>
          dsimp only at inserted
          split at inserted
          · exact absurd inserted nofun
          · exact inOrder_of_map inOrder inserted nofun
      | series before last =>
        dsimp only at inserted
        split at inserted
        · exact absurd inserted nofun
        · exact inOrder_of_map inOrder inserted nofun

theorem inOrder_openTable? (inOrder : items.InOrder) (opened : Items.openTable? key items = some items') :
    items'.InOrder := by
  unfold Items.openTable? at opened
  split at opened
  · cases opened
    exact inOrder_set inOrder nofun
  · cases opened
    exact inOrder_set inOrder nofun
  · exact absurd opened nofun

theorem inOrder_openNext? (inOrder : items.InOrder) (opened : Items.openNext? key items = some items') :
    items'.InOrder := by
  unfold Items.openNext? at opened
  split at opened
  · cases opened
    exact inOrder_set inOrder nofun
  · cases opened
    exact inOrder_set inOrder nofun
  · exact absurd opened nofun

theorem inOrder_readLine? {d d' : Document} {cs rest : List Char} (inOrder : d.items.InOrder)
    (read : readLine? d cs = some (d', rest)) : d'.items.InOrder := by
  unfold readLine? at read
  split at read
  · obtain ⟨⟨keys, _⟩, -, read⟩ := Option.bind_eq_some_iff.1 read
    obtain ⟨items, changed, read⟩ := Option.bind_eq_some_iff.1 read
    cases read
    exact inOrder_changeAt? _ inOrder (fun _ _ => inOrder_openNext?) changed
  · obtain ⟨⟨keys, _⟩, -, read⟩ := Option.bind_eq_some_iff.1 read
    obtain ⟨items, changed, read⟩ := Option.bind_eq_some_iff.1 read
    cases read
    exact inOrder_changeAt? _ inOrder (fun _ _ => inOrder_openTable?) changed
  · obtain ⟨⟨keys, _⟩, -, read⟩ := Option.bind_eq_some_iff.1 read
    obtain ⟨_, -, read⟩ := Option.bind_eq_some_iff.1 read
    obtain ⟨⟨value, _⟩, found, read⟩ := Option.bind_eq_some_iff.1 read
    obtain ⟨items, changed, read⟩ := Option.bind_eq_some_iff.1 read
    cases read
    exact inOrder_changeAt? _ inOrder (fun _ _ inOrder => inOrder_insert? _ inOrder (inOrder_readValue? found)) changed

theorem inOrder_readLines? {fuel : Nat} {d d' : Document} {cs : List Char} (inOrder : d.items.InOrder)
    (read : readLines? fuel d cs = some d') : d'.items.InOrder := by
  induction fuel generalizing d cs with
  | zero => exact absurd read nofun
  | succ fuel ih =>
    rw [readLines?] at read
    split at read
    · cases read
      exact inOrder
    · split at read
      · exact ih inOrder read
      · obtain ⟨⟨d₁, _⟩, line, read⟩ := Option.bind_eq_some_iff.1 read
        obtain ⟨rest, -, read⟩ := Option.bind_eq_some_iff.1 read
        exact ih (inOrder_readLine? inOrder line) read

theorem mem_memberSettings {m : String × Setting} (mem : m ∈ memberSettings items) :
    ∃ x ∈ items, m = (x.1, x.2.toSetting) := by
  induction items with
  | nil =>
    rw [memberSettings] at mem
    exact absurd mem List.not_mem_nil
  | cons x items ih =>
    rw [memberSettings] at mem
    rcases List.mem_cons.1 mem with rfl | later
    · exact ⟨x, .head _, rfl⟩
    · obtain ⟨y, mem, same⟩ := ih later
      exact ⟨y, .tail _ mem, same⟩

theorem inOrder_toSetting {x : String × Item} (inOrder : items.InOrder) (mem : x ∈ items) :
    InOrder x.2.toSetting := by
  obtain ⟨key, item⟩ := x
  cases item with
  | value v =>
    rw [Item.toSetting]
    exact inOrder _ mem v rfl
  | table origin inner =>
    rw [Item.toSetting]
    rintro ms ⟨⟩
    exact sorted_toMembers inner
  | series before last =>
    rw [Item.toSetting]
    exact nofun

theorem sorted_of_read? {source : String} {members : Keyed Setting} (read : read? source = some members) :
    members.Sorted ∧ ∀ key v, members.get? key = some v → InOrder v := by
  obtain ⟨d, lines, same⟩ := Option.bind_eq_some_iff.1 read
  obtain rfl := Option.some.inj same
  refine ⟨sorted_toMembers d.items, fun key v found => ?_⟩
  have empty : Items.InOrder [] := fun _ mem => absurd mem List.not_mem_nil
  have inOrder := inOrder_readLines? empty lines
  rcases Keyed.mem_of_mem_insertAll (Keyed.mem_of_get? found) with mem | none
  · obtain ⟨x, item, same⟩ := mem_memberSettings mem
    cases same
    exact inOrder_toSetting inOrder item
  · exact absurd none List.not_mem_nil

end Lines

end ClassTable.Toml

namespace ClassTable

open Text (Bytes)

namespace Disk

variable {d : Disk} {p dir dir' : Place} {path : String} {bytes bytes' : Bytes}

theorem mem_upward : dir ∈ p.upward ↔ dir <+: p := by
  unfold Place.upward
  rw [List.mem_map]
  constructor
  · rintro ⟨n, -, rfl⟩
    exact List.take_prefix n p
  · intro above
    refine ⟨dir.length, ?_, (List.prefix_iff_eq_take.1 above).symm⟩
    rw [List.mem_reverse, List.mem_range]
    have short := above.length_le
    omega

theorem pairwise_upward (p : Place) : p.upward.Pairwise fun dir dir' => dir'.length ≤ dir.length := by
  unfold Place.upward
  rw [List.pairwise_map, List.pairwise_reverse]
  refine List.pairwise_lt_range.imp fun before => ?_
  rw [List.length_take, List.length_take]
  omega

def HasFile (d : Disk) (dir : Place) (path : String) (bytes : Bytes) : Prop :=
  d.find (Path.join (Path.absolute dir) path) = .ok (.file bytes)

/-- Holds of the file that a path leads to from the working directory, or else from the nearest directory above it
from which the path leads to a file. -/
def Nearest (d : Disk) (path : String) (bytes : Bytes) : Prop :=
  ∃ dir, dir <+: d.working ∧ d.HasFile dir path bytes ∧
    ∀ dir' bytes', dir' <+: d.working → d.HasFile dir' path bytes' → dir'.length ≤ dir.length

theorem fileAt?_eq_some_iff : d.fileAt? path = some bytes ↔ d.find path = .ok (.file bytes) := by
  unfold fileAt?
  split
  · next found => simp [found]
  · next other => exact iff_of_false nofun (other bytes)

theorem findSome?_searched : (d.searched path).findSome? d.fileAt? =
    d.working.upward.findSome? fun dir => d.fileAt? (Path.join (Path.absolute dir) path) :=
  List.findSome?_map

theorem nearest_of_searched (found : (d.searched path).findSome? d.fileAt? = some bytes) : d.Nearest path bytes := by
  rw [findSome?_searched] at found
  obtain ⟨nearer, dir, further, upward, here, none⟩ := List.findSome?_eq_some_iff.1 found
  have order := pairwise_upward d.working
  rw [upward] at order
  -- The list goes up: no directory before the hit has a file, and those behind it are no nearer.
  refine ⟨dir, mem_upward.1 (by simp [upward]), fileAt?_eq_some_iff.1 here, fun dir' bytes' above there => ?_⟩
  have mem : dir' ∈ nearer ++ dir :: further := upward ▸ mem_upward.2 above
  rcases List.mem_append.1 mem with before | rest
  · exact absurd ((none dir' before).symm.trans (fileAt?_eq_some_iff.2 there)) nofun
  · rcases List.mem_cons.1 rest with rfl | behind
    · exact le_rfl
    · exact (List.pairwise_cons.1 (List.pairwise_append.1 order).2.1).1 dir' behind

theorem Nearest.unique (nearest : d.Nearest path bytes) (nearest' : d.Nearest path bytes') : bytes = bytes' := by
  obtain ⟨dir, above, here, last⟩ := nearest
  obtain ⟨dir', above', here', last'⟩ := nearest'
  have length : dir.length = dir'.length := le_antisymm (last' dir bytes above here) (last dir' bytes' above' here')
  obtain rfl : dir = dir' := (List.prefix_of_prefix_length_le above above' length.le).eq_of_length length
  exact DiskEntry.file.inj (Except.ok.inj (here.symm.trans here'))

theorem searched_eq_none_iff : (d.searched path).findSome? d.fileAt? = none ↔
    ∀ dir bytes, dir <+: d.working → ¬d.HasFile dir path bytes := by
  rw [findSome?_searched, List.findSome?_eq_none_iff]
  constructor
  · intro none dir bytes above here
    exact absurd ((none dir (mem_upward.2 above)).symm.trans (fileAt?_eq_some_iff.2 here)) nofun
  · intro none dir mem
    cases there : d.fileAt? (Path.join (Path.absolute dir) path) with
    | none => rfl
    | some bytes => exact absurd (fileAt?_eq_some_iff.1 there) (none dir bytes (mem_upward.1 mem))

theorem searched_eq_some_iff : (d.searched path).findSome? d.fileAt? = some bytes ↔ d.Nearest path bytes := by
  refine ⟨nearest_of_searched, fun nearest => ?_⟩
  cases found : (d.searched path).findSome? d.fileAt? with
  | none =>
    obtain ⟨dir, above, here, -⟩ := nearest
    exact absurd here (searched_eq_none_iff.1 found dir bytes above)
  | some bytes' => rw [nearest.unique (nearest_of_searched found)]

end Disk

namespace Settings

variable {disk : Disk} {path : String} {file : Keyed Setting}

/-- Holds of the members of the nearest settings file, and of none where no directory has one. -/
inductive FileHolds (disk : Disk) (path : String) : Keyed Setting → Prop
  | file {bytes : Bytes} {source : String} {members : Keyed Setting} (nearest : disk.Nearest path bytes)
      (text : Text.ofUtf8 bytes = .ok source) (read : Toml.read? source = some members) : FileHolds disk path members
  | none (nowhere : ∀ dir bytes, dir <+: disk.working → ¬disk.HasFile dir path bytes) : FileHolds disk path []

theorem fileMembers_eq_ok_iff : fileMembers disk path = .ok file ↔ FileHolds disk path file := by
  unfold fileMembers
  constructor
  · intro read
    split at read
    · next nowhere =>
      obtain rfl := Except.ok.inj read
      exact .none (Disk.searched_eq_none_iff.1 nowhere)
    · next found =>
      split at read
      · exact absurd read nofun
      · next text =>
        split at read
        · next members =>
          obtain rfl := Except.ok.inj read
          exact .file (Disk.searched_eq_some_iff.1 found) text members
        · exact absurd read nofun
  · intro holds
    cases holds with
    | file nearest text read =>
      rw [Disk.searched_eq_some_iff.2 nearest]
      simp only [text, read]
    | none nowhere => rw [Disk.searched_eq_none_iff.2 nowhere]

theorem FileHolds.sorted (holds : FileHolds disk path file) :
    file.Sorted ∧ ∀ key v, file.get? key = some v → Toml.InOrder v := by
  cases holds with
  | file _ _ read => exact Toml.sorted_of_read? read
  | none _ => exact ⟨Keyed.sorted_nil, fun key v none => absurd none nofun⟩

end Settings

end ClassTable
