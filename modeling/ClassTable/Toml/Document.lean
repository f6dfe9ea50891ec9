import ClassTable.Setting

/-!
The tables of a settings file while it is read.  A table may be opened by a header once, tables that a
header passes through are open for one later, and dotted keys make tables that only dotted keys extend.
Values that are written as a whole are never extended.
-/

set_option autoImplicit false

namespace ClassTable.Toml

/-- How a table came up: under a header of its own, on the way to another one, or through dotted keys. -/
inductive TableOrigin where
  | header
  | passed
  | dotted
deriving DecidableEq, Repr

inductive Item where
  | value (v : Setting)
  | table (origin : TableOrigin) (items : List (String × Item))
  /-- Tables that headers in double brackets opened, the latest apart. -/
  | series (before : List (List (String × Item))) (last : List (String × Item))
deriving Inhabited

abbrev Items := List (String × Item)

namespace Items

def set (items : Items) (key : String) (item : Item) : Items :=
  if items.any (·.1 == key) then items.map fun i => if i.1 = key then (key, item) else i
  else items ++ [(key, item)]

def changeAt? (change : Items → Option Items) : List String → Items → Option Items
  | [], items => change items
  | key :: keys, items => do
    let item ← match items.lookup key with
      | none => (changeAt? change keys []).map (.table .passed)
      | some (.value _) => none
      | some (.table origin inner) => (changeAt? change keys inner).map (.table origin)
      | some (.series before last) => (changeAt? change keys last).map (.series before)
    pure (items.set key item)

def insert? (value : Setting) (key : String) : List String → Items → Option Items
  | [], items => if (items.lookup key).isSome then none else some (items.set key (.value value))
  | k :: ks, items => do
    let item ← match items.lookup k with
      | none => (insert? value key ks []).map (.table .dotted)
      | some (.value _) => none
      | some (.table .header _) => none
      | some (.table origin inner) =>
        if ks.isEmpty && origin != .dotted then none
        else (insert? value key ks inner).map (.table origin)
      | some (.series before last) =>
        if ks.isEmpty then none else (insert? value key ks last).map (.series before)
    pure (items.set k item)

def openTable? (key : String) (items : Items) : Option Items :=
  match items.lookup key with
  | none => some (items.set key (.table .header []))
  | some (.table .passed inner) => some (items.set key (.table .header inner))
  | some _ => none

def openNext? (key : String) (items : Items) : Option Items :=
  match items.lookup key with
  | none => some (items.set key (.series [] []))
  | some (.series before last) => some (items.set key (.series (before ++ [last]) []))
  | some _ => none

end Items

mutual

def Item.toSetting : Item → Setting
  | .value v => v
  | .table _ items => .table (Keyed.ofList (memberSettings items))
  | .series before last =>
    .list (seriesSettings before ++ [.table (Keyed.ofList (memberSettings last))])

def memberSettings : List (String × Item) → List (String × Setting)
  | [] => []
  | (key, item) :: rest => (key, item.toSetting) :: memberSettings rest

def seriesSettings : List (List (String × Item)) → List Setting
  | [] => []
  | items :: rest => .table (Keyed.ofList (memberSettings items)) :: seriesSettings rest

end

def Items.toMembers (items : Items) : Keyed Setting := Keyed.ofList (memberSettings items)

end ClassTable.Toml
