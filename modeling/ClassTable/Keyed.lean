set_option autoImplicit false

namespace ClassTable

abbrev Keyed (α : Type) := List (String × α)

namespace Keyed

variable {α : Type}

def insert (key : String) (value : α) : Keyed α → Keyed α
  | [] => [(key, value)]
  | m :: ms =>
    if key < m.1 then (key, value) :: m :: ms
    else if key = m.1 then (key, value) :: ms
    else m :: insert key value ms

/-- Puts pairs in key order; of two with one key the later stays. -/
def ofList (pairs : List (String × α)) : Keyed α :=
  pairs.foldl (fun ms m => insert m.1 m.2 ms) []

def get? (ms : Keyed α) (key : String) : Option α := ms.lookup key

def keys (ms : Keyed α) : List String := ms.map Prod.fst

end Keyed

end ClassTable
