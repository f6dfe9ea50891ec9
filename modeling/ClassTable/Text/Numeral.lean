set_option autoImplicit false

namespace ClassTable.Text

def digitValue (c : Char) : Nat := c.toNat - '0'.toNat

def digitsValue (ds : List Char) : Nat := ds.foldl (fun n d => 10 * n + digitValue d) 0

def natOfDigits? (cs : List Char) : Option Nat :=
  if !cs.isEmpty && cs.all Char.isDigit then some (digitsValue cs) else none

/-- A numeral with an optional plus sign whose value is at most `bound`. -/
def natUpTo? (bound : Nat) (cs : List Char) : Option Nat :=
  let digits := match cs with
    | '+' :: rest => rest
    | _ => cs
  (natOfDigits? digits).filter (· ≤ bound)

theorem natUpTo?_le {bound n : Nat} {cs : List Char} (h : natUpTo? bound cs = some n) : n ≤ bound := by
  unfold natUpTo? at h
  simpa using (Option.filter_eq_some_iff.1 h).2

end ClassTable.Text
