set_option autoImplicit false

namespace ClassTable.Text

abbrev Bytes := List UInt8

/-- A character whose first bytes were read: the bytes owed, the range of the next one, the bits so far,
and the bytes of the whole character. -/
structure OpenChar where
  owed : Nat
  low : Nat
  high : Nat
  bits : Nat
  size : Nat

def openChar? (b : Nat) : Option OpenChar :=
  if 0xC2 ≤ b ∧ b ≤ 0xDF then some ⟨1, 0x80, 0xBF, b - 0xC0, 2⟩
  else if b = 0xE0 then some ⟨2, 0xA0, 0xBF, 0, 3⟩
  else if b = 0xED then some ⟨2, 0x80, 0x9F, 0xD, 3⟩
  else if 0xE1 ≤ b ∧ b ≤ 0xEF then some ⟨2, 0x80, 0xBF, b - 0xE0, 3⟩
  else if b = 0xF0 then some ⟨3, 0x90, 0xBF, 0, 4⟩
  else if b = 0xF4 then some ⟨3, 0x80, 0x8F, 4, 4⟩
  else if 0xF1 ≤ b ∧ b ≤ 0xF3 then some ⟨3, 0x80, 0xBF, b - 0xF0, 4⟩
  else none

/-- Reads characters; `done` bytes were read as whole characters before.  The fault is the number of bytes
before the first malformed character. -/
def decodeFrom (done : Nat) : Option OpenChar → Bytes → Except Nat (List Char)
  | none, [] => .ok []
  | some _, [] => .error done
  | none, b :: rest =>
    if b.toNat < 0x80 then do pure (Char.ofNat b.toNat :: (← decodeFrom (done + 1) none rest))
    else
      match openChar? b.toNat with
      | some o => decodeFrom done (some o) rest
      | none => .error done
  | some o, b :: rest =>
    if o.low ≤ b.toNat ∧ b.toNat ≤ o.high then
      let bits := 64 * o.bits + (b.toNat - 0x80)
      if o.owed = 1 then do pure (Char.ofNat bits :: (← decodeFrom (done + o.size) none rest))
      else decodeFrom done (some ⟨o.owed - 1, 0x80, 0xBF, bits, o.size⟩) rest
    else .error done

def ofUtf8 (bytes : Bytes) : Except Nat String := (decodeFrom 0 none bytes).map String.ofList

def toUtf8 (s : String) : Bytes := s.toUTF8.toList

end ClassTable.Text
