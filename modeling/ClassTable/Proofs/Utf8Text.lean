import ClassTable.Text.Utf8

set_option autoImplicit false

namespace ClassTable.Text

section Bytes

theorem toList_loop_eq (bs : ByteArray) (i : Nat) (read : List UInt8) :
    ByteArray.toList.loop bs i read = read.reverse ++ bs.data.toList.drop i := by
  fun_induction ByteArray.toList.loop bs i read with
  | case1 i read inside ih =>
    have inside' : i < bs.data.toList.length := by simpa using inside
    rw [ih, List.drop_eq_getElem_cons inside']
    simp [ByteArray.get!, inside]
  | case2 i read outside =>
    rw [List.drop_eq_nil_of_le (by simpa using Nat.le_of_not_lt outside), List.append_nil]

theorem toUtf8_eq_flatMap (s : String) : toUtf8 s = s.toList.flatMap String.utf8EncodeChar := by
  rw [← s.ofList_toList, String.toList_ofList]
  change ByteArray.toList.loop (s.toList.flatMap String.utf8EncodeChar).toByteArray 0 [] = _
  rw [toList_loop_eq, List.toList_data_toByteArray]
  rfl

end Bytes

section Reading

variable {done : Nat} {b : UInt8} {rest : Bytes} {o : OpenChar}

theorem decodeFrom_single (small : b.toNat < 0x80) :
    decodeFrom done none (b :: rest) = (decodeFrom (done + 1) none rest).map (Char.ofNat b.toNat :: ·) := by
  rw [decodeFrom, if_pos small]
  rfl

theorem decodeFrom_first (large : 0x80 ≤ b.toNat) (announced : openChar? b.toNat = some o) :
    decodeFrom done none (b :: rest) = decodeFrom done (some o) rest := by
  rw [decodeFrom, if_neg (by omega), announced]

theorem decodeFrom_next {owed low high bits size : Nat} (fits : low ≤ b.toNat ∧ b.toNat ≤ high) :
    decodeFrom done (some ⟨owed + 2, low, high, bits, size⟩) (b :: rest) =
      decodeFrom done (some ⟨owed + 1, 0x80, 0xBF, 64 * bits + (b.toNat - 0x80), size⟩) rest := by
  rw [decodeFrom, if_pos fits]
  exact if_neg (by simp)

theorem decodeFrom_last {low high bits size : Nat} (fits : low ≤ b.toNat ∧ b.toNat ≤ high) :
    decodeFrom done (some ⟨1, low, high, bits, size⟩) (b :: rest) =
      (decodeFrom (done + size) none rest).map (Char.ofNat (64 * bits + (b.toNat - 0x80)) :: ·) := by
  rw [decodeFrom, if_pos fits]
  rfl

theorem openChar?_two {n : Nat} (least : 0x80 ≤ n) (most : n < 0x800) :
    openChar? (n / 64 % 32 + 192) = some ⟨1, 0x80, 0xBF, n / 64, 2⟩ := by
  have bits : n / 64 % 32 + 192 - 0xC0 = n / 64 := by omega
  unfold openChar?
  rw [if_pos (by omega), bits]

/-- The range of the second byte leaves out shorter forms and surrogates. -/
theorem openChar?_three {n : Nat} (least : 0x800 ≤ n) (most : n < 0x10000) (valid : n < 0xD800 ∨ 0xDFFF < n) :
    ∃ low high, openChar? (n / 4096 % 16 + 224) = some ⟨2, low, high, n / 4096, 3⟩ ∧
      low ≤ n / 64 % 64 + 128 ∧ n / 64 % 64 + 128 ≤ high := by
  generalize top : n / 4096 % 16 + 224 = b
  unfold openChar?
  rw [if_neg (by omega)]
  by_cases first : b = 0xE0
  · have bits : n / 4096 = 0 := by omega
    rw [if_pos first, bits]
    exact ⟨0xA0, 0xBF, rfl, by omega, by omega⟩
  · rw [if_neg first]
    by_cases last : b = 0xED
    · have bits : n / 4096 = 0xD := by omega
      rw [if_pos last, bits]
      exact ⟨0x80, 0x9F, rfl, by omega, by omega⟩
    · have bits : n / 4096 = b - 0xE0 := by omega
      rw [if_neg last, if_pos (by omega), bits]
      exact ⟨0x80, 0xBF, rfl, by omega, by omega⟩

theorem openChar?_four {n : Nat} (least : 0x10000 ≤ n) (most : n < 0x110000) :
    ∃ low high, openChar? (n / 262144 % 8 + 240) = some ⟨3, low, high, n / 262144, 4⟩ ∧
      low ≤ n / 4096 % 64 + 128 ∧ n / 4096 % 64 + 128 ≤ high := by
  generalize top : n / 262144 % 8 + 240 = b
  unfold openChar?
  rw [if_neg (by omega), if_neg (by omega), if_neg (by omega), if_neg (by omega)]
  by_cases first : b = 0xF0
  · have bits : n / 262144 = 0 := by omega
    rw [if_pos first, bits]
    exact ⟨0x90, 0xBF, rfl, by omega, by omega⟩
  · rw [if_neg first]
    by_cases last : b = 0xF4
    · have bits : n / 262144 = 4 := by omega
      rw [if_pos last, bits]
      exact ⟨0x80, 0x8F, rfl, by omega, by omega⟩
    · have bits : n / 262144 = b - 0xF0 := by omega
      rw [if_neg last, if_pos (by omega), bits]
      exact ⟨0x80, 0xBF, rfl, by omega, by omega⟩

theorem toNat_ofNat_byte {n : Nat} (small : n < 256) : (UInt8.ofNat n).toNat = n := by
  simp [UInt8.toNat_ofNat', Nat.mod_eq_of_lt small]

theorem decodeFrom_two {n : Nat} (least : 0x80 ≤ n) (most : n < 0x800) :
    decodeFrom done none (UInt8.ofNat (n / 64 % 32 + 192) :: UInt8.ofNat (n % 64 + 128) :: rest) =
      (decodeFrom (done + 2) none rest).map (Char.ofNat n :: ·) := by
  have first := toNat_ofNat_byte (n := n / 64 % 32 + 192) (by omega)
  have last := toNat_ofNat_byte (n := n % 64 + 128) (by omega)
  have bits : 64 * (n / 64) + (n % 64 + 128 - 0x80) = n := by omega
  rw [decodeFrom_first (by omega) ((congrArg openChar? first).trans (openChar?_two least most)),
    decodeFrom_last (by omega), last, bits]

theorem decodeFrom_three {n : Nat} (least : 0x800 ≤ n) (most : n < 0x10000) (valid : n < 0xD800 ∨ 0xDFFF < n) :
    decodeFrom done none (UInt8.ofNat (n / 4096 % 16 + 224) :: UInt8.ofNat (n / 64 % 64 + 128) ::
        UInt8.ofNat (n % 64 + 128) :: rest) =
      (decodeFrom (done + 3) none rest).map (Char.ofNat n :: ·) := by
  have first := toNat_ofNat_byte (n := n / 4096 % 16 + 224) (by omega)
  have second := toNat_ofNat_byte (n := n / 64 % 64 + 128) (by omega)
  have last := toNat_ofNat_byte (n := n % 64 + 128) (by omega)
  have bits : 64 * (64 * (n / 4096) + (n / 64 % 64 + 128 - 0x80)) + (n % 64 + 128 - 0x80) = n := by omega
  obtain ⟨low, high, announced, above, below⟩ := openChar?_three least most valid
  rw [decodeFrom_first (by omega) ((congrArg openChar? first).trans announced),
    decodeFrom_next (by omega), decodeFrom_last (by omega), second, last, bits]

theorem decodeFrom_four {n : Nat} (least : 0x10000 ≤ n) (most : n < 0x110000) :
    decodeFrom done none (UInt8.ofNat (n / 262144 % 8 + 240) :: UInt8.ofNat (n / 4096 % 64 + 128) ::
        UInt8.ofNat (n / 64 % 64 + 128) :: UInt8.ofNat (n % 64 + 128) :: rest) =
      (decodeFrom (done + 4) none rest).map (Char.ofNat n :: ·) := by
  have first := toNat_ofNat_byte (n := n / 262144 % 8 + 240) (by omega)
  have second := toNat_ofNat_byte (n := n / 4096 % 64 + 128) (by omega)
  have third := toNat_ofNat_byte (n := n / 64 % 64 + 128) (by omega)
  have last := toNat_ofNat_byte (n := n % 64 + 128) (by omega)
  have bits : 64 * (64 * (64 * (n / 262144) + (n / 4096 % 64 + 128 - 0x80)) + (n / 64 % 64 + 128 - 0x80)) +
      (n % 64 + 128 - 0x80) = n := by omega
  obtain ⟨low, high, announced, above, below⟩ := openChar?_four least most
  rw [decodeFrom_first (by omega) ((congrArg openChar? first).trans announced),
    decodeFrom_next (by omega), decodeFrom_next (by omega), decodeFrom_last (by omega), second, third, last, bits]

theorem decodeFrom_utf8EncodeChar (done : Nat) (c : Char) (rest : Bytes) :
    ∃ size, decodeFrom done none (String.utf8EncodeChar c ++ rest) =
      (decodeFrom (done + size) none rest).map (c :: ·) := by
  have whole : Char.ofNat c.val.toNat = c := c.ofNat_toNat
  have valid : c.val.toNat < 0xD800 ∨ (0xDFFF < c.val.toNat ∧ c.val.toNat < 0x110000) := c.valid
  unfold String.utf8EncodeChar
  dsimp only
  split
  · have value := toNat_ofNat_byte (n := c.val.toNat) (by omega)
    refine ⟨1, ?_⟩
    rw [List.singleton_append, decodeFrom_single (by omega), value, whole]
  · split
    · refine ⟨2, ?_⟩
      rw [List.cons_append, List.singleton_append, decodeFrom_two (by omega) (by omega), whole]
    · split
      · refine ⟨3, ?_⟩
        rw [List.cons_append, List.cons_append, List.singleton_append,
          decodeFrom_three (by omega) (by omega) (by omega), whole]
      · refine ⟨4, ?_⟩
        rw [List.cons_append, List.cons_append, List.cons_append, List.singleton_append,
          decodeFrom_four (by omega) (by omega), whole]

end Reading

theorem ofUtf8_toUtf8 (s : String) : ofUtf8 (toUtf8 s) = .ok s := by
  have read (cs : List Char) (done : Nat) : decodeFrom done none (cs.flatMap String.utf8EncodeChar) = .ok cs := by
    induction cs generalizing done with
    | nil => rfl
    | cons c cs ih =>
      obtain ⟨size, first⟩ := decodeFrom_utf8EncodeChar done c (cs.flatMap String.utf8EncodeChar)
      rw [List.flatMap_cons, first, ih]
      rfl
  unfold ofUtf8
  rw [toUtf8_eq_flatMap, read]
  exact congrArg Except.ok s.ofList_toList

end ClassTable.Text
