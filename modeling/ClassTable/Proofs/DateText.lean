import ClassTable.Date
import ClassTable.Log
import ClassTable.Proofs.Cells
import Mathlib.Data.List.TakeWhile
import Mathlib.Data.Nat.Digits.Defs

set_option autoImplicit false

namespace ClassTable.Date

open Text (digitsValue)

section Forms

def Blanks (cs : List Char) : Prop := ∀ c ∈ cs, Text.isBlank c = true

structure IsNumeral (n : Nat) (digits : List Char) : Prop where
  nonempty : digits ≠ []
  digital : ∀ c ∈ digits, c.isDigit = true
  value : Nat.ofDigitChars 10 digits 0 = n

/-- A year has at most four digits, or any number of them right behind a sign. -/
inductive IsYear : Int → List Char → Prop
  | plain {n : Nat} {digits : List Char} (number : IsNumeral n digits) (short : digits.length ≤ 4) : IsYear n digits
  | plus {n : Nat} {digits : List Char} (number : IsNumeral n digits) : IsYear n ('+' :: digits)
  | minus {n : Nat} {digits : List Char} (number : IsNumeral n digits) : IsYear (-n) ('-' :: digits)

def IsPart (n : Nat) (digits : List Char) : Prop := IsNumeral n digits ∧ digits.length ≤ 2

def Spaced (form : List Char → Prop) (cs : List Char) : Prop :=
  ∃ before inner after, cs = before ++ inner ++ after ∧ Blanks before ∧ form inner ∧ Blanks after

def IsWritten (d : Date) (s : String) : Prop :=
  ∃ year month day, s.toList = year ++ '-' :: (month ++ '-' :: day) ∧ Spaced (IsYear d.year) year ∧
    Spaced (IsPart d.month) month ∧ Spaced (IsPart d.day) day

end Forms

section Digits

variable {width n : Nat} {limit : Option Nat} {digits rest cs : List Char}

def EndsNumber (rest : List Char) : Prop := ∀ c, rest.head? = some c → c.isDigit = false

theorem IsNumeral.digitsValue_eq (number : IsNumeral n digits) : digitsValue digits = n :=
  Text.digitsValue_eq_ofDigitChars.trans number.value

theorem readDigits_append (number : IsNumeral n digits) (fits : ∀ w, limit = some w → digits.length ≤ w)
    (behind : EndsNumber rest) (small : n ≤ largestNumber) :
    readDigits limit (digits ++ rest) = .ok (n, rest) := by
  have all : (digits ++ rest).takeWhile Char.isDigit = digits := by
    rw [List.takeWhile_append_of_pos number.digital]
    have stop : rest.takeWhile Char.isDigit = [] := by
      cases rest with
      | nil => rfl
      | cons c rest => rw [List.takeWhile_cons_of_neg (by simp [behind c rfl])]
    rw [stop, List.append_nil]
  have nonempty := number.nonempty
  unfold readDigits
  rw [all]
  cases limit with
  | none =>
    dsimp only
    rw [if_neg (by simp [nonempty]), if_neg (by simp [nonempty]), number.digitsValue_eq, if_pos small, List.drop_left]
  | some w =>
    dsimp only
    rw [List.take_of_length_le (fits w rfl), if_neg (by simp [nonempty]), if_neg (by simp [nonempty]),
      number.digitsValue_eq, if_pos small, List.drop_left]

theorem isNumeral_of_readDigits (read : readDigits limit cs = .ok (n, rest)) :
    ∃ digits, cs = digits ++ rest ∧ IsNumeral n digits ∧ ∀ w, limit = some w → digits.length ≤ w := by
  have opened : ∃ digits, digits <+: cs.takeWhile Char.isDigit ∧ (∀ w, limit = some w → digits.length ≤ w) ∧
      readDigits limit cs = if cs.isEmpty = true then .error .tooShort
        else if digits.isEmpty = true then .error .badCharacter
        else if digitsValue digits ≤ largestNumber then .ok (digitsValue digits, cs.drop digits.length)
        else .error .outOfRange := by
    cases limit with
    | none => exact ⟨_, List.prefix_rfl, by rintro w ⟨⟩, rfl⟩
    | some w =>
      refine ⟨_, List.take_prefix w _, ?_, rfl⟩
      rintro _ ⟨⟩
      exact List.length_take_le w _
  obtain ⟨digits, front, fits, opens⟩ := opened
  rw [opens] at read
  split at read
  · exact absurd read nofun
  · split at read
    · exact absurd read nofun
    · next some =>
      split at read
      · obtain ⟨value, behind⟩ := Prod.mk.inj (Except.ok.inj read)
        have whole : digits ++ cs.drop digits.length = cs :=
          List.prefix_iff_eq_append.1 (front.trans (List.takeWhile_prefix _))
        refine ⟨digits, behind ▸ whole.symm, ⟨by simpa using some, ?_, ?_⟩, fits⟩
        · exact fun c mem => List.mem_takeWhile_imp (front.subset mem)
        · exact Text.digitsValue_eq_ofDigitChars.symm.trans value
      · exact absurd read nofun

end Digits

section Blank

variable {before after rest cs : List Char} {form : List Char → Prop}

theorem dropBlank_append (blank : Blanks before) : Text.dropBlank (before ++ cs) = Text.dropBlank cs :=
  List.dropWhile_append_of_pos blank

theorem dropBlank_of_not_blank {c : Char} (first : Text.isBlank c = false) :
    Text.dropBlank (c :: cs) = c :: cs := by
  unfold Text.dropBlank
  rw [List.dropWhile_cons_of_neg (by simp [first])]

theorem exists_dropBlank (cs : List Char) : ∃ before, cs = before ++ Text.dropBlank cs ∧ Blanks before :=
  ⟨cs.takeWhile Text.isBlank, List.takeWhile_append_dropWhile.symm, fun _ => List.mem_takeWhile_imp⟩

theorem not_isDigit_of_isBlank {c : Char} (blank : Text.isBlank c = true) : c.isDigit = false := by
  by_contra digit
  rw [Text.not_isBlank_of_isDigit (by simpa using digit)] at blank
  exact absurd blank nofun

theorem endsNumber_append (blank : Blanks after) (behind : EndsNumber rest) : EndsNumber (after ++ rest) := by
  cases after with
  | nil => exact behind
  | cons c after =>
    rintro d ⟨⟩
    exact not_isDigit_of_isBlank (blank c (.head _))

theorem endsNumber_nil : EndsNumber [] := nofun

theorem endsNumber_dash (rest : List Char) : EndsNumber ('-' :: rest) := by
  rintro c ⟨⟩
  rfl

end Blank

section Parts

variable {y : Int} {n last : Nat} {before digits rest cs : List Char}

theorem exists_year (read : readYear cs = .ok (y, rest)) :
    ∃ before year, cs = before ++ (year ++ rest) ∧ Blanks before ∧ IsYear y year := by
  obtain ⟨before, whole, blank⟩ := exists_dropBlank cs
  unfold readYear at read
  split at read
  · next behind starts =>
    obtain ⟨⟨n, rest⟩, number, same⟩ := except_bind_eq_ok.1 read
    cases same
    obtain ⟨digits, rfl, numeral, -⟩ := isNumeral_of_readDigits number
    exact ⟨before, '-' :: digits, by rw [whole, starts]; rfl, blank, .minus numeral⟩
  · next behind starts =>
    obtain ⟨⟨n, rest⟩, number, same⟩ := except_bind_eq_ok.1 read
    cases same
    obtain ⟨digits, rfl, numeral, -⟩ := isNumeral_of_readDigits number
    exact ⟨before, '+' :: digits, by rw [whole, starts]; rfl, blank, .plus numeral⟩
  · obtain ⟨⟨n, rest⟩, number, same⟩ := except_bind_eq_ok.1 read
    cases same
    obtain ⟨digits, split, numeral, short⟩ := isNumeral_of_readDigits number
    exact ⟨before, digits, by rw [← split]; exact whole, blank, .plain numeral (short 4 rfl)⟩

theorem IsNumeral.exists_cons (number : IsNumeral n digits) : ∃ c cs, digits = c :: cs ∧ c.isDigit = true := by
  obtain ⟨c, cs, rfl⟩ := List.exists_cons_of_ne_nil number.nonempty
  exact ⟨c, cs, rfl, number.digital c (.head _)⟩

theorem IsNumeral.dropBlank_append (number : IsNumeral n digits) (rest : List Char) :
    Text.dropBlank (digits ++ rest) = digits ++ rest := by
  obtain ⟨c, cs, rfl, digit⟩ := number.exists_cons
  exact dropBlank_of_not_blank (Text.not_isBlank_of_isDigit digit)

theorem readYear_append (blank : Blanks before) (year : IsYear y cs) (behind : EndsNumber rest)
    (small : y.natAbs ≤ largestNumber) : readYear (before ++ (cs ++ rest)) = .ok (y, rest) := by
  unfold readYear
  rw [dropBlank_append blank]
  cases year with
  | @plain n _ number short =>
    have read : readDigits (some 4) (cs ++ rest) = .ok (n, rest) := by
      refine readDigits_append number ?_ behind small
      rintro w ⟨⟩
      exact short
    obtain ⟨c, tail, starts, digit⟩ := number.exists_cons
    have unsigned (sign : Char) (other : List Char) (same : cs ++ rest = sign :: other)
        (mark : sign.isDigit = false) : False := by
      rw [starts] at same
      obtain ⟨rfl, -⟩ := List.cons.inj same
      rw [digit] at mark
      exact absurd mark nofun
    rw [number.dropBlank_append]
    split
    · next same => exact (unsigned _ _ same rfl).elim
    · next same => exact (unsigned _ _ same rfl).elim
    · rw [read]
      rfl
  | @plus n digits number =>
    have read : readDigits none (digits ++ rest) = .ok (n, rest) := readDigits_append number nofun behind small
    rw [List.cons_append, dropBlank_of_not_blank (by decide)]
    change (readDigits none (digits ++ rest) >>= fun x => pure ((x.1 : Int), x.2)) = _
    rw [read]
    rfl
  | @minus n digits number =>
    have read : readDigits none (digits ++ rest) = .ok (n, rest) :=
      readDigits_append number nofun behind (by simpa using small)
    rw [List.cons_append, dropBlank_of_not_blank (by decide)]
    change (readDigits none (digits ++ rest) >>= fun x => pure (-(x.1 : Int), x.2)) = _
    rw [read]
    rfl

theorem exists_dash (read : readDash cs = .ok rest) : ∃ before, cs = before ++ '-' :: rest ∧ Blanks before := by
  obtain ⟨before, whole, blank⟩ := exists_dropBlank cs
  unfold readDash at read
  split at read
  · next starts =>
    obtain rfl := Except.ok.inj read
    exact ⟨before, by rw [← starts]; exact whole, blank⟩
  · exact absurd read nofun
  · exact absurd read nofun

theorem readDash_append (blank : Blanks before) : readDash (before ++ '-' :: rest) = .ok rest := by
  unfold readDash
  rw [dropBlank_append blank, dropBlank_of_not_blank (by decide)]
  rfl

theorem exists_part (read : readPart last cs = .ok (n, rest)) :
    ∃ before digits, cs = before ++ (digits ++ rest) ∧ Blanks before ∧ IsPart n digits := by
  obtain ⟨before, whole, blank⟩ := exists_dropBlank cs
  obtain ⟨⟨m, behind⟩, number, same⟩ := except_bind_eq_ok.1 read
  dsimp only at same
  split at same
  · cases same
    obtain ⟨digits, split, numeral, short⟩ := isNumeral_of_readDigits number
    exact ⟨before, digits, by rw [← split]; exact whole, blank, numeral, short 2 rfl⟩
  · exact absurd same nofun

theorem readPart_append (blank : Blanks before) (part : IsPart n digits) (behind : EndsNumber rest) (starts : 1 ≤ n)
    (ends : n ≤ last) (small : last ≤ 99) : readPart last (before ++ (digits ++ rest)) = .ok (n, rest) := by
  obtain ⟨number, short⟩ := part
  have bound : n ≤ largestNumber := by
    unfold largestNumber
    omega
  have read : readDigits (some 2) (digits ++ rest) = .ok (n, rest) := by
    refine readDigits_append number ?_ behind bound
    rintro w ⟨⟩
    exact short
  unfold readPart
  rw [dropBlank_append blank, number.dropBlank_append, read]
  exact if_pos ⟨starts, ends⟩

end Parts

section Reading

variable {d : Date} {cs : List Char}

theorem bounds (d : Date) : Calendar.firstYear ≤ d.year ∧ d.year ≤ Calendar.lastYear ∧ 1 ≤ d.month ∧ d.month ≤ 12 ∧
    1 ≤ d.day ∧ d.day ≤ 31 := by
  have real := d.real
  simp only [Calendar.exists?, Bool.and_eq_true, decide_eq_true_eq] at real
  obtain ⟨⟨⟨⟨⟨first, last⟩, month⟩, months⟩, day⟩, days⟩ := real
  have longest : Calendar.daysIn d.year d.month ≤ 31 := by
    unfold Calendar.daysIn
    split
    · split <;> omega
    · split <;> omega
  exact ⟨first, last, month, months, day, days.trans longest⟩

theorem ofParts?_eq_some_iff {year : Int} {month day : Nat} :
    ofParts? year month day = some d ↔ year = d.year ∧ month = d.month ∧ day = d.day := by
  unfold ofParts?
  constructor
  · intro made
    split at made
    · obtain rfl := Option.some.inj made
      exact ⟨rfl, rfl, rfl⟩
    · exact absurd made nofun
  · rintro ⟨rfl, rfl, rfl⟩
    exact dif_pos d.real

theorem ofChars_eq_ok_iff : ofChars cs = .ok d ↔ ∃ cs₁ cs₂ cs₃ cs₄ cs₅, readYear cs = .ok (d.year, cs₁) ∧
    readDash cs₁ = .ok cs₂ ∧ readPart 12 cs₂ = .ok (d.month, cs₃) ∧ readDash cs₃ = .ok cs₄ ∧
    readPart 31 cs₄ = .ok (d.day, cs₅) ∧ Text.dropBlank cs₅ = [] := by
  obtain ⟨first, last, -⟩ := d.bounds
  have fits : yearFits d.year = true := by
    unfold Calendar.firstYear at first
    unfold Calendar.lastYear at last
    simp only [yearFits, Bool.and_eq_true, decide_eq_true_eq]
    omega
  constructor
  · intro read
    obtain ⟨⟨year, cs₁⟩, readYear, read⟩ := except_bind_eq_ok.1 read
    dsimp only at read
    split at read
    · exact absurd read nofun
    · obtain ⟨cs₂, readDash₁, read⟩ := except_bind_eq_ok.1 read
      obtain ⟨⟨month, cs₃⟩, readMonth, read⟩ := except_bind_eq_ok.1 read
      obtain ⟨cs₄, readDash₂, read⟩ := except_bind_eq_ok.1 read
      obtain ⟨⟨day, cs₅⟩, readDay, read⟩ := except_bind_eq_ok.1 read
      dsimp only at read
      split at read
      · exact absurd read nofun
      · next blank =>
        split at read
        · next made =>
          obtain rfl := Except.ok.inj read
          obtain ⟨rfl, rfl, rfl⟩ := ofParts?_eq_some_iff.1 made
          exact ⟨cs₁, cs₂, cs₃, cs₄, cs₅, readYear, readDash₁, readMonth, readDash₂, readDay, by simpa using blank⟩
        · exact absurd read nofun
  · rintro ⟨cs₁, cs₂, cs₃, cs₄, cs₅, readYear, readDash₁, readMonth, readDash₂, readDay, blank⟩
    have whole : ofParts? d.year d.month d.day = some d := ofParts?_eq_some_iff.2 ⟨rfl, rfl, rfl⟩
    unfold ofChars
    simp only [bind, Except.bind, readYear, fits, readDash₁, readMonth, readDash₂, readDay, blank, whole]
    rfl

/-- A text reads as a date when it is written as that date. -/
theorem ofText_eq_ok_iff {s : String} : ofText s = .ok d ↔ d.IsWritten s := by
  obtain ⟨first, last, month, months, day, days⟩ := d.bounds
  refine ofChars_eq_ok_iff.trans ⟨?_, ?_⟩
  · rintro ⟨cs₁, cs₂, cs₃, cs₄, cs₅, readYear, readDash₁, readMonth, readDash₂, readDay, blank⟩
    obtain ⟨beforeYear, yearText, whole, blankYear, year⟩ := exists_year readYear
    obtain ⟨afterYear, rfl, blankYear'⟩ := exists_dash readDash₁
    obtain ⟨beforeMonth, monthText, rfl, blankMonth, month⟩ := exists_part readMonth
    obtain ⟨afterMonth, rfl, blankMonth'⟩ := exists_dash readDash₂
    obtain ⟨beforeDay, dayText, rfl, blankDay, day⟩ := exists_part readDay
    refine ⟨beforeYear ++ yearText ++ afterYear, beforeMonth ++ monthText ++ afterMonth, beforeDay ++ dayText ++ cs₅,
      ?_, ⟨_, _, _, rfl, blankYear, year, blankYear'⟩, ⟨_, _, _, rfl, blankMonth, month, blankMonth'⟩,
      ⟨_, _, _, rfl, blankDay, day, List.dropWhile_eq_nil_iff.1 blank⟩⟩
    simpa [List.append_assoc] using whole
  · rintro ⟨_, _, _, whole, ⟨beforeYear, yearText, afterYear, rfl, blankYear, year, blankYear'⟩,
      ⟨beforeMonth, monthText, afterMonth, rfl, blankMonth, monthForm, blankMonth'⟩,
      ⟨beforeDay, dayText, afterDay, rfl, blankDay, dayForm, blankDay'⟩⟩
    have small : d.year.natAbs ≤ largestNumber := by
      unfold Calendar.firstYear at first
      unfold Calendar.lastYear at last
      unfold largestNumber
      omega
    -- Each number ends where it is written to end, since a blank, a dash or nothing comes behind it.
    have readDay : readPart 31 (beforeDay ++ (dayText ++ afterDay)) = .ok (d.day, afterDay) := by
      have behind : EndsNumber (afterDay ++ []) := endsNumber_append blankDay' endsNumber_nil
      rw [List.append_nil] at behind
      exact readPart_append blankDay dayForm behind day days (by decide)
    have readMonth (rest : List Char) : readPart 12 (beforeMonth ++ (monthText ++ (afterMonth ++ '-' :: rest))) =
        .ok (d.month, afterMonth ++ '-' :: rest) :=
      readPart_append blankMonth monthForm (endsNumber_append blankMonth' (endsNumber_dash rest)) month months (by decide)
    have readYear (rest : List Char) : readYear (beforeYear ++ (yearText ++ (afterYear ++ '-' :: rest))) =
        .ok (d.year, afterYear ++ '-' :: rest) :=
      readYear_append blankYear year (endsNumber_append blankYear' (endsNumber_dash rest)) small
    refine ⟨_, _, _, _, _, ?_, readDash_append blankYear', readMonth _, readDash_append blankMonth', readDay, ?_⟩
    · rw [whole]
      simpa [List.append_assoc] using readYear _
    · exact List.dropWhile_eq_nil_iff.2 blankDay'

end Reading

section Printed

variable {width n : Nat}

theorem toList_padded (width n : Nat) :
    (padded width n).toList = List.replicate (width - (Nat.toDigits 10 n).length) '0' ++ Nat.toDigits 10 n :=
  String.toList_ofList

theorem isDigit_of_mem_padded {c : Char} (mem : c ∈ (padded width n).toList) : c.isDigit = true := by
  rw [toList_padded] at mem
  rcases List.mem_append.1 mem with zero | digit
  · rw [List.eq_of_mem_replicate zero]
    rfl
  · exact Nat.isDigit_of_mem_toDigits (by decide) (by decide) digit

theorem ofDigitChars_zeros (count : Nat) (cs : List Char) :
    Nat.ofDigitChars 10 (List.replicate count '0' ++ cs) 0 = Nat.ofDigitChars 10 cs 0 := by
  induction count with
  | zero => rfl
  | succ count ih => exact ih

theorem isNumeral_padded (width n : Nat) : IsNumeral n (padded width n).toList where
  nonempty := by
    rw [toList_padded]
    simp [Nat.toDigits_ne_nil]
  digital := fun _ => isDigit_of_mem_padded
  value := by rw [toList_padded, ofDigitChars_zeros, Nat.ofDigitChars_ten_toDigits]

theorem length_padded {width n : Nat} (wide : 0 < width) (small : n < 10 ^ width) :
    (padded width n).toList.length = width := by
  have short : (Nat.toDigits 10 n).length ≤ width := Nat.toDigits_length 10 n width wide small
  rw [toList_padded, List.length_append, List.length_replicate]
  omega

theorem isPart_padded (small : n < 100) : IsPart n (padded 2 n).toList :=
  ⟨isNumeral_padded 2 n, (length_padded (by decide) small).le⟩

theorem spaced_self {form : List Char → Prop} {cs : List Char} (holds : form cs) : Spaced form cs :=
  ⟨[], cs, [], (List.append_nil cs).symm, nofun, holds, nofun⟩

theorem isWritten_text (d : Date) : d.IsWritten d.text := by
  obtain ⟨-, -, -, months, -, days⟩ := d.bounds
  have month := spaced_self (isPart_padded (n := d.month) (by omega))
  have day := spaced_self (isPart_padded (n := d.day) (by omega))
  unfold text
  by_cases plain : 0 ≤ d.year ∧ d.year ≤ 9999
  · have year : IsYear d.year (padded 4 d.year.toNat).toList := by
      have number := isNumeral_padded 4 d.year.toNat
      have short : (padded 4 d.year.toNat).toList.length ≤ 4 := (length_padded (by decide) (by omega)).le
      have value : (d.year.toNat : Int) = d.year := by omega
      exact value ▸ .plain number short
    refine ⟨_, _, _, ?_, spaced_self year, month, day⟩
    rw [if_pos plain]
    simp [String.toList_append, List.append_assoc]
  · have number := isNumeral_padded 4 d.year.natAbs
    rw [if_neg plain]
    by_cases negative : d.year < 0
    · have value : -(d.year.natAbs : Int) = d.year := by omega
      have year := IsYear.minus number
      rw [value] at year
      refine ⟨_, _, _, ?_, spaced_self year, month, day⟩
      rw [if_pos negative]
      simp [String.toList_append, List.append_assoc]
    · have value : (d.year.natAbs : Int) = d.year := by omega
      have year := IsYear.plus number
      rw [value] at year
      refine ⟨_, _, _, ?_, spaced_self year, month, day⟩
      rw [if_neg negative]
      simp [String.toList_append, List.append_assoc]

theorem ofText_text (d : Date) : ofText d.text = .ok d := ofText_eq_ok_iff.2 d.isWritten_text

end Printed

end ClassTable.Date
