import ClassTable.Json.Printer
import ClassTable.Json.Reader
import Mathlib.Data.List.TakeWhile

set_option autoImplicit false

namespace ClassTable.Json

section Values

mutual

def numberless : Json → Bool
  | num _ => false
  | arr items => itemsNumberless items
  | obj members => membersNumberless members
  | null | bool _ | str _ => true

def itemsNumberless : List Json → Bool
  | [] => true
  | item :: rest => numberless item && itemsNumberless rest

def membersNumberless : List (String × Json) → Bool
  | [] => true
  | (_, value) :: rest => numberless value && membersNumberless rest

end

mutual

/-- A value with the members of its objects as they are when the objects were read. -/
def inKeyOrder : Json → Json
  | arr items => arr (itemsInKeyOrder items)
  | obj members => ofMembers (membersInKeyOrder members)
  | null => null
  | bool b => bool b
  | num n => num n
  | str s => str s

def itemsInKeyOrder : List Json → List Json
  | [] => []
  | item :: rest => inKeyOrder item :: itemsInKeyOrder rest

def membersInKeyOrder : List (String × Json) → List (String × Json)
  | [] => []
  | (key, value) :: rest => (key, inKeyOrder value) :: membersInKeyOrder rest

end

theorem induct {motive : Json → Prop} (null : motive null) (bool : ∀ b, motive (bool b))
    (num : ∀ n, motive (num n)) (str : ∀ s, motive (str s))
    (arr : ∀ items, (∀ item ∈ items, motive item) → motive (arr items))
    (obj : ∀ members, (∀ m ∈ members, motive m.2) → motive (obj members)) (j : Json) : motive j :=
  @Json.rec motive (fun items => ∀ item ∈ items, motive item) (fun members => ∀ m ∈ members, motive m.2)
    (fun m => motive m.2)
    null bool num str arr obj nofun (fun _ _ first rest => List.forall_mem_cons.2 ⟨first, rest⟩)
    nofun (fun _ _ first rest => List.forall_mem_cons.2 ⟨first, rest⟩) (fun _ _ value => value) j

theorem itemsNumberless_iff {items : List Json} :
    itemsNumberless items = true ↔ ∀ item ∈ items, item.numberless = true := by
  induction items with
  | nil => simp [itemsNumberless]
  | cons item items ih => simp [itemsNumberless, ih]

theorem membersNumberless_iff {members : List (String × Json)} :
    membersNumberless members = true ↔ ∀ m ∈ members, m.2.numberless = true := by
  induction members with
  | nil => simp [membersNumberless]
  | cons m members ih => simp [membersNumberless, ih]

end Values

section Texts

theorem hexNumber?_hexDigit {n : Nat} (small : n < 0x20) :
    hexNumber? ['0', '0', hexDigit (n / 16), hexDigit (n % 16)] = some n := by
  decide +revert

theorem isHighSurrogate_toNat {c : Char} (control : c.toNat < 0x20) : isHighSurrogate c.toNat = false := by
  simp [isHighSurrogate]
  omega

theorem unitChar?_toNat {c : Char} (control : c.toNat < 0x20) : unitChar? c.toNat = some c := by
  have notLow : isLowSurrogate c.toNat = false := by
    simp [isLowSurrogate]
    omega
  simp [unitChar?, isHighSurrogate_toNat control, notLow, Char.ofNat_toNat]

theorem readText?_unit {c : Char} (control : c.toNat < 0x20) (cs : List Char) :
    readText? ('\\' :: 'u' :: '0' :: '0' :: hexDigit (c.toNat / 16) :: hexDigit (c.toNat % 16) :: cs)
      = consText c <$> readText? cs := by
  rw [readText?]
  simp [hexNumber?_hexDigit control, isHighSurrogate_toNat control, unitChar?_toNat control]

theorem readText?_plain {c : Char} (printed : 0x20 ≤ c.toNat) (notQuote : c ≠ '"') (notBackslash : c ≠ '\\')
    (cs : List Char) : readText? (c :: cs) = consText c <$> readText? cs := by
  rw [readText?]
  · simp [printed, notBackslash]
  · exact notQuote
  · exact fun a b c d rest same _ => notBackslash same
  · exact fun e rest same _ => notBackslash same

theorem readText?_escapeChar (c : Char) (cs : List Char) :
    readText? (escapeChar c ++ cs) = consText c <$> readText? cs := by
  unfold escapeChar
  split
  case h_8 _ notQuote notBackslash _ _ _ _ _ =>
    split
    · next control => exact readText?_unit control cs
    · next printed => exact readText?_plain (Nat.not_lt.1 printed) notQuote notBackslash cs
  all_goals rfl

theorem readText?_flatMap_escapeChar (cs rest : List Char) :
    readText? (cs.flatMap escapeChar ++ '"' :: rest) = some (cs, rest) := by
  induction cs with
  | nil => rfl
  | cons c cs ih =>
    rw [List.flatMap_cons, List.append_assoc, readText?_escapeChar, ih]
    rfl

end Texts

section Blanks

/-- Holds of margins, which are read over. -/
def IsBlank (cs : List Char) : Prop := ∀ c ∈ cs, isSpace c = true

theorem skipSpace_append {blanks : List Char} (blank : IsBlank blanks) (cs : List Char) :
    skipSpace (blanks ++ cs) = skipSpace cs :=
  List.dropWhile_append_of_pos blank

theorem skipSpace_cons {c : Char} (visible : isSpace c = false) (cs : List Char) :
    skipSpace (c :: cs) = c :: cs :=
  List.dropWhile_cons_of_neg (by simp [visible])

theorem IsBlank.append {cs ds : List Char} (first : IsBlank cs) (second : IsBlank ds) : IsBlank (cs ++ ds) :=
  fun c mem => (List.mem_append.1 mem).elim (first c) (second c)

theorem IsBlank.lineStart {margin : List Char} (blank : IsBlank margin) : IsBlank ('\n' :: margin) :=
  List.forall_mem_cons.2 ⟨rfl, blank⟩

theorem IsBlank.deeper {margin : String} (blank : IsBlank margin.toList) : IsBlank (margin ++ "  ").toList := by
  rw [String.toList_append]
  exact blank.append (by simp [IsBlank, isSpace])

theorem readValue?_append {blanks : List Char} (blank : IsBlank blanks) (fuel : Nat) (cs : List Char) :
    readValue? fuel (blanks ++ cs) = readValue? fuel cs := by
  cases fuel with
  | zero => rfl
  | succ fuel =>
    unfold readValue?
    rw [skipSpace_append blank]

theorem readValue?_gap (fuel : Nat) (cs : List Char) : readValue? fuel (' ' :: cs) = readValue? fuel cs :=
  readValue?_append (List.forall_mem_singleton.2 rfl) fuel cs

theorem readItems?_append {blanks : List Char} (blank : IsBlank blanks) (fuel : Nat) (cs : List Char) :
    readItems? fuel (blanks ++ cs) = readItems? fuel cs := by
  cases fuel with
  | zero => rfl
  | succ fuel =>
    unfold readItems?
    rw [readValue?_append blank]

theorem readMembers?_append {blanks : List Char} (blank : IsBlank blanks) (fuel : Nat) (cs : List Char) :
    readMembers? fuel (blanks ++ cs) = readMembers? fuel cs := by
  cases fuel with
  | zero => rfl
  | succ fuel =>
    unfold readMembers?
    rw [skipSpace_append blank]

theorem takeWhile_isBlank (cs : List Char) : IsBlank (cs.takeWhile isSpace) :=
  fun _ mem => List.mem_takeWhile_imp mem

theorem apply_skipSpace {α : Type} {read : List Char → α}
    (skips : ∀ {blanks : List Char}, IsBlank blanks → ∀ cs, read (blanks ++ cs) = read cs) (cs : List Char) :
    read (skipSpace cs) = read cs := by
  have whole := skips (takeWhile_isBlank cs) (skipSpace cs)
  rwa [skipSpace, List.takeWhile_append_dropWhile, eq_comm] at whole

end Blanks

section Steps

variable {fuel : Nat} {cs rest more after : List Char} {item value : Json} {items : List Json}
  {members : List (String × Json)}

theorem readValue?_quote (text : String) :
    readValue? (fuel + 1) ((quote text).toList ++ rest) = some (str text, rest) := by
  simp [readValue?, quote, quoteChars, skipSpace_cons, isSpace,
    readText?_flatMap_escapeChar]

theorem readValue?_bracket (further : ∀ cs', skipSpace cs ≠ ']' :: cs')
    (read : readItems? fuel cs = some (items, rest)) :
    readValue? (fuel + 1) ('[' :: cs) = some (arr items, rest) := by
  rw [← apply_skipSpace (readItems?_append · fuel)] at read
  simp [readValue?, skipSpace_cons, isSpace, read]

theorem readValue?_brace (further : ∀ cs', skipSpace cs ≠ '\x7d' :: cs')
    (read : readMembers? fuel cs = some (members, rest)) :
    readValue? (fuel + 1) ('\x7b' :: cs) = some (ofMembers members, rest) := by
  rw [← apply_skipSpace (readMembers?_append · fuel)] at read
  simp [readValue?, skipSpace_cons, isSpace, read]

theorem readItems?_last (read : readValue? fuel cs = some (item, rest)) (closed : skipSpace rest = ']' :: after) :
    readItems? (fuel + 1) cs = some ([item], after) := by
  simp [readItems?, read, closed]

theorem readItems?_more (read : readValue? fuel cs = some (item, ',' :: more))
    (further : readItems? fuel more = some (items, after)) :
    readItems? (fuel + 1) cs = some (item :: items, after) := by
  simp [readItems?, read, skipSpace_cons, isSpace, further]

theorem readMembers?_last (key : String) (read : readValue? fuel cs = some (value, rest))
    (closed : skipSpace rest = '\x7d' :: after) :
    readMembers? (fuel + 1) ((quote key).toList ++ ':' :: cs) = some ([(key, value)], after) := by
  simp [readMembers?, quote, quoteChars, skipSpace_cons, isSpace, readText?_flatMap_escapeChar, read, closed]

theorem readMembers?_more (key : String) (read : readValue? fuel cs = some (value, ',' :: more))
    (further : readMembers? fuel more = some (members, after)) :
    readMembers? (fuel + 1) ((quote key).toList ++ ':' :: cs) = some ((key, value) :: members, after) := by
  simp [readMembers?, quote, quoteChars, skipSpace_cons, isSpace,
    readText?_flatMap_escapeChar, read, further]

end Steps

section Printed

theorem exists_cons_prettyAt (margin : String) {j : Json} (plain : j.numberless = true) :
    ∃ c cs, (prettyAt margin j).toList = c :: cs ∧ isSpace c = false ∧ c ≠ ']' := by
  cases j with
  | null => exact ⟨'n', ['u', 'l', 'l'], by simp [prettyAt], rfl, by decide⟩
  | bool b =>
    cases b with
    | false => exact ⟨'f', ['a', 'l', 's', 'e'], by simp [prettyAt], rfl, by decide⟩
    | true => exact ⟨'t', ['r', 'u', 'e'], by simp [prettyAt], rfl, by decide⟩
  | num n => exact absurd plain nofun
  | str s => exact ⟨'"', _, by simp [prettyAt, quote, quoteChars]; rfl, rfl, by decide⟩
  | arr items =>
    cases items with
    | nil => exact ⟨'[', [']'], by simp [prettyAt], rfl, by decide⟩
    | cons item items => exact ⟨'[', _, by simp [prettyAt]; rfl, rfl, by decide⟩
  | obj members =>
    cases members with
    | nil => exact ⟨'\x7b', ['\x7d'], by simp [prettyAt], rfl, by decide⟩
    | cons m members => exact ⟨'\x7b', _, by simp [prettyAt]; rfl, rfl, by decide⟩

theorem toList_prettyItems_cons (margin : String) (item : Json) (items : List Json) :
    (prettyItems margin "\n" (item :: items)).toList
      = ('\n' :: margin.toList) ++ ((prettyAt margin item).toList ++ (prettyItems margin ",\n" items).toList) := by
  simp [prettyItems]

theorem toList_prettyItems_more (margin : String) (item : Json) (items : List Json) :
    (prettyItems margin ",\n" (item :: items)).toList
      = ',' :: (prettyItems margin "\n" (item :: items)).toList := by
  simp [prettyItems]

theorem toList_prettyMembers_cons (margin : String) (m : String × Json) (members : List (String × Json)) :
    (prettyMembers margin "\n" (m :: members)).toList
      = ('\n' :: margin.toList) ++ ((quote m.1).toList
        ++ ':' :: ' ' :: ((prettyAt margin m.2).toList ++ (prettyMembers margin ",\n" members).toList)) := by
  simp [prettyMembers]

theorem toList_prettyMembers_more (margin : String) (m : String × Json) (members : List (String × Json)) :
    (prettyMembers margin ",\n" (m :: members)).toList
      = ',' :: (prettyMembers margin "\n" (m :: members)).toList := by
  simp [prettyMembers]

end Printed

section ReadingBack

/-- Holds of values that read back from their text at every margin, with more fuel than its length. -/
def ReadsBack (j : Json) : Prop :=
  ∀ {margin : String}, IsBlank margin.toList → ∀ {fuel : Nat}, (prettyAt margin j).toList.length < fuel →
    ∀ rest, readValue? fuel ((prettyAt margin j).toList ++ rest) = some (inKeyOrder j, rest)

variable {margin : String} {closing after : List Char} {fuel : Nat}

theorem readItems?_prettyItems (blank : IsBlank margin.toList) (closed : skipSpace closing = ']' :: after)
    {item : Json} {items : List Json} (readsBack : ∀ j ∈ item :: items, ReadsBack j)
    (enough : (prettyItems margin "\n" (item :: items)).toList.length < fuel) :
    readItems? fuel ((prettyItems margin "\n" (item :: items)).toList ++ closing)
      = some (itemsInKeyOrder (item :: items), after) := by
  obtain ⟨fuel, rfl⟩ := Nat.exists_eq_succ_of_ne_zero (Nat.ne_zero_of_lt enough)
  induction items generalizing item fuel with
  | nil =>
    obtain ⟨first, -⟩ := List.forall_mem_cons.1 readsBack
    rw [toList_prettyItems_cons] at enough ⊢
    simp only [List.length_append, List.length_cons] at enough
    rw [List.append_assoc, readItems?_append blank.lineStart]
    simp only [prettyItems, String.toList_empty, List.append_nil]
    exact readItems?_last (first blank (by omega) closing) closed
  | cons next items ih =>
    obtain ⟨first, further⟩ := List.forall_mem_cons.1 readsBack
    rw [toList_prettyItems_cons, toList_prettyItems_more] at enough ⊢
    simp only [List.length_append, List.length_cons] at enough
    rw [List.append_assoc, readItems?_append blank.lineStart, List.append_assoc]
    have lt : (prettyItems margin "\n" (next :: items)).toList.length < fuel := by omega
    obtain ⟨fuel, rfl⟩ := Nat.exists_eq_succ_of_ne_zero (Nat.ne_zero_of_lt lt)
    exact readItems?_more (first blank (by omega) _) (ih further fuel lt)

theorem readMembers?_prettyMembers (blank : IsBlank margin.toList) (closed : skipSpace closing = '\x7d' :: after)
    {m : String × Json} {members : List (String × Json)} (readsBack : ∀ n ∈ m :: members, ReadsBack n.2)
    (enough : (prettyMembers margin "\n" (m :: members)).toList.length < fuel) :
    readMembers? fuel ((prettyMembers margin "\n" (m :: members)).toList ++ closing)
      = some (membersInKeyOrder (m :: members), after) := by
  obtain ⟨fuel, rfl⟩ := Nat.exists_eq_succ_of_ne_zero (Nat.ne_zero_of_lt enough)
  induction members generalizing m fuel with
  | nil =>
    obtain ⟨first, -⟩ := List.forall_mem_cons.1 readsBack
    rw [toList_prettyMembers_cons] at enough ⊢
    simp only [List.length_append, List.length_cons] at enough
    rw [List.append_assoc, readMembers?_append blank.lineStart]
    simp only [prettyMembers, String.toList_empty, List.append_nil, List.append_assoc, List.cons_append]
    refine readMembers?_last m.1 ?_ closed
    rw [readValue?_gap]
    exact first blank (by omega) closing
  | cons next members ih =>
    obtain ⟨first, further⟩ := List.forall_mem_cons.1 readsBack
    rw [toList_prettyMembers_cons, toList_prettyMembers_more] at enough ⊢
    simp only [List.length_append, List.length_cons] at enough
    have lt : (prettyMembers margin "\n" (next :: members)).toList.length < fuel := by omega
    obtain ⟨fuel, rfl⟩ := Nat.exists_eq_succ_of_ne_zero (Nat.ne_zero_of_lt lt)
    rw [List.append_assoc, readMembers?_append blank.lineStart]
    simp only [List.append_assoc, List.cons_append]
    refine readMembers?_more m.1 ?_ (ih further fuel lt)
    rw [readValue?_gap]
    exact first blank (by omega) _

theorem skipSpace_closing (blank : IsBlank margin.toList) {c : Char} (visible : isSpace c = false)
    (rest : List Char) : skipSpace ('\n' :: margin.toList ++ c :: rest) = c :: rest := by
  rw [skipSpace_append blank.lineStart, skipSpace_cons visible]

theorem ReadsBack.arr {items : List Json} (each : ∀ item ∈ items, ReadsBack item)
    (plain : itemsNumberless items = true) : ReadsBack (arr items) := by
  intro margin blank fuel enough rest
  obtain ⟨fuel, rfl⟩ := Nat.exists_eq_succ_of_ne_zero (Nat.ne_zero_of_lt enough)
  cases items with
  | nil =>
    simp [prettyAt, readValue?, inKeyOrder, itemsInKeyOrder, skipSpace_cons, isSpace]
  | cons item items =>
    have text : (prettyAt margin (Json.arr (item :: items))).toList ++ rest
        = '[' :: ((prettyItems (margin ++ "  ") "\n" (item :: items)).toList
          ++ ('\n' :: margin.toList ++ ']' :: rest)) := by
      simp [prettyAt]
    have length := congrArg List.length text
    simp only [List.length_append, List.length_cons] at length
    rw [text, inKeyOrder]
    refine readValue?_bracket (fun cs => ?_)
      (readItems?_prettyItems blank.deeper (skipSpace_closing blank rfl rest) each (by omega))
    obtain ⟨c, cs', printed, visible, further⟩ :=
      exists_cons_prettyAt (margin ++ "  ") (itemsNumberless_iff.1 plain item (.head _))
    rw [toList_prettyItems_cons, printed, List.append_assoc, skipSpace_append blank.deeper.lineStart]
    simp [skipSpace_cons visible, further]

theorem ReadsBack.obj {members : List (String × Json)} (each : ∀ m ∈ members, ReadsBack m.2) :
    ReadsBack (obj members) := by
  intro margin blank fuel enough rest
  obtain ⟨fuel, rfl⟩ := Nat.exists_eq_succ_of_ne_zero (Nat.ne_zero_of_lt enough)
  cases members with
  | nil =>
    simp [prettyAt, readValue?, inKeyOrder, membersInKeyOrder, ofMembers, Keyed.ofList,
      skipSpace_cons, isSpace]
  | cons m members =>
    have text : (prettyAt margin (Json.obj (m :: members))).toList ++ rest
        = '\x7b' :: ((prettyMembers (margin ++ "  ") "\n" (m :: members)).toList
          ++ ('\n' :: margin.toList ++ '\x7d' :: rest)) := by
      simp [prettyAt]
    have length := congrArg List.length text
    simp only [List.length_append, List.length_cons] at length
    rw [text, inKeyOrder]
    refine readValue?_brace (fun cs => ?_)
      (readMembers?_prettyMembers blank.deeper (skipSpace_closing blank rfl rest) each (by omega))
    rw [toList_prettyMembers_cons, List.append_assoc, skipSpace_append blank.deeper.lineStart]
    simp [quote, quoteChars, skipSpace_cons, isSpace]

theorem ReadsBack.ofStep {j : Json} (step : ∀ (margin : String) (fuel : Nat) (rest : List Char),
    readValue? (fuel + 1) ((prettyAt margin j).toList ++ rest) = some (inKeyOrder j, rest)) : ReadsBack j := by
  intro margin _ fuel enough rest
  obtain ⟨fuel, rfl⟩ := Nat.exists_eq_succ_of_ne_zero (Nat.ne_zero_of_lt enough)
  exact step margin fuel rest

theorem readsBack {j : Json} (plain : j.numberless = true) : j.ReadsBack := by
  induction j using induct with
  | null =>
    refine ReadsBack.ofStep fun margin fuel rest => ?_
    simp [prettyAt, readValue?, inKeyOrder, skipSpace_cons, isSpace]
  | bool b =>
    refine ReadsBack.ofStep fun margin fuel rest => ?_
    cases b with
    | false => simp [prettyAt, readValue?, inKeyOrder, skipSpace_cons, isSpace]
    | true => simp [prettyAt, readValue?, inKeyOrder, skipSpace_cons, isSpace]
  | num n => exact absurd plain nofun
  | str s =>
    refine ReadsBack.ofStep fun margin fuel rest => ?_
    rw [prettyAt, inKeyOrder]
    exact readValue?_quote s
  | arr items ih =>
    exact ReadsBack.arr (fun item mem => ih item mem (itemsNumberless_iff.1 plain item mem)) plain
  | obj members ih => exact ReadsBack.obj fun m mem => ih m mem (membersNumberless_iff.1 plain m mem)

theorem read?_pretty {j : Json} (plain : j.numberless = true) {blanks : List Char} (blank : IsBlank blanks) :
    read? (j.pretty.toList ++ blanks) = some j.inKeyOrder := by
  have text : readValue? ((j.pretty.toList ++ blanks).length + 1) (j.pretty.toList ++ blanks)
      = some (j.inKeyOrder, blanks) :=
    readsBack plain (by simp [IsBlank]) (Nat.lt_succ_of_le (List.length_append ▸ Nat.le_add_right _ _)) blanks
  have rest : skipSpace blanks = [] := List.dropWhile_eq_nil_iff.2 blank
  unfold read?
  rw [text]
  simp [rest]

end ReadingBack

end ClassTable.Json
