import ClassTable.Proofs.SettingPrecedence
import Mathlib.Data.List.TakeWhile

set_option autoImplicit false

namespace ClassTable.Environment

def IsNumber (cs : List Char) : Prop :=
  (∃ n, Text.natUpTo? maxNumber cs = some n) ∨ (∃ n, negative? cs = some n) ∨
    ('.' ∈ cs ∧ ∃ x, Decimal.float? cs = some x)

/-- Holds of texts of variables that stand for values of another type. -/
inductive Typed (v : String) : Prop
  | flag (word : v = "true" ∨ v = "false")
  | number (read : IsNumber v.toList)
  | list (inner : List Char) (items : List Setting) (rest : List Char) (starts : v.toList = '[' :: inner)
      (read : readItems? (2 * v.length + 1) inner = some (items, rest)) (ends : skipBlanks rest = [])
  | table (inner : List Char) (members : List (String × Setting)) (rest : List Char)
      (starts : v.toList = '\x7b' :: inner) (read : readMembers? (2 * v.length + 1) inner = some (members, rest))
      (ends : skipBlanks rest = [])

section Numbers

variable {cs rest : List Char} {c : Char} {negative : Bool}

def isNumeric (c : Char) : Bool := c.isDigit || c ∈ ['+', '-', '.', 'e', 'E']

theorem not_isSeparator_of_isNumeric (numeric : isNumeric c = true) : (!isSeparator c) = true := by
  have apart : c ∉ [',', '\x7b', '\x7d', '[', ']'] := by
    intro mem
    simp only [List.mem_cons, List.not_mem_nil, or_false] at mem
    rcases mem with rfl | rfl | rfl | rfl | rfl <;> exact absurd numeric (by decide)
  simpa [isSeparator] using apart

theorem isNumeric_of_isDigit (digit : c.isDigit = true) : isNumeric c = true := by
  simp [isNumeric, digit]

theorem isNumeric_of_natOfDigits? {n : Nat} (read : Text.natOfDigits? cs = some n) :
    cs.all isNumeric = true := by
  unfold Text.natOfDigits? at read
  split at read
  · next digits =>
    have all : cs.all Char.isDigit = true := (Bool.and_eq_true_iff.1 digits).2
    exact List.all_eq_true.2 fun c mem => isNumeric_of_isDigit (List.all_eq_true.1 all c mem)
  · exact absurd read nofun

theorem isNumeric_of_natUpTo? {bound n : Nat} (read : Text.natUpTo? bound cs = some n) :
    cs.all isNumeric = true := by
  unfold Text.natUpTo? at read
  obtain ⟨digits, -⟩ := Option.filter_eq_some_iff.1 read
  split at digits
  · rw [List.all_cons, isNumeric_of_natOfDigits? digits]
    rfl
  · exact isNumeric_of_natOfDigits? digits

theorem isNumeric_of_negative? {n : Int} (read : negative? cs = some n) : cs.all isNumeric = true := by
  unfold negative? at read
  split at read
  · obtain ⟨m, digits, -⟩ := Option.bind_eq_some_iff.1 read
    rw [List.all_cons, isNumeric_of_natOfDigits? digits]
    rfl
  · exact absurd read nofun

theorem splitSign_append (cs : List Char) :
    ∃ sign : List Char, cs = sign ++ (Decimal.splitSign cs).2 ∧ sign.all isNumeric = true ∧ '.' ∉ sign := by
  unfold Decimal.splitSign
  split
  · exact ⟨['-'], rfl, rfl, by decide⟩
  · exact ⟨['+'], rfl, rfl, by decide⟩
  · exact ⟨[], rfl, rfl, by decide⟩

theorem isNumeric_of_exponentOf? {n : Int} (read : Decimal.exponentOf? cs = some n) :
    cs.all isNumeric = true := by
  unfold Decimal.exponentOf? at read
  split at read
  · rfl
  · next e rest =>
    split at read
    · next mark =>
      obtain ⟨m, coerced, -⟩ := Option.map_eq_some_iff.1 read
      obtain ⟨k, digits, -⟩ := Option.bind_eq_some_iff.1 coerced
      have digits : Text.natOfDigits? (Decimal.splitSign rest).2 = some k := digits
      obtain ⟨sign, split, numeric, -⟩ := splitSign_append rest
      have here : isNumeric e = true := by
        rcases mark with rfl | rfl <;> rfl
      rw [List.all_cons, here, split, List.all_append, numeric, isNumeric_of_natOfDigits? digits]
      rfl
    · exact absurd read nofun

theorem isNumeric_of_fractionOf? {x : Float} (read : Decimal.fractionOf? negative cs = some x) :
    cs.all isNumeric = true := by
  have digital (cs : List Char) : (cs.takeWhile Char.isDigit).all isNumeric = true :=
    List.all_eq_true.2 fun c mem => isNumeric_of_isDigit (List.mem_takeWhile_imp mem)
  have whole (cs : List Char) : cs = cs.takeWhile Char.isDigit ++ cs.drop (cs.takeWhile Char.isDigit).length :=
    (List.prefix_iff_eq_append.1 (List.takeWhile_prefix _)).symm
  unfold Decimal.fractionOf? at read
  rw [whole cs, List.all_append, digital, Bool.true_and]
  dsimp only at read
  split at read
  · next more behind =>
    obtain ⟨-, -, read⟩ := Option.bind_eq_some_iff.1 read
    obtain ⟨n, exponent, -⟩ := Option.bind_eq_some_iff.1 read
    have split : more = more.takeWhile Char.isDigit ++ more.dropWhile Char.isDigit :=
      List.takeWhile_append_dropWhile.symm
    rw [behind, List.all_cons, split, List.all_append, digital, isNumeric_of_exponentOf? exponent]
    rfl
  · obtain ⟨-, -, read⟩ := Option.bind_eq_some_iff.1 read
    obtain ⟨n, exponent, -⟩ := Option.bind_eq_some_iff.1 read
    exact isNumeric_of_exponentOf? exponent

theorem noDot_of_wordOf? {x : Float} (read : Decimal.wordOf? cs = some x) : '.' ∉ cs := by
  have lowered (word : String) (same : String.ofList (cs.map Char.toLower) = word)
      (plain : '.' ∉ word.toList) : '.' ∉ cs := by
    intro mem
    apply plain
    rw [← same, String.toList_ofList]
    exact List.mem_map.2 ⟨'.', mem, rfl⟩
  unfold Decimal.wordOf? at read
  split at read
  · next same => exact lowered _ same (by decide +kernel)
  · next same => exact lowered _ same (by decide +kernel)
  · next same => exact lowered _ same (by decide +kernel)
  · exact absurd read nofun

theorem isNumeric_of_isNumber (number : IsNumber cs) : cs.all isNumeric = true := by
  rcases number with ⟨n, read⟩ | ⟨n, read⟩ | ⟨dot, x, read⟩
  · exact isNumeric_of_natUpTo? read
  · exact isNumeric_of_negative? read
  · obtain ⟨sign, split, numeric, noDot⟩ := splitSign_append cs
    unfold Decimal.float? at read
    dsimp only at read
    split at read
    · next word =>
      have inside : '.' ∈ (Decimal.splitSign cs).2 := by
        rw [split] at dot
        exact (List.mem_append.1 dot).resolve_left noDot
      exact absurd inside (noDot_of_wordOf? word)
    · rw [split, List.all_append, numeric, isNumeric_of_fractionOf? read]
      rfl

end Numbers

section Values

variable {v : String} {cs rest : List Char} {fuel : Nat}

theorem isBlank_of_isBlank {c : Char} (blank : isBlank c = true) : Text.isBlank c = true := by
  simp only [isBlank, Bool.or_eq_true, decide_eq_true_eq] at blank
  rcases blank with rfl | rfl <;> decide

theorem eq_nil_of_skipBlanks (trimmed : Text.trimChars cs = cs) (behind : rest <:+ cs)
    (blank : skipBlanks rest = []) :
    rest = [] := by
  rcases List.eq_nil_or_concat rest with none | ⟨init, c, rfl⟩
  · exact none
  · obtain ⟨front, split⟩ := behind
    have last : (Text.trimChars cs).getLast? = some c := by
      rw [trimmed, ← split]
      simp
    have all : isBlank c = true := List.dropWhile_eq_nil_iff.1 blank c (by simp)
    have kept := Text.not_isBlank_of_getLast? last
    rw [isBlank_of_isBlank all] at kept
    exact absurd kept nofun

theorem skipBlanks_eq_self (trimmed : Text.trimChars cs = cs) : skipBlanks cs = cs := by
  cases cs with
  | nil => rfl
  | cons c cs =>
    have kept : Text.isBlank c = false := Text.not_isBlank_of_head? (by rw [trimmed]; rfl)
    have here : isBlank c = false := by
      by_contra blank
      rw [isBlank_of_isBlank (by simpa using blank)] at kept
      exact absurd kept nofun
    unfold skipBlanks
    rw [List.dropWhile_cons_of_neg (by simp [here])]

theorem plainValue_of_isNumber (number : IsNumber cs) : (plainValue cs).asText? = none := by
  unfold plainValue
  split
  · rfl
  · next notDecimal =>
    split
    · rfl
    · rfl
    · next unsigned signed =>
      rcases number with ⟨n, read⟩ | ⟨n, read⟩ | ⟨dot, x, read⟩
      · exact absurd (unsigned.symm.trans read) nofun
      · exact absurd (signed.symm.trans read) nofun
      · rw [if_pos (by simpa using dot), read] at notDecimal
        exact absurd notDecimal nofun

theorem plainValue_of_not_isNumber (text : ¬IsNumber cs) : plainValue cs = .text (String.ofList cs) := by
  unfold plainValue
  split
  · next x read =>
    split at read
    · next dot => exact absurd (.inr (.inr ⟨by simpa using dot, x, read⟩)) text
    · exact absurd read nofun
  · split
    · next read => exact absurd (.inl ⟨_, read⟩) text
    · next read => exact absurd (.inr (.inl ⟨_, read⟩)) text
    · rfl

theorem valueOf_eq (v : String) :
    valueOf v = match readValue? (2 * v.length + 2) v.toList with
      | some (value, []) => value
      | _ => .text v := rfl

theorem afterWord?_eq_some {word : String} (found : afterWord? word cs = some rest) :
    cs = word.toList ++ rest := by
  unfold afterWord? at found
  split at found
  · next front =>
    obtain ⟨behind, split⟩ := List.isPrefixOf_iff_prefix.1 front
    obtain rfl := Option.some.inj found
    rw [← split, ← String.length_toList, List.drop_left]
  · exact absurd found nofun

theorem readValue?_cases (fuel : Nat) (trimmed : Text.trimChars cs = cs) (noDouble : '"' ∉ cs)
    (noSingle : '\'' ∉ cs) :
    (∃ (b : Bool) (word : String) (rest : List Char), (word = "true" ∨ word = "false") ∧ cs = word.toList ++ rest ∧
      readValue? (fuel + 1) cs = some (.flag b, skipBlanks rest)) ∨
    (∃ inner, cs = '\x7b' :: inner ∧ readValue? (fuel + 1) cs =
      (readMembers? fuel inner).map fun read => (.table (Keyed.ofList read.1), skipBlanks read.2)) ∨
    (∃ inner, cs = '[' :: inner ∧ readValue? (fuel + 1) cs =
      (readItems? fuel inner).map fun read => (.list read.1, skipBlanks read.2)) ∨
    (afterWord? "true" cs = none ∧ afterWord? "false" cs = none ∧ (∀ c ∈ cs.head?, c ≠ '\x7b' ∧ c ≠ '[') ∧
      readValue? (fuel + 1) cs = some (plainValue (Text.trimChars (cs.takeWhile (!isSeparator ·))),
        skipBlanks (cs.drop (cs.takeWhile (!isSeparator ·)).length))) := by
  have whole := skipBlanks_eq_self trimmed
  rw [readValue?, whole]
  cases isTrue : afterWord? "true" cs with
  | some rest => exact .inl ⟨true, "true", rest, .inl rfl, afterWord?_eq_some isTrue, rfl⟩
  | none =>
    cases isFalse : afterWord? "false" cs with
    | some rest => exact .inl ⟨false, "false", rest, .inr rfl, afterWord?_eq_some isFalse, rfl⟩
    | none =>
      dsimp only
      split
      · next inner =>
        refine .inr (.inl ⟨inner, rfl, ?_⟩)
        cases readMembers? fuel inner <;> rfl
      · next inner =>
        refine .inr (.inr (.inl ⟨inner, rfl, ?_⟩))
        cases readItems? fuel inner <;> rfl
      · exact absurd (.head _) noDouble
      · exact absurd (.head _) noSingle
      · exact absurd (.head _) noSingle
      · next noBrace noBracket _ _ _ =>
        refine .inr (.inr (.inr ⟨rfl, rfl, ?_, rfl⟩))
        rintro c first
        cases cs with
        | nil => exact absurd first nofun
        | cons d cs =>
          obtain rfl : d = c := Option.some.inj first
          exact ⟨fun same => noBrace cs (same ▸ rfl), fun same => noBracket cs (same ▸ rfl)⟩

theorem valueOf_of_read {value : Setting} (read : readValue? (2 * v.length + 2) v.toList = some (value, [])) :
    valueOf v = value := by
  rw [valueOf_eq, read]

theorem valueOf_of_rest {value : Setting} (some : rest ≠ [])
    (read : readValue? (2 * v.length + 2) v.toList = .some (value, rest)) : valueOf v = .text v := by
  rw [valueOf_eq, read]
  cases rest with
  | nil => exact absurd rfl some
  | cons c rest => rfl

theorem not_isNumber_of_starts {c : Char} (starts : cs = c :: rest) (other : isNumeric c = false) :
    ¬IsNumber cs := by
  intro number
  have numeric := isNumeric_of_isNumber number
  rw [starts, List.all_cons, other] at numeric
  exact absurd numeric nofun

theorem not_typed_of_starts {c : Char} (starts : v.toList = c :: rest) (other : isNumeric c = false)
    (opens : c ≠ '[' ∧ c ≠ '\x7b') (noWord : ¬(v = "true" ∨ v = "false")) : ¬Typed v := by
  intro typed
  cases typed with
  | flag word => exact noWord word
  | number number => exact not_isNumber_of_starts starts other number
  | list _ _ _ bracket => exact opens.1 (List.cons.inj (starts.symm.trans bracket)).1
  | table _ _ _ brace => exact opens.2 (List.cons.inj (starts.symm.trans brace)).1

theorem not_typed_of_word {word : String} (known : word = "true" ∨ word = "false") (some : rest ≠ [])
    (starts : v.toList = word.toList ++ rest) : ¬Typed v := by
  have longer : ¬(v = "true" ∨ v = "false") := by
    have different : "true".toList ≠ "false".toList ++ rest ∧ "false".toList ≠ "true".toList ++ rest := by
      constructor <;> (rw [String.toList_ofList, String.toList_ofList]; simp)
    rintro (rfl | rfl) <;> rcases known with rfl | rfl
    · exact some (List.self_eq_append_right.1 starts)
    · exact different.1 starts
    · exact different.2 starts
    · exact some (List.self_eq_append_right.1 starts)
  rcases known with rfl | rfl
  · exact not_typed_of_starts (c := 't') starts (by decide) (by decide) longer
  · exact not_typed_of_starts (c := 'f') starts (by decide) (by decide) longer

theorem ne_word_of_starts {c : Char} (starts : v.toList = c :: rest) (other : c ≠ 't' ∧ c ≠ 'f') :
    ¬(v = "true" ∨ v = "false") := by
  rintro (rfl | rfl)
  · rw [String.toList_ofList] at starts
    exact other.1 (List.cons.inj starts).1.symm
  · rw [String.toList_ofList] at starts
    exact other.2 (List.cons.inj starts).1.symm

theorem not_typed_of_brace {inner : List Char} (starts : v.toList = '\x7b' :: inner)
    (unread : ∀ members rest, readMembers? (2 * v.length + 1) inner = some (members, rest) → skipBlanks rest ≠ []) :
    ¬Typed v := by
  intro typed
  cases typed with
  | flag word => exact ne_word_of_starts starts (by decide) word
  | number number => exact not_isNumber_of_starts starts (by decide) number
  | list _ _ _ bracket => exact absurd (List.cons.inj (starts.symm.trans bracket)).1 (by decide)
  | table _ members rest brace read ends =>
    obtain ⟨-, rfl⟩ := List.cons.inj (starts.symm.trans brace)
    exact unread members rest read ends

theorem not_typed_of_bracket {inner : List Char} (starts : v.toList = '[' :: inner)
    (unread : ∀ items rest, readItems? (2 * v.length + 1) inner = some (items, rest) → skipBlanks rest ≠ []) :
    ¬Typed v := by
  intro typed
  cases typed with
  | flag word => exact ne_word_of_starts starts (by decide) word
  | number number => exact not_isNumber_of_starts starts (by decide) number
  | list _ items rest bracket read ends =>
    obtain ⟨-, rfl⟩ := List.cons.inj (starts.symm.trans bracket)
    exact unread items rest read ends
  | table _ _ _ brace => exact absurd (List.cons.inj (starts.symm.trans brace)).1 (by decide)

theorem not_typed_of_plain (noTrue : afterWord? "true" v.toList = none)
    (noFalse : afterWord? "false" v.toList = none)
    (opens : ∀ c ∈ v.toList.head?, c ≠ '\x7b' ∧ c ≠ '[') (text : ¬IsNumber v.toList) : ¬Typed v := by
  intro typed
  cases typed with
  | flag word =>
    rcases word with rfl | rfl
    · exact absurd noTrue (by decide +kernel)
    · exact absurd noFalse (by decide +kernel)
  | number number => exact text number
  | list _ _ _ bracket => exact (opens '[' (by rw [bracket]; rfl)).2 rfl
  | table _ _ _ brace => exact (opens '\x7b' (by rw [brace]; rfl)).1 rfl

theorem valueOf_of_map {α : Type} {inner? : Option (α × List Char)} (make : α → Setting)
    (read : readValue? (2 * v.length + 2) v.toList = inner?.map fun found => (make found.1, skipBlanks found.2))
    (noText : ∀ x, (make x).asText? = none) :
    (∃ x rest, inner? = some (x, rest) ∧ skipBlanks rest = [] ∧ (valueOf v).asText? = none) ∨
      ((∀ x rest, inner? = some (x, rest) → skipBlanks rest ≠ []) ∧ valueOf v = .text v) := by
  cases inner? with
  | none => exact .inr ⟨nofun, by rw [valueOf_eq, read]; rfl⟩
  | some found =>
    obtain ⟨x, rest⟩ := found
    have read : readValue? (2 * v.length + 2) v.toList = some (make x, skipBlanks rest) := read
    by_cases closed : skipBlanks rest = []
    · rw [closed] at read
      refine .inl ⟨x, rest, rfl, closed, ?_⟩
      rw [valueOf_of_read read]
      exact noText x
    · refine .inr ⟨?_, valueOf_of_rest closed read⟩
      rintro x' rest' ⟨⟩
      exact closed

/-- A text without quotes is typed, and its value is no text, or it is its own value. -/
theorem valueOf_cases (trimmed : Text.trim v = v) (noDouble : '"' ∉ v.toList) (noSingle : '\'' ∉ v.toList) :
    (Typed v ∧ (valueOf v).asText? = none) ∨ (¬Typed v ∧ valueOf v = .text v) := by
  have trimmed : Text.trimChars v.toList = v.toList := by
    have same := congrArg String.toList trimmed
    rwa [Text.trim, String.toList_ofList] at same
  rcases readValue?_cases (2 * v.length + 1) trimmed noDouble noSingle with
    ⟨b, word, rest, known, starts, read⟩ | ⟨inner, starts, read⟩ | ⟨inner, starts, read⟩ |
    ⟨noTrue, noFalse, opens, read⟩
  · by_cases all : rest = []
    · subst all
      rw [List.append_nil] at starts
      obtain rfl := String.toList_inj.1 starts
      refine .inl ⟨.flag known, ?_⟩
      rw [valueOf_of_read read]
      rfl
    · have more : skipBlanks rest ≠ [] := fun blank =>
        all (eq_nil_of_skipBlanks trimmed (starts ▸ List.suffix_append _ _) blank)
      exact .inr ⟨not_typed_of_word known all starts, valueOf_of_rest more read⟩
  · rcases valueOf_of_map (fun members => .table (Keyed.ofList members)) read fun _ => rfl with
      ⟨members, rest, found, closed, value⟩ | ⟨unread, value⟩
    · exact .inl ⟨.table inner members rest starts found closed, value⟩
    · exact .inr ⟨not_typed_of_brace starts unread, value⟩
  · rcases valueOf_of_map .list read fun _ => rfl with ⟨items, rest, found, closed, value⟩ | ⟨unread, value⟩
    · exact .inl ⟨.list inner items rest starts found closed, value⟩
    · exact .inr ⟨not_typed_of_bracket starts unread, value⟩
  · by_cases plain : v.toList.all (!isSeparator ·) = true
    · have all : v.toList.takeWhile (!isSeparator ·) = v.toList :=
        List.takeWhile_eq_self_iff.2 (List.all_eq_true.1 plain)
      rw [all, List.drop_length, trimmed] at read
      have value := valueOf_of_read read
      by_cases number : IsNumber v.toList
      · refine .inl ⟨.number number, ?_⟩
        rw [value]
        exact plainValue_of_isNumber number
      · refine .inr ⟨not_typed_of_plain noTrue noFalse opens number, ?_⟩
        rw [value, plainValue_of_not_isNumber number, String.ofList_toList]
    · have noNumber : ¬IsNumber v.toList := by
        intro number
        apply plain
        have numeric := List.all_eq_true.1 (isNumeric_of_isNumber number)
        exact List.all_eq_true.2 fun c mem => not_isSeparator_of_isNumeric (numeric c mem)
      refine .inr ⟨not_typed_of_plain noTrue noFalse opens noNumber, valueOf_of_rest ?_ read⟩
      intro blank
      have none := eq_nil_of_skipBlanks trimmed (List.drop_suffix _ _) blank
      have whole := (List.takeWhile_prefix (!isSeparator ·)).eq_of_length_le (List.drop_eq_nil_iff.1 none)
      exact plain (List.all_eq_true.2 (List.takeWhile_eq_self_iff.1 whole))

end Values

end ClassTable.Environment

namespace ClassTable.Settings

open Setting

/-- The leaves that hold texts of any kind. -/
inductive TextLeaf where
  | package
  | project
  | extension
  | creator
  | version
  | column (c : Column)

namespace TextLeaf

def leaf : TextLeaf → Leaf
  | package => .package
  | project => .project
  | extension => .extension
  | creator => .creator
  | version => .version
  | column c => .column c

def set : TextLeaf → String → Settings → Settings
  | package, v => Leaf.package.set v
  | project, v => Leaf.project.set v
  | extension, v => Leaf.extension.set v
  | creator, v => Leaf.creator.set v
  | version, v => Leaf.version.set v
  | column c, v => (Leaf.column c).set v

def environmentName (t : TextLeaf) : String :=
  Environment.mark ++ t.leaf.group.name.toUpper ++ "__" ++ t.leaf.key.toUpper

variable {t : TextLeaf} {v : String} {s : Settings} {today : Date} {disk : Disk} {path : String}

theorem comparedName_environmentName (t : TextLeaf) :
    comparedName t.environmentName = variableName t.leaf.group.name.toList t.leaf.key.toList := by
  cases t with
  | column c => cases c <;> decide +kernel
  | _ => decide +kernel

theorem wellNamed_single (t : TextLeaf) (v : String) : WellNamed [(t.environmentName, v)] :=
  wellNamed_of_called (List.forall_mem_singleton.2 (.inl ⟨t.leaf, t.comparedName_environmentName⟩))
    (List.nodup_singleton _)

theorem inEnvironment?_single (t : TextLeaf) (v : String) (l : Leaf) :
    inEnvironment? [(t.environmentName, v)] l =
      if l = t.leaf then some (Environment.valueOf (Text.trim v)) else none := by
  by_cases same : l = t.leaf
  · subst same
    have mem : (t.environmentName, v) ∈ [(t.environmentName, v)] := .head _
    rw [if_pos rfl, inEnvironment?_of_called (t.wellNamed_single v) mem t.comparedName_environmentName]
  · rw [if_neg same]
    refine inEnvironment?_eq_none (List.forall_mem_singleton.2 fun _ => ⟨t.leaf, ?_, t.comparedName_environmentName⟩)
    exact fun other => same other.symm

theorem means_text (t : TextLeaf) (v : String) (s : Settings) :
    t.leaf.Means (.text v) (t.leaf.get (t.set v s)) := by
  cases t with
  | column c =>
    have value : (Leaf.column c).get ((Leaf.column c).set v s) = v := Leaf.get_set (.column c) v s
    exact value.symm ▸ IsText.text v
  | _ => exact .text v

theorem not_means_of_no_text {x : Setting} (noText : x.asText? = none) (y : t.leaf.Value) : ¬t.leaf.Means x y := by
  intro means
  have text : ∃ s, x.IsText s := by
    cases t with
    | _ => exact ⟨y, means⟩
  obtain ⟨s, text⟩ := text
  exact absurd (noText.symm.trans (asText?_eq_some_iff.2 text)) nofun

theorem get_set_other (l : Leaf) (other : l ≠ t.leaf) (v : String) (s : Settings) :
    l.get (t.set v s) = l.get s := by
  cases t with
  | _ => exact Leaf.get_set_ne other v s

end TextLeaf

/-- Loaded from the variable of a text leaf alone, settings are the standard ones with its text, unless the text is
typed; then nothing is loaded. -/
theorem load_text (today : Date) {disk : Disk} {path : String} (noFile : fileMembers disk path = .ok [])
    (t : TextLeaf) {v : String} (trimmed : Text.trim v = v) (noDouble : '"' ∉ v.toList) (noSingle : '\'' ∉ v.toList)
    (s : Settings) :
    load today disk [(t.environmentName, v)] path = .ok s ↔
      ¬Environment.Typed v ∧ s = t.set v (standard today) := by
  have found : Found disk path [(t.environmentName, v)] [] :=
    ⟨fileMembers_eq_ok_iff.1 noFile, fun g v none => absurd none nofun, t.wellNamed_single v⟩
  have given (l : Leaf) : given? [] [(t.environmentName, v)] l =
      if l = t.leaf then some (Environment.valueOf v) else none := by
    rw [given?, t.inEnvironment?_single, trimmed]
    split <;> rfl
  rw [load_ok_iff found]
  constructor
  · intro each
    have own := each t.leaf
    rw [given, if_pos rfl] at own
    rcases Environment.valueOf_cases trimmed noDouble noSingle with ⟨-, noText⟩ | ⟨plain, value⟩
    · exact absurd own (TextLeaf.not_means_of_no_text noText _)
    · refine ⟨plain, Leaf.settings_ext fun l => ?_⟩
      by_cases here : l = t.leaf
      · subst here
        rw [value] at own
        have given : t.leaf.Read (some (.text v)) (t.leaf.get (standard today)) (t.leaf.get s) := own
        exact given.unique (t.means_text v (standard today))
      · have read := each l
        rw [given, if_neg here] at read
        exact Eq.trans read (TextLeaf.get_set_other l here v _).symm
  · rintro ⟨plain, rfl⟩ l
    rw [given]
    by_cases here : l = t.leaf
    · subst here
      rw [if_pos rfl]
      rcases Environment.valueOf_cases trimmed noDouble noSingle with ⟨typed, -⟩ | ⟨-, value⟩
      · exact absurd typed plain
      · rw [value]
        exact t.means_text v _
    · rw [if_neg here]
      exact TextLeaf.get_set_other l here v _

theorem load_text_creator :
    load ⟨2024, 5, 17, by decide⟩ ⟨[], []⟩ [("DTOFORGE_PROJECT__CREATOR", "Jane Doe")] "dtoforge.toml" =
      .ok (TextLeaf.creator.set "Jane Doe" (standard ⟨2024, 5, 17, by decide⟩)) := by
  have plain : ¬Environment.Typed "Jane Doe" := by
    have starts : "Jane Doe".toList = 'J' :: "ane Doe".toList := by decide +kernel
    exact Environment.not_typed_of_starts starts (by decide) (by decide)
      (Environment.ne_word_of_starts starts (by decide))
  have noFile : fileMembers ⟨[], []⟩ "dtoforge.toml" = .ok [] := by
    have nowhere : ((⟨[], []⟩ : Disk).searched "dtoforge.toml").findSome? (⟨[], []⟩ : Disk).fileAt? = none := by
      decide +kernel
    unfold fileMembers
    rw [nowhere]
  have name : TextLeaf.creator.environmentName = "DTOFORGE_PROJECT__CREATOR" := by decide +kernel
  rw [← name]
  exact (load_text _ noFile .creator (by decide +kernel) (by decide +kernel) (by decide +kernel) _).2 ⟨plain, rfl⟩

theorem load_version_two :
    load ⟨2024, 5, 17, by decide⟩ ⟨[], []⟩ [("DTOFORGE_PROJECT__VERSION", "2")] "dtoforge.toml" =
      .error (.setting ⟨["project", "version"], .wrongType "unsigned int `2`" "a string"⟩) := by
  decide +kernel

end ClassTable.Settings
