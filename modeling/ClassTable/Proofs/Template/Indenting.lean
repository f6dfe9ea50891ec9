import ClassTable.Proofs.Template.Writing

/-!
Output as text.  A piece without empty lines is written with the indent in front of each of its lines, so
what a writer gets in pieces is what it would get as one text (`Writer.add`), whatever the pieces are.
Nested parts do not change this as long as a writer that stands at the start of a line also knows that its
next piece is to be indented (`Writer.Settled`).
-/

set_option autoImplicit false

namespace ClassTable.Template

/-- A text with the indent in front of each line that is not empty; `start` says that it begins a line. -/
def indentChars (indent : List Char) : Bool → List Char → List Char
  | _, [] => []
  | start, c :: cs =>
    (if start && !isLineEnd c then indent ++ [c] else [c]) ++ indentChars indent (isLineEnd c) cs

def indented (indent : String) (start : Bool) (text : String) : String :=
  String.ofList (indentChars indent.toList start text.toList)

/-- Whether the text, put behind one of which `start` says this, ends a line. -/
def endsLine (start : Bool) (cs : List Char) : Bool := (cs.getLast?.map isLineEnd).getD start

/-- Holds of texts without carriage returns and empty lines; a line break may come first. -/
def isSmooth : List Char → Bool
  | [] => true
  | c :: cs => c != '\r' && (c != '\n' || !startsLineEnd cs) && isSmooth cs

section Chars

variable {indent xs ys cs : List Char} {start : Bool}

theorem indentChars_nil_indent : indentChars [] start cs = cs := by
  induction cs generalizing start with
  | nil => rfl
  | cons c cs ih => simp [indentChars, ih]

theorem endsLine_append : endsLine start (xs ++ ys) = endsLine (endsLine start xs) ys := by
  unfold endsLine
  rw [List.getLast?_append]
  cases ys.getLast? <;> rfl

theorem endsLine_cons (c : Char) : endsLine start (c :: cs) = endsLine (isLineEnd c) cs :=
  (endsLine_append : endsLine start ([c] ++ cs) = _)

theorem indentChars_append :
    indentChars indent start (xs ++ ys) =
      indentChars indent start xs ++ indentChars indent (endsLine start xs) ys := by
  induction xs generalizing start with
  | nil => rfl
  | cons c xs ih => simp only [List.cons_append, indentChars, ih, endsLine_cons, List.append_assoc]

theorem getLast?_indentChars : (indentChars indent start cs).getLast? = cs.getLast? := by
  induction cs generalizing start with
  | nil => rfl
  | cons c cs ih =>
    have last : (if start && !isLineEnd c then indent ++ [c] else [c]).getLast? = some c := by
      split <;> simp
    rw [indentChars, List.getLast?_append, ih, last, List.getLast?_cons]
    cases cs.getLast? <;> rfl

theorem isEmpty_indentChars : (indentChars indent start cs).isEmpty = cs.isEmpty := by
  cases cs with
  | nil => rfl
  | cons c cs =>
    rw [indentChars]
    split <;> simp

theorem indented_append (indent : String) (start : Bool) (s t : String) :
    indented indent start (s ++ t) = indented indent start s ++ indented indent (endsLine start s.toList) t := by
  simp only [indented, String.toList_append, indentChars_append, String.ofList_append]

theorem isSmooth_cons {c : Char} (h : isSmooth (c :: cs) = true) :
    c ≠ '\r' ∧ (c = '\n' → startsLineEnd cs = false) ∧ isSmooth cs = true := by
  simp only [isSmooth, Bool.and_eq_true, bne_iff_ne, Bool.or_eq_true, Bool.not_eq_true'] at h
  obtain ⟨⟨noReturn, line⟩, rest⟩ := h
  exact ⟨noReturn, fun feed => line.resolve_left fun other => other feed, rest⟩

/-- A piece without empty lines needs the indent in front and behind its line feeds, and nowhere else. -/
theorem indentLines_smooth {c : Char} (smooth : isSmooth (c :: cs) = true) :
    (if start && !isLineEnd c then indent else []) ++ indentLines indent (c :: cs) =
      indentChars indent start (c :: cs) := by
  have first : (if start && !isLineEnd c then indent else []) ++ [c] =
      if start && !isLineEnd c then indent ++ [c] else [c] := by
    split <;> rfl
  induction cs generalizing c start with
  | nil =>
    rw [indentChars, ← first]
    simp [indentLines, indentChars]
  | cons d cs ih =>
    obtain ⟨noReturn, line, rest⟩ := isSmooth_cons smooth
    rw [indentChars, ← first, ← ih rest (by split <;> rfl)]
    by_cases feed : c = '\n'
    · -- A line that is not empty begins here: the indent behind the feed is that of its first character.
      subst feed
      have ended : isLineEnd '\n' = true := rfl
      have text : isLineEnd d = false := line rfl
      simp [indentLines, text, ended]
    · have ended : isLineEnd c = false := by simp [isLineEnd, feed, noReturn]
      simp [indentLines, feed, ended]

end Chars

namespace Writer

def add (indent text : String) (w : Writer) : Writer :=
  { text := w.text ++ indented indent w.indentNext text
    indentNext := endsLine w.indentNext text.toList
    produced := w.produced || !text.toList.isEmpty
    atLineStart := endsLine w.atLineStart text.toList }

/-- Holds of a writer that indents what it puts at the start of a line. -/
def Settled (w : Writer) : Prop := w.atLineStart = true → w.indentNext = true

variable {w : Writer} {indent s t : String} {f : Writer → Writer}

theorem add_empty : w.add indent "" = w := by
  simp [add, indented, indentChars, endsLine]

theorem add_add : (w.add indent s).add indent t = w.add indent (s ++ t) := by
  simp only [add, indented_append, String.toList_append, endsLine_append, String.append_assoc]
  congr 1
  cases s.toList <;> simp

theorem Settled.add (h : w.Settled) : (w.add indent t).Settled := by
  unfold Settled Writer.add endsLine
  cases t.toList.getLast? with
  | none => exact h
  | some c => exact id

/-- A text that may be written in one piece: behind an indent it has no empty lines. -/
def Fits (indent text : String) : Prop := indent = "" ∨ isSmooth text.toList = true

theorem write_eq_add (fits : Fits indent t) : w.write indent t = w.add indent t := by
  unfold write add indented endsLine
  cases cs : t.toList with
  | nil => simp [indentChars]
  | cons c rest =>
    have text : (if w.indentNext && !isLineEnd c then indent else "") ++
        (if indent.isEmpty then t else String.ofList (indentLines indent.toList (c :: rest))) =
        String.ofList (indentChars indent.toList w.indentNext (c :: rest)) := by
      by_cases plain : indent = ""
      · subst plain
        rw [← cs]
        simp [indentChars_nil_indent]
      · have smooth := fits.resolve_left plain
        rw [cs] at smooth
        rw [← indentLines_smooth smooth]
        split <;> simp [plain]
    simp [startsLineEnd, ← text, String.append_assoc, List.getLast?_cons]

theorem leave_add (next : Bool) :
    w.leave ((w.enter next).add indent t) = { w.add indent t with text := w.text ++ indented indent next t } := by
  unfold leave add enter endsLine
  cases last : t.toList.getLast? with
  | none =>
    -- A part that wrote nothing gives the flags back as they were.
    have empty : t.toList = [] := List.getLast?_eq_none_iff.1 last
    simp [empty]
  | some c =>
    have nonempty : t.toList ≠ [] := fun empty => by simp [empty] at last
    simp [nonempty]

theorem nested_eq_add {start : Writer → Bool} (same : start w = w.indentNext)
    (h : f (w.enter w.indentNext) = (w.enter w.indentNext).add indent t) : nested start f w = w.add indent t := by
  unfold nested
  rw [same, h, leave_add]
  rfl

theorem startsBlock_eq (settled : w.Settled) (alone : Bool) : startsBlock alone w = w.indentNext := by
  unfold startsBlock
  cases next : w.indentNext with
  | true => rfl
  | false =>
    have midLine : w.atLineStart = false := Bool.eq_false_iff.2 fun h => by simp [settled h] at next
    simp [midLine]

theorem startsEmbed_eq (settled : w.Settled) : startsEmbed true "" w = w.indentNext := by
  rw [← startsBlock_eq settled true]
  have plain : "".isEmpty = true := rfl
  simp [startsEmbed, startsBlock, plain]

theorem Settled.enter (h : w.Settled) : (w.enter w.indentNext).Settled := h

/-- Holds of a relation between texts and writing that is put together part by part. -/
structure Composes (R : String → (Writer → Writer) → Prop) : Prop where
  nil : R "" (inOrder [])
  cons : ∀ {s t : String} {f : Writer → Writer} {fs : List (Writer → Writer)},
    R s f → R t (inOrder fs) → R (s ++ t) (inOrder (f :: fs))

namespace Composes

variable {R : String → (Writer → Writer) → Prop} {α : Type} {text : α → String} {between : String} {xs : List α}

theorem map (h : Composes R) {write : α → Writer → Writer} (each : ∀ x ∈ xs, R (text x) (write x)) :
    R (String.join (xs.map text)) (inOrder (xs.map write)) := by
  induction xs with
  | nil => exact h.nil
  | cons x xs ih =>
    obtain ⟨first, rest⟩ := List.forall_mem_cons.1 each
    rw [List.map_cons, String.join_cons]
    exact h.cons first (ih rest)

theorem separated (h : Composes R) {write : Nat → α → Writer → Writer}
    (each : ∀ i x, xs[i]? = some x → R (text x ++ if i + 1 = xs.length then "" else between) (write i x)) :
    R (String.intercalate between (xs.map text)) (inOrder (xs.mapIdx write)) := by
  induction xs generalizing write with
  | nil => exact h.nil
  | cons x xs ih =>
    rw [List.mapIdx_cons]
    have first := each 0 x rfl
    have rest : R _ (inOrder (xs.mapIdx fun i => write (i + 1))) := ih fun i y found => by
      simpa using each (i + 1) y found
    have same : (text x ++ if 0 + 1 = (x :: xs).length then "" else between) ++
        String.intercalate between (xs.map text) = String.intercalate between ((x :: xs).map text) := by
      cases xs with
      | nil => simp
      | cons y ys => simp [String.intercalate_cons_cons, String.append_assoc]
    exact same ▸ h.cons first rest

end Composes

def Adds (indent text : String) (f : Writer → Writer) : Prop := ∀ w, w.Settled → f w = w.add indent text

section Adds

variable {fs : List (Writer → Writer)} {condition : Bool}

theorem Adds.of_eq (h : Adds indent s f) (same : s = t) : Adds indent t f := same ▸ h

theorem adds_piece (fits : Fits indent t) : Adds indent t (piece indent t) := fun _ _ => write_eq_add fits

theorem adds_id : Adds indent "" id := fun _ _ => add_empty.symm

theorem adds_nil : Adds indent "" (inOrder []) := adds_id

theorem adds_cons (first : Adds indent s f) (rest : Adds indent t (inOrder fs)) :
    Adds indent (s ++ t) (inOrder (f :: fs)) := by
  intro w settled
  change inOrder fs (f w) = _
  rw [first w settled, rest _ settled.add, add_add]

theorem adds_text (fits : Fits indent t) : Adds indent t (inOrder [piece indent t]) :=
  (adds_cons (adds_piece fits) adds_nil).of_eq String.append_empty

theorem adds_textThen {u : String} (text : Fits indent s) (value : Fits indent t)
    (rest : Adds indent u (inOrder fs)) :
    Adds indent (s ++ (t ++ u)) (inOrder (piece indent s :: piece indent t :: fs)) :=
  adds_cons (adds_piece text) (adds_cons (adds_piece value) rest)

theorem composes_adds (indent : String) : Composes (Adds indent) := ⟨adds_nil, adds_cons⟩

theorem adds_map {α : Type} {text : α → String} {write : α → Writer → Writer} {xs : List α}
    (each : ∀ x ∈ xs, Adds indent (text x) (write x)) :
    Adds indent (String.join (xs.map text)) (inOrder (xs.map write)) :=
  (composes_adds indent).map each

theorem adds_separated {α : Type} {text : α → String} {between : String} {write : Nat → α → Writer → Writer}
    {xs : List α}
    (each : ∀ i x, xs[i]? = some x →
      Adds indent (text x ++ if i + 1 = xs.length then "" else between) (write i x)) :
    Adds indent (String.intercalate between (xs.map text)) (inOrder (xs.mapIdx write)) :=
  (composes_adds indent).separated each

theorem adds_block (alone : Bool) (h : Adds indent t f) : Adds indent t (nested (startsBlock alone) f) :=
  fun _ settled => nested_eq_add (startsBlock_eq settled alone) (h _ settled.enter)

theorem adds_nested (h : Adds indent t f) : Adds indent t (nested (·.indentNext) f) :=
  fun _ settled => nested_eq_add rfl (h _ settled.enter)

theorem adds_embed (h : Adds indent t f) : Adds indent t (nested (startsEmbed true "") f) :=
  fun _ settled => nested_eq_add (startsEmbed_eq settled) (h _ settled.enter)

end Adds

theorem adds_embed_indented (blanks : indent ≠ "") (h : Adds indent t f) :
    Adds "" (indented indent true t) (nested (startsEmbed true indent) f) := by
  intro w _
  have start : startsEmbed true indent w = true := by simp [startsEmbed, blanks]
  have settled : (w.enter true).Settled := fun _ => rfl
  have plain : indented "" w.indentNext (indented indent true t) = indented indent true t := by
    simp [indented, indentChars_nil_indent]
  have last : ∀ b, endsLine b (indented indent true t).toList = endsLine b t.toList := fun b => by
    simp [endsLine, indented, getLast?_indentChars]
  have isEmpty : (indented indent true t).toList.isEmpty = t.toList.isEmpty := by
    simp [indented, isEmpty_indentChars]
  unfold nested
  rw [start, h _ settled, leave_add]
  simp only [add, plain, last, isEmpty]

end Writer

end ClassTable.Template
