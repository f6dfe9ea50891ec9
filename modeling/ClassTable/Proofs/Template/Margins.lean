import ClassTable.Proofs.Template.Indenting

/-!
Output of any texts behind an indent.  Pieces with empty lines or carriage returns are not indented as one text
would be, yet all that a writer adds to them is the indent, in front of the first character of some lines
(`Shown`).  So each part of a template shows its text, and what follows another part can be told apart from it
(`Shown.split`).
-/

set_option autoImplicit false

namespace ClassTable.Template

/-- Holds of a text with the margin in front of some of its lines; `start` says that it begins a line. -/
inductive Shown (margin : List Char) : Bool → List Char → List Char → Prop
  | nil {start : Bool} : Shown margin start [] []
  | cons {start : Bool} {c : Char} {front cs ds : List Char} (blank : front = [] ∨ start = true ∧ front = margin)
      (rest : Shown margin (isLineEnd c) cs ds) :
      Shown margin start (c :: cs) (front ++ c :: ds)

namespace Shown

variable {margin cs ds xs ys zs : List Char} {start : Bool} {c : Char}

theorem refl (margin : List Char) (start : Bool) (cs : List Char) : Shown margin start cs cs := by
  induction cs generalizing start with
  | nil => exact .nil
  | cons c cs ih => exact .cons (.inl rfl) (ih _)

theorem append {xs' ys' : List Char} (first : Shown margin start xs xs')
    (second : Shown margin (endsLine start xs) ys ys') : Shown margin start (xs ++ ys) (xs' ++ ys') := by
  induction first with
  | nil => exact second
  | @cons start c front cs ds blank _ ih =>
    rw [endsLine_cons] at second
    rw [List.cons_append, List.append_assoc, List.cons_append]
    exact .cons blank (ih second)

theorem split (shown : Shown margin start (xs ++ ys) zs) :
    ∃ xs' ys', zs = xs' ++ ys' ∧ Shown margin start xs xs' ∧ Shown margin (endsLine start xs) ys ys' := by
  induction xs generalizing start zs with
  | nil => exact ⟨[], zs, rfl, .nil, shown⟩
  | cons c xs ih =>
    cases shown with
    | @cons _ _ front _ ds blank rest =>
      obtain ⟨xs', ys', rfl, first, second⟩ := ih rest
      refine ⟨front ++ c :: xs', ys', by simp, .cons blank first, ?_⟩
      rwa [endsLine_cons]

theorem moved {d : Char} (shown : Shown margin false (d :: cs) ds) : Shown margin true (d :: cs) (margin ++ ds) := by
  cases shown with
  | @cons _ _ front _ _ blank rest =>
    rcases blank with rfl | ⟨midLine, -⟩
    · exact .cons (.inr ⟨rfl, rfl⟩) rest
    · exact absurd midLine Bool.false_ne_true

theorem indentLines (margin : List Char) (start : Bool) (cs : List Char) :
    Shown margin start cs (indentLines margin cs) := by
  induction cs generalizing start with
  | nil => exact .nil
  | cons c cs ih =>
    unfold Template.indentLines
    split
    · next feed =>
      obtain ⟨rfl, more⟩ := feed
      obtain ⟨d, rest, rfl⟩ := List.exists_cons_of_ne_nil (by simpa using more : cs ≠ [])
      exact .cons (.inl rfl) (ih false).moved
    · exact .cons (.inl rfl) (ih _)

theorem eq_of_noBreak (noBreak : ∀ c ∈ cs, isLineEnd c = false) (shown : Shown margin false cs ds) : ds = cs := by
  induction cs generalizing ds with
  | nil =>
    cases shown
    rfl
  | cons c cs ih =>
    obtain ⟨first, rest⟩ := List.forall_mem_cons.1 noBreak
    cases shown with
    | cons blank shown =>
      rw [first] at shown
      rcases blank with rfl | ⟨midLine, -⟩
      · rw [ih rest shown, List.nil_append]
      · exact absurd midLine Bool.false_ne_true

theorem exists_front (noBreak : ∀ c ∈ cs, isLineEnd c = false) (shown : Shown margin start cs ds) :
    ∃ front, (front = [] ∨ front = margin) ∧ ds = front ++ cs := by
  cases shown with
  | nil => exact ⟨[], .inl rfl, rfl⟩
  | @cons _ c front cs ds blank rest =>
    obtain ⟨first, more⟩ := List.forall_mem_cons.1 noBreak
    rw [first] at rest
    refine ⟨front, blank.imp_right And.right, ?_⟩
    rw [rest.eq_of_noBreak more]

end Shown

namespace Writer

variable {w : Writer} {indent s t : String} {f : Writer → Writer} {fs : List (Writer → Writer)}

def put (text shown : List Char) (w : Writer) : Writer :=
  { text := w.text ++ String.ofList shown
    indentNext := endsLine w.atLineStart text
    produced := w.produced || !text.isEmpty
    atLineStart := endsLine w.atLineStart text }

/-- Holds of an output that indents what comes exactly where it stands at the start of a line. -/
def Synced (w : Writer) : Prop := w.indentNext = w.atLineStart

theorem Synced.settled (h : w.Synced) : w.Settled := fun ended => h.trans ended

theorem synced_put (text shown : List Char) (w : Writer) : (w.put text shown).Synced := rfl

theorem put_nil (synced : w.Synced) : w.put [] [] = w := by
  cases w with
  | mk text indentNext produced atLineStart =>
    have synced : indentNext = atLineStart := synced
    simp [put, endsLine, synced]

theorem put_put (xs xs' ys ys' : List Char) (w : Writer) :
    (w.put xs xs').put ys ys' = w.put (xs ++ ys) (xs' ++ ys') := by
  simp only [put, String.ofList_append, String.append_assoc, endsLine_append]
  congr 1
  cases xs <;> simp

theorem leave_put (synced : w.Synced) (text shown : List Char) :
    w.leave ((w.enter w.indentNext).put text shown) = w.put text shown := by
  unfold leave put enter
  cases text with
  | nil => simp [endsLine, show w.indentNext = w.atLineStart from synced]
  | cons c cs => simp

/-- Shows a text behind every output that indents where it stands at the start of a line. -/
def Lays (indent text : String) (f : Writer → Writer) : Prop :=
  ∀ w : Writer, w.Synced → ∃ shown, Shown indent.toList w.atLineStart text.toList shown ∧
    f w = w.put text.toList shown

theorem Lays.of_eq (h : Lays indent s f) (same : s = t) : Lays indent t f := same ▸ h

theorem lays_piece : Lays indent t (piece indent t) := by
  intro w synced
  unfold piece write
  cases cs : t.toList with
  | nil => exact ⟨[], .nil, (put_nil synced).symm⟩
  | cons c rest =>
    obtain ⟨body, same, shown⟩ : ∃ body : List Char,
        (if indent.isEmpty then t else String.ofList (indentLines indent.toList (c :: rest))) = String.ofList body ∧
          ∀ start, Shown indent.toList start (c :: rest) body := by
      split
      · exact ⟨c :: rest, by rw [← cs, String.ofList_toList], fun start => .refl _ start _⟩
      · exact ⟨_, rfl, fun start => .indentLines _ start _⟩
    have last : ((c :: rest).getLast?.map isLineEnd).getD false = endsLine w.atLineStart (c :: rest) := by
      simp [endsLine, List.getLast?_cons]
    dsimp only
    rw [if_neg (by simp), same, last]
    split
    · next moved =>
      have start : w.atLineStart = true := synced.symm.trans (Bool.and_eq_true _ _ ▸ moved).1
      refine ⟨indent.toList ++ body, start ▸ (shown false).moved, ?_⟩
      simp [put, String.append_assoc]
    · exact ⟨body, shown _, by simp [put]⟩

theorem lays_id : Lays indent "" id := fun _ synced => ⟨[], .nil, (put_nil synced).symm⟩

theorem lays_nil : Lays indent "" (inOrder []) := lays_id

theorem lays_cons (first : Lays indent s f) (rest : Lays indent t (inOrder fs)) :
    Lays indent (s ++ t) (inOrder (f :: fs)) := by
  intro w synced
  obtain ⟨xs, shown, after⟩ := first w synced
  obtain ⟨ys, shown', after'⟩ := rest _ (synced_put s.toList xs w)
  refine ⟨xs ++ ys, ?_, ?_⟩
  · rw [String.toList_append]
    exact shown.append shown'
  · change inOrder fs (f w) = _
    rw [after, after', put_put, String.toList_append]

theorem lays_text : Lays indent t (inOrder [piece indent t]) :=
  (lays_cons lays_piece lays_nil).of_eq String.append_empty

theorem lays_then (rest : Lays indent t (inOrder fs)) : Lays indent (s ++ t) (inOrder (piece indent s :: fs)) :=
  lays_cons lays_piece rest

theorem lays_onlyWhere {start : Writer → Bool} (same : ∀ w : Writer, w.Synced → start w = w.indentNext)
    (h : Lays indent t f) : Lays indent t (nested start f) := by
  intro w synced
  obtain ⟨shown, blank, after⟩ := h (w.enter w.indentNext) synced
  refine ⟨shown, blank, ?_⟩
  unfold nested
  rw [same w synced, after, leave_put synced]

theorem lays_block (alone : Bool) (h : Lays indent t f) : Lays indent t (nested (startsBlock alone) f) :=
  lays_onlyWhere (fun _ synced => startsBlock_eq synced.settled alone) h

theorem lays_nested (h : Lays indent t f) : Lays indent t (nested (·.indentNext) f) :=
  lays_onlyWhere (fun _ _ => rfl) h

theorem composes_lays (indent : String) : Composes (Lays indent) := ⟨lays_nil, lays_cons⟩

end Writer

end ClassTable.Template
