import ClassTable.Proofs.ClosingMarkers
import ClassTable.Proofs.DateText
import ClassTable.Proofs.MemberBlocks

set_option autoImplicit false

namespace ClassTable

open Template Template.Writer

/-- A comment by what stands between its markers, with the texts that are inserted there. -/
structure Comment where
  body : String
  inserted : List String

inductive Stretch where
  | code (text : String)
  | comment (k : Comment)

namespace Comment

def text (k : Comment) : String := "/*" ++ k.body ++ " */"

/-- Holds when the inserted texts are all that can hold a closing marker. -/
def Fair (k : Comment) : Prop := Closes (k.body ++ " ").toList ↔ ∃ t ∈ k.inserted, Closes t.toList

end Comment

def Stretch.text : Stretch → String
  | code text => text
  | comment k => k.text

@[simp] theorem Stretch.text_code (t : String) : (code t).text = t := rfl

@[simp] theorem Stretch.text_comment (body : String) (inserted : List String) :
    (comment ⟨body, inserted⟩).text = "/*" ++ body ++ " */" := rfl

def Project.copyrightComment (p : Project) : Comment where
  body := "\n * Copyright (c) " ++ toString p.year ++ " " ++ p.creator ++
    ". All rights reserved.\n *\n * Project: " ++ p.project ++ " " ++ p.version ++
    "\n * Generated by dtoforge. Do not edit by hand.\n"
  inserted := [p.creator, p.project, p.version]

namespace FieldDef

def comment (f : FieldDef) : Comment := ⟨"* " ++ f.description, [f.description]⟩

def stretches (f : FieldDef) : List Stretch :=
  (if f.description.isEmpty then [] else [.comment f.comment, .code "\n"]) ++
    [.code (linesText ((if isNonNullType f.dataType then ["@NonNull"] else []) ++
      ["private " ++ f.dataType ++ " " ++ f.name ++
        (if f.initialValue.isEmpty then "" else " = " ++ f.initialValue) ++ ";"]))]

def accessorComment (f : FieldDef) : Comment := ⟨"*\n * @return the " ++ f.name ++ "\n", [f.name]⟩

def accessorStretches (f : FieldDef) : List Stretch :=
  [.comment f.accessorComment,
    .code ("\n" ++ linesText ["public " ++ f.dataType ++ " " ++ Text.getterName f.name ++ "() \x7b",
      "    return " ++ f.name ++ ";", "\x7d"])]

end FieldDef

namespace Constructor

def comment (className : String) (k : Constructor) : Comment where
  body := "*\n" ++ linesText ((k.kind.doc className).map commentLine)
  inserted := if k.kind = .copying then [className] else []

def stretches (className : String) (k : Constructor) : List Stretch :=
  [.comment (k.comment className),
    .code ("\n" ++ linesText (["public " ++ className ++ "(" ++ String.intercalate ", "
        (k.parameters.map fun p => p.dataType ++ " " ++ p.name) ++ ") \x7b"] ++
      (k.assignments.map fun a => "    " ++ ("this." ++ a.member ++ " = " ++ a.value ++ ";")) ++ ["\x7d"]))]

end Constructor

namespace ClassDef

def docComment (p : Project) (c : ClassDef) : Comment where
  body := "*\n" ++ linesText ((Text.lines c.description).map fun line => commentLine (Text.trimEnd line)) ++
    " *\n * @author " ++ p.creator ++ "\n * @version " ++ p.version ++ "\n * @since " ++ p.created.text ++ "\n"
  inserted := [c.description, p.creator, p.version]

def headStretches (p : Project) (c : ClassDef) : List Stretch :=
  [.comment p.copyrightComment,
    .code ("\n" ++ linesText (["package " ++ p.package ++ ";", "", "import lombok.Data;"] ++
      (if c.fields.any (fun f => isNonNullType f.dataType) then ["import lombok.NonNull;"] else []) ++ [""])),
    .comment (c.docComment p),
    .code ("\n" ++ linesText ["@Data", "public class " ++ c.name ++ " \x7b"])]

def stretches (p : Project) (c : ClassDef) : List Stretch :=
  c.headStretches p ++ c.fields.flatMap (fun f => .code "\n" :: f.stretches) ++
    (Constructor.ofClass c).flatMap (fun k => .code "\n" :: k.stretches c.name) ++
    c.fields.flatMap (fun f => .code "\n" :: f.accessorStretches) ++ [.code "\x7d\n"]

end ClassDef

def memberMargin : List Char := "    ".toList

theorem blank_memberMargin : ∀ c ∈ memberMargin, c = ' ' := by simp [memberMargin]

structure Comment.ShownAs (k : Comment) (margin inside shown : String) : Prop where
  whole : shown = margin ++ ("/*" ++ inside ++ "*/")
  margin : margin = "" ∨ margin = String.ofList memberMargin
  body : Shown memberMargin false (k.body ++ " ").toList inside.toList

def Stretch.ShownAs : Stretch → String → Prop
  | code text, shown => ∃ start, Shown memberMargin start text.toList shown.toList
  | comment k, shown => ∃ margin inside, k.ShownAs margin inside shown

/-- Holds of a source that shows stretches one after the other and nothing else. -/
def Shows (source : String) (stretches : List Stretch) : Prop :=
  ∃ shown, List.Forall₂ Stretch.ShownAs stretches shown ∧ source = String.join shown

section Laying

variable {indent className : String}

theorem lays_onlyIf {t : String} {condition : Bool} {f : Writer → Writer}
    (h : condition = true → Lays indent t f) :
    Lays indent (if condition then t else "") (onlyIf condition f) := by
  cases condition with
  | true => exact h rfl
  | false => exact lays_id

theorem lays_commentLine (line : String) :
    Lays indent (linesText [commentLine line]) (writeCommentLine indent line) := by
  unfold writeCommentLine
  refine .of_eq (
    lays_then <|
    lays_cons (lays_block _ <| lays_onlyIf fun _ => lays_then <| lays_text) <|
    lays_text) ?_
  cases empty : line.isEmpty <;> simp [commentLine, empty, String.append_assoc]

theorem join_linesText {α : Type} (text : α → String) (xs : List α) :
    String.join (xs.map fun x => linesText [text x]) = linesText (xs.map text) := by
  simp [linesText, Function.comp_def]

theorem lays_comment (lines : List String) :
    Lays indent (linesText (lines.map commentLine)) (writeComment indent lines) := by
  rw [← join_linesText]
  exact lays_block true ((composes_lays indent).map fun line _ => lays_commentLine line)

theorem lays_field (f : FieldDef) :
    Lays indent (String.join (f.stretches.map Stretch.text)) (writeField indent f) := by
  unfold writeField
  refine .of_eq (
    lays_cons (lays_block _ <| lays_onlyIf fun _ => lays_then <| lays_then lays_text) <|
    lays_cons (lays_block _ <| lays_onlyIf fun _ => lays_text) <|
    lays_then <| lays_then <| lays_then <| lays_then <|
    lays_cons (lays_block _ <| lays_onlyIf fun _ => lays_then lays_text) <|
    lays_text) ?_
  apply String.toList_inj.1
  unfold FieldDef.stretches FieldDef.comment
  cases f.description.isEmpty <;> cases isNonNullType f.dataType <;> cases f.initialValue.isEmpty <;> simp

theorem lays_accessor (f : FieldDef) :
    Lays indent (String.join (f.accessorStretches.map Stretch.text)) (writeAccessor indent f) := by
  unfold writeAccessor
  refine .of_eq (
    lays_then <| lays_then <| lays_then <| lays_then <| lays_then <|
    lays_cons (lays_nested lays_piece) <|
    lays_then <| lays_then lays_text) ?_
  apply String.toList_inj.1
  unfold FieldDef.accessorStretches FieldDef.accessorComment
  simp

theorem lays_parameters (ps : List Parameter) :
    Lays indent (String.intercalate ", " (ps.map fun p => p.dataType ++ " " ++ p.name))
      (inOrder (ps.mapIdx (writeParameter indent ps.length))) := by
  refine (composes_lays indent).separated fun i p _ => ?_
  unfold writeParameter
  refine .of_eq (
    lays_then <| lays_then <| lays_then <|
    lays_cons (lays_block _ <| lays_onlyIf fun _ => lays_text) lays_nil) ?_
  by_cases last : i + 1 = ps.length <;> simp [last, String.append_assoc]

theorem lays_assignments (as : List Assignment) :
    Lays indent (linesText (as.map fun a => "    " ++ ("this." ++ a.member ++ " = " ++ a.value ++ ";")))
      (inOrder (as.map (writeAssignment indent))) := by
  rw [← join_linesText]
  refine (composes_lays indent).map fun a _ => ?_
  unfold writeAssignment
  refine .of_eq (lays_then <| lays_then <| lays_then <| lays_then lays_text) ?_
  apply String.toList_inj.1
  simp

theorem lays_constructor (className : String) (k : Constructor) :
    Lays indent (String.join ((k.stretches className).map Stretch.text)) (writeConstructor indent className k) := by
  unfold writeConstructor
  refine .of_eq (
    lays_then <|
    lays_cons (lays_comment _) <|
    lays_then <| lays_then <| lays_then <|
    lays_cons (lays_block _ <| lays_parameters _) <|
    lays_then <|
    lays_cons (lays_block _ <| lays_assignments _) <|
    lays_text) ?_
  apply String.toList_inj.1
  unfold Constructor.stretches Constructor.comment
  simp

end Laying

section Fairness

theorem closes_commentLine (line : String) : Closes (commentLine line).toList ↔ Closes line.toList := by
  have star : ¬Closes " *".toList := by decide
  have gap : Separates " " := by decide
  unfold commentLine
  rw [String.toList_append]
  split
  · next empty =>
    rw [String.isEmpty_iff.1 empty, String.toList_empty, List.append_nil]
    exact iff_of_false star not_closes_nil
  · rw [String.toList_append, closes_between gap]
    exact or_iff_right star

theorem closes_commentLines {α : Type} (text : α → String) (xs : List α) :
    Closes (linesText (xs.map fun x => commentLine (text x))).toList ↔ ∃ x ∈ xs, Closes (text x).toList := by
  rw [closes_linesText]
  simp [closes_commentLine]

theorem star_not_mem_toString (n : Int) : '*' ∉ (toString n).toList := by
  have digital {m : Nat} : '*' ∉ Nat.toDigits 10 m := fun mem =>
    absurd (Nat.isDigit_of_mem_toDigits (by decide) (by decide) mem) (by decide)
  rw [← text_int, Number.text, String.toList_ofList, Decimal.intChars]
  split
  · exact List.not_mem_cons_of_ne_of_not_mem (by decide) digital
  · exact digital

theorem star_not_mem_date (d : Date) : '*' ∉ d.text.toList := by
  have digital {width m : Nat} : '*' ∉ (Date.padded width m).toList := fun mem =>
    absurd (Date.isDigit_of_mem_padded mem) (by decide)
  unfold Date.text
  simp only [String.toList_append, List.mem_append, not_or]
  refine ⟨⟨⟨⟨?year, by decide⟩, digital⟩, by decide⟩, digital⟩
  split
  · exact digital
  · rw [String.toList_append, List.mem_append, not_or]
    refine ⟨?_, digital⟩
    split <;> decide

theorem fair_copyright (p : Project) : p.copyrightComment.Fair := by
  have year : ¬Closes (toString p.year).toList := not_closes_of_not_mem (star_not_mem_toString p.year)
  have last : ¬Closes " ".toList := by decide
  unfold Comment.Fair Project.copyrightComment
  simp only [String.append_assoc, String.toList_append]
  rw [closes_first (s := "\n * Copyright (c) ") (by decide), closes_between (s := " ") (by decide),
    closes_between (s := ". All rights reserved.\n *\n * Project: ") (by decide),
    closes_between (s := " ") (by decide),
    closes_between (s := "\n * Generated by dtoforge. Do not edit by hand.\n") (by decide)]
  simp only [year, last, List.exists_mem_cons_iff, List.not_mem_nil, false_and, exists_false, false_or, or_false]

theorem fair_doc (p : Project) (c : ClassDef) : (c.docComment p).Fair := by
  have created : ¬Closes p.created.text.toList := not_closes_of_not_mem (star_not_mem_date p.created)
  have last : ¬Closes " ".toList := by decide
  have description : Closes (linesText ((Text.lines c.description).map fun line =>
      commentLine (Text.trimEnd line))).toList ↔ Closes c.description.toList :=
    (closes_commentLines Text.trimEnd _).trans closes_lines
  unfold Comment.Fair ClassDef.docComment
  simp only [String.append_assoc, String.toList_append]
  rw [closes_first (s := "*\n") (by decide), closes_between (s := " *\n * @author ") (by decide),
    closes_between (s := "\n * @version ") (by decide), closes_between (s := "\n * @since ") (by decide),
    closes_between (s := "\n") (by decide), description]
  simp only [created, last, List.exists_mem_cons_iff, List.not_mem_nil, false_and, exists_false, or_false]

theorem fair_field (f : FieldDef) : f.comment.Fair := by
  unfold Comment.Fair FieldDef.comment
  simp only [String.append_assoc, String.toList_append]
  rw [closes_first (s := "* ") (by decide), closes_last (s := " ") (by decide)]
  simp only [List.exists_mem_cons_iff, List.not_mem_nil, false_and, exists_false, or_false]

theorem fair_accessor (f : FieldDef) : f.accessorComment.Fair := by
  have last : ¬Closes " ".toList := by decide
  unfold Comment.Fair FieldDef.accessorComment
  simp only [String.append_assoc, String.toList_append]
  rw [closes_first (s := "*\n * @return the ") (by decide), closes_between (s := "\n") (by decide)]
  simp only [last, List.exists_mem_cons_iff, List.not_mem_nil, false_and, exists_false, or_false]

theorem closes_doc (className : String) (kind : ConstructorKind) :
    (∃ line ∈ kind.doc className, Closes line.toList) ↔ kind = .copying ∧ Closes className.toList := by
  cases kind with
  | default | required =>
    refine iff_of_false ?_ fun copying => nomatch copying.1
    dsimp only [ConstructorKind.doc]
    decide
  | copying =>
    have first : ¬Closes "Copy constructor.".toList := by decide
    have second : ¬Closes "".toList := by decide
    simp only [ConstructorKind.doc, List.exists_mem_cons_iff, first, second, String.append_assoc,
      String.toList_append]
    rw [closes_first (s := "@param ") (by decide), closes_first (s := Constructor.copyArgument) (by decide),
      closes_first (s := " ") (by decide), closes_last (s := " to copy") (by decide)]
    simp

theorem fair_constructor (className : String) (k : Constructor) : (k.comment className).Fair := by
  have doc : Closes (linesText ((k.kind.doc className).map commentLine)).toList ↔
      k.kind = .copying ∧ Closes className.toList :=
    (closes_commentLines id _).trans (closes_doc className k.kind)
  unfold Comment.Fair Constructor.comment
  simp only [String.append_assoc, String.toList_append]
  rw [closes_first (s := "*\n") (by decide), closes_last (s := " ") (by decide), doc]
  by_cases copying : k.kind = .copying <;> simp [copying]

theorem fair_of_mem {p : Project} {c : ClassDef} {k : Comment} (mem : .comment k ∈ c.stretches p) : k.Fair := by
  simp only [ClassDef.stretches, List.mem_append, List.mem_flatMap, List.mem_cons, List.not_mem_nil, or_false,
    reduceCtorEq, false_or] at mem
  rcases mem with ((head | ⟨f, -, field⟩) | ⟨k', -, constructor⟩) | ⟨f, -, accessor⟩
  · simp only [ClassDef.headStretches, List.mem_cons, List.not_mem_nil, or_false, reduceCtorEq, false_or,
      Stretch.comment.injEq] at head
    rcases head with rfl | rfl
    · exact fair_copyright p
    · exact fair_doc p c
  · unfold FieldDef.stretches at field
    split at field
    · simp at field
    · obtain rfl : k = f.comment := by simpa using field
      exact fair_field f
  · obtain rfl : k = k'.comment c.name := by simpa [Constructor.stretches] using constructor
    exact fair_constructor c.name k'
  · obtain rfl : k = f.accessorComment := by simpa [FieldDef.accessorStretches] using accessor
    exact fair_accessor f

end Fairness

section Showing

variable {s t : String} {xs ys : List Stretch} {start : Bool} {zs : List Char} {k : Comment}

theorem Comment.shownAs (shown : Shown memberMargin start k.text.toList zs) :
    ∃ margin inside, k.ShownAs margin inside (String.ofList zs) := by
  have text : k.text.toList = ['/', '*'] ++ ((k.body ++ " ").toList ++ ['*', '/']) := by simp [Comment.text]
  rw [text] at shown
  obtain ⟨opening, rest, rfl, opened, shown⟩ := shown.split
  obtain ⟨inside, closing, rfl, body, closed⟩ := shown.split
  obtain ⟨front, place, rfl⟩ :=
    opened.exists_front (List.forall_mem_cons.2 ⟨rfl, List.forall_mem_singleton.2 rfl⟩)
  have midLine : endsLine false (k.body ++ " ").toList = false := by
    rw [String.toList_append, endsLine_append]
    rfl
  have closed : Shown memberMargin (endsLine false (k.body ++ " ").toList) ['*', '/'] closing := closed
  rw [midLine] at closed
  obtain rfl := closed.eq_of_noBreak (List.forall_mem_cons.2 ⟨rfl, List.forall_mem_singleton.2 rfl⟩)
  refine ⟨String.ofList front, String.ofList inside, ?_, place.imp (congrArg String.ofList)
    (congrArg String.ofList), ?_⟩
  · apply String.toList_inj.1
    simp
  · rw [String.toList_ofList]
    exact body

theorem Stretch.shownAs {x : Stretch} (shown : Shown memberMargin start x.text.toList zs) :
    x.ShownAs (String.ofList zs) := by
  cases x with
  | code text => exact ⟨start, by rwa [String.toList_ofList]⟩
  | comment k => exact Comment.shownAs shown

theorem shows_append (first : Shows s xs) (second : Shows t ys) : Shows (s ++ t) (xs ++ ys) := by
  obtain ⟨shown, each, rfl⟩ := first
  obtain ⟨shown', each', rfl⟩ := second
  exact ⟨shown ++ shown', List.rel_append each each', String.join_append.symm⟩

theorem shows_of_shown (shown : Shown memberMargin start (String.join (xs.map Stretch.text)).toList zs) :
    Shows (String.ofList zs) xs := by
  induction xs generalizing start zs with
  | nil =>
    cases shown
    exact ⟨[], .nil, rfl⟩
  | cons x xs ih =>
    rw [List.map_cons, String.join_cons, String.toList_append] at shown
    obtain ⟨ys, zs, rfl, head, tail⟩ := shown.split
    obtain ⟨texts, each, same⟩ := ih tail
    refine ⟨String.ofList ys :: texts, .cons (Stretch.shownAs head) each, ?_⟩
    rw [String.ofList_append, String.join_cons, same]

theorem shows_text (xs : List Stretch) : Shows (String.join (xs.map Stretch.text)) xs := by
  have shown := shows_of_shown (.refl memberMargin false (String.join (xs.map Stretch.text)).toList)
  rwa [String.ofList_toList] at shown

theorem shows_blocks {α : Type} {stretches : α → List Stretch} {write : String → α → Writer → Writer}
    {members : List α}
    (lays : ∀ x ∈ members, Lays "    " (String.join ((stretches x).map Stretch.text)) (write "    " x)) :
    Shows (blocks write members) (members.flatMap fun x => .code "\n" :: stretches x) := by
  unfold blocks
  induction members with
  | nil => exact ⟨[], .nil, rfl⟩
  | cons x members ih =>
    obtain ⟨first, rest⟩ := List.forall_mem_cons.1 lays
    obtain ⟨shown, laid, written⟩ := first ⟨"", true, false, true⟩ rfl
    have text : block (write · x) = String.ofList shown := by
      rw [block, written]
      exact String.empty_append
    rw [List.map_cons, String.join_cons, List.flatMap_cons, text]
    exact shows_append (shows_append (shows_text [.code "\n"]) (shows_of_shown laid)) (ih rest)

theorem text_headStretches (p : Project) (c : ClassDef) :
    String.join ((c.headStretches p).map Stretch.text) = linesText (c.headLines p) := by
  apply String.toList_inj.1
  unfold ClassDef.headStretches ClassDef.headLines Project.copyrightComment ClassDef.docComment
  cases c.fields.any fun f => isNonNullType f.dataType <;>
    simp [Project.copyrightLines, ClassDef.docLines]

theorem shows_classText (p : Project) (c : ClassDef) : Shows (classText p c) (c.stretches p) := by
  rw [classText_eq_blocks, ← text_headStretches]
  refine shows_append (shows_append (shows_append (shows_append (shows_text _) ?fields) ?constructors)
    ?accessors) (shows_text [.code "\x7d\n"])
  case fields => exact shows_blocks fun f _ => lays_field f
  case constructors => exact shows_blocks fun k _ => lays_constructor c.name k
  case accessors => exact shows_blocks fun f _ => lays_accessor f

theorem Comment.ShownAs.ends_iff {margin inside shown : String} (h : k.ShownAs margin inside shown) (fair : k.Fair) :
    EndsComment inside.toList ↔ ∀ t ∈ k.inserted, ¬Closes t.toList := by
  unfold Comment.Fair at fair
  rw [endsComment_iff, closes_shown_iff blank_memberMargin h.body, fair]
  simp only [not_exists, not_and]

end Showing

/-- Each source of a rendering is the file of a class of the forest and shows its code and its comments in order.  A
comment ends at its own marker exactly when no text that is inserted into it has one: for the copyright the creator,
the project and the version, for the class its description, the creator and the version, for a field its
description, for the copying constructor the name of the class. -/
theorem comments_of_render (p : Project) (policy : CollisionPolicy) {forest : List ClassDef} {sources : Sources}
    (rendered : ((⟨p, .builtin, policy⟩ : Renderer).render forest).result = .ok sources) {name text : String}
    (mem : (name, text) ∈ sources) :
    ∃ c ∈ forestWalk forest, c.name = name ∧ Shows text (c.stretches p) ∧
      ∀ k margin inside shown, .comment k ∈ c.stretches p → k.ShownAs margin inside shown →
        (EndsComment inside.toList ↔ ∀ t ∈ k.inserted, ¬Closes t.toList) := by
  have holds := Renderer.holdsLast_of_render rendered
  obtain ⟨before, c, after, split, named, -, written⟩ :=
    (holds.texts name text).1 (Keyed.get?_of_mem holds.sorted.nodup mem)
  have complete : c.fault? = none := Renderer.complete_of_renderClass written
  have same : (⟨p, .builtin, policy⟩ : Renderer).renderClass c = .ok (classText p c) :=
    renderClass_of_complete p complete
  obtain rfl := Except.ok.inj (same.symm.trans written)
  exact ⟨c, split ▸ List.mem_append_right before (List.mem_cons_self ..), named, shows_classText p c,
    fun k margin inside shown comment shownAs => shownAs.ends_iff (fair_of_mem comment)⟩

theorem render_singleton (p : Project) {c : ClassDef} (complete : c.fault? = none) (leaf : forestWalk [c] = [c]) :
    ((Renderer.standard p).render [c]).result = .ok [(c.name, classText p c)] := by
  have checked : (checkForest .reject [c]).result = .ok () := by
    rw [checkForest, leaf]
    exact checkClasses_reject_iff.2 ⟨List.forall_mem_singleton.2 complete, List.nodup_singleton _, fun _ _ => List.not_mem_nil⟩
  rw [render_standard, checked, leaf]
  rfl

def noteProject : Project := .standard ⟨2024, 5, 17, Eq.refl true⟩

theorem comments_stockItem :
    ∃ text, ((Renderer.standard noteProject).render [stockItem]).result = .ok [("StockItem", text)] ∧
      ∃ c ∈ forestWalk [stockItem], c.name = "StockItem" ∧
        Shows text (c.stretches noteProject) ∧
        ∀ k margin inside shown, .comment k ∈ c.stretches noteProject → k.ShownAs margin inside shown →
          (EndsComment inside.toList ↔ ∀ t ∈ k.inserted, ¬Closes t.toList) := by
  have rendered := render_singleton noteProject (c := stockItem) (by decide +kernel) rfl
  exact ⟨_, rendered, comments_of_render _ .reject rendered (.head _)⟩

theorem exists_docComment (p : Project) (c : ClassDef) :
    ∃ before after, classText p c = before ++ (c.docComment p).text ++ after := by
  obtain ⟨copyright, imports, opening, head⟩ : ∃ copyright imports opening : String,
      linesText (c.headLines p) = copyright ++ (imports ++ ((c.docComment p).text ++ (opening ++ ""))) := by
    rw [← text_headStretches]
    simp only [ClassDef.headStretches, List.map_cons, List.map_nil, String.join_cons, String.join_nil]
    exact ⟨_, _, _, rfl⟩
  rw [classText_eq_blocks, head]
  refine ⟨copyright ++ imports, opening ++ (blocks writeField c.fields ++
    (blocks (fun indent k => writeConstructor indent c.name k) (Constructor.ofClass c) ++
      (blocks writeAccessor c.fields ++ "\x7d\n"))), ?_⟩
  simp only [String.append_assoc, String.append_empty]

/-- A class whose description ends the comment it is written to. -/
def leakyNote : ClassDef :=
  ⟨"Note", "A note. */ int leaked; /*", [⟨"id", "String", "", "", false, []⟩]⟩

/-- Its file has the comment as the template makes it, but what follows the first marker in it is code. -/
theorem leaks_leakyNote :
    ∃ text before after,
      ((Renderer.standard noteProject).render [leakyNote]).result = .ok [("Note", text)] ∧
        text = before ++ (leakyNote.docComment noteProject).text ++ after ∧
        ¬EndsComment ((leakyNote.docComment noteProject).body ++ " ").toList ∧
        behindMarker ((leakyNote.docComment noteProject).body ++ " */" ++ after).toList =
          (" int leaked; /*\n *\n * @author dtoforge\n * @version 1.0.0\n * @since 2024-05-17\n" ++ " */" ++
            after).toList := by
  have rendered := render_singleton noteProject (c := leakyNote) (by decide +kernel) rfl
  have marked : Closes (leakyNote.docComment noteProject).body.toList := by decide +kernel
  have rest : behindMarker (leakyNote.docComment noteProject).body.toList =
      " int leaked; /*\n *\n * @author dtoforge\n * @version 1.0.0\n * @since 2024-05-17\n".toList := by
    decide +kernel
  obtain ⟨before, after, text⟩ := exists_docComment noteProject leakyNote
  refine ⟨_, before, after, rendered, text, ?ends, ?behind⟩
  case ends =>
    rw [endsComment_iff, not_not, String.toList_append, closes_append]
    exact .inl marked
  case behind =>
    rw [String.append_assoc, String.toList_append, behindMarker_append marked, rest, ← String.toList_append,
      String.append_assoc]

end ClassTable
