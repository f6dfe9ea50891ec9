import ClassTable.Proofs.ClassText
import ClassTable.Proofs.LineText

set_option autoImplicit false

namespace ClassTable

open Template Template.Writer

/-- A line of a comment, which has no blank at its end when there is nothing to say. -/
def commentLine (line : String) : String := " *" ++ if line.isEmpty then "" else " " ++ line

def Project.copyrightLines (p : Project) : List String :=
  ["/*",
    " * Copyright (c) " ++ toString p.year ++ " " ++ p.creator ++ ". All rights reserved.",
    " *",
    " * Project: " ++ p.project ++ " " ++ p.version,
    " * Generated by dtoforge. Do not edit by hand.",
    " */"]

namespace FieldDef

def lines (f : FieldDef) : List String :=
  (if f.description.isEmpty then [] else ["/** " ++ f.description ++ " */"]) ++
    (if isNonNullType f.dataType then ["@NonNull"] else []) ++
    ["private " ++ f.dataType ++ " " ++ f.name ++
      (if f.initialValue.isEmpty then "" else " = " ++ f.initialValue) ++ ";"]

def accessorLines (f : FieldDef) : List String :=
  ["/**",
    " * @return the " ++ f.name,
    " */",
    "public " ++ f.dataType ++ " " ++ Text.getterName f.name ++ "() \x7b",
    "    return " ++ f.name ++ ";",
    "\x7d"]

end FieldDef

def constructorLines (className : String) (doc parameters statements : List String) : List String :=
  ["/**"] ++ doc.map commentLine ++
    [" */", "public " ++ className ++ "(" ++ String.intercalate ", " parameters ++ ") \x7b"] ++
    statements.map ("    " ++ ·) ++ ["\x7d"]

namespace ClassDef

def defaultLines (c : ClassDef) : List String := constructorLines c.name ["Default constructor."] [] []

def requiredLines (c : ClassDef) : List String :=
  constructorLines c.name ["Constructor with the required fields."]
    (c.invariantFields.map fun f => f.dataType ++ " " ++ f.name)
    (c.invariantFields.map fun f => "this." ++ f.name ++ " = " ++ f.name ++ ";")

def copyingLines (c : ClassDef) : List String :=
  constructorLines c.name ["Copy constructor.", "", "@param other " ++ c.name ++ " to copy"]
    [c.name ++ " other"]
    (c.fields.map fun f => "this." ++ f.name ++ " = other." ++ Text.getterName f.name ++ "();")

def docLines (p : Project) (c : ClassDef) : List String :=
  ["/**"] ++ (Text.lines c.description).map (fun line => commentLine (Text.trimEnd line)) ++
    [" *", " * @author " ++ p.creator, " * @version " ++ p.version, " * @since " ++ p.created.text, " */"]

/-- The blocks of the body: all fields, the constructors, a getter for each field. -/
def memberBlocks (c : ClassDef) : List (List String) :=
  c.fields.map FieldDef.lines ++
    ([c.defaultLines] ++ (if c.invariantFields = [] then [] else [c.requiredLines]) ++ [c.copyingLines]) ++
    c.fields.map FieldDef.accessorLines

def sourceLines (p : Project) (c : ClassDef) : List String :=
  p.copyrightLines ++ ["package " ++ p.package ++ ";", "", "import lombok.Data;"] ++
    (if c.fields.any (fun f => isNonNullType f.dataType) then ["import lombok.NonNull;"] else []) ++ [""] ++
    c.docLines p ++ ["@Data", "public class " ++ c.name ++ " \x7b"] ++
    c.memberBlocks.flatMap (fun block => "" :: block.map ("    " ++ ·)) ++ ["\x7d"]

end ClassDef

structure FieldDef.OneLine (f : FieldDef) : Prop where
  name : NoBreak f.name
  dataType : NoBreak f.dataType
  initialValue : NoBreak f.initialValue
  description : NoBreak f.description

/-- Holds of classes whose name and whose fields' texts have no line breaks. -/
structure ClassDef.OneLine (c : ClassDef) : Prop where
  name : NoBreak c.name
  fields : ∀ f ∈ c.fields, f.OneLine

section Blocks

variable {indent className : String}

theorem adds_onlyIf {t : String} {condition : Bool} {f : Writer → Writer}
    (h : condition = true → Adds indent t f) :
    Adds indent (if condition then t else "") (onlyIf condition f) := by
  cases condition with
  | true => exact h rfl
  | false => exact adds_id

theorem fits_plain {s : String} : Fits "" s := .inl rfl

theorem text_int (n : Int) : (Number.int n).text = toString n := by
  cases n with
  | ofNat n =>
    apply String.toList_inj.1
    have digits : (toString (Int.ofNat n)).toList = Nat.toDigits 10 n := Nat.toList_repr
    have sign : ¬Int.ofNat n < 0 := by simp
    rw [digits, Number.text, Decimal.intChars, if_neg sign, String.toList_ofList]
    rfl
  | negSucc n =>
    apply String.toList_inj.1
    have digits : (toString (Int.negSucc n)).toList = '-' :: Nat.toDigits 10 (n + 1) := by
      change ("-" ++ (n + 1).repr).toList = _
      rw [String.toList_append, Nat.toList_repr]
      rfl
    rw [digits, Number.text, Decimal.intChars, if_pos (Int.negSucc_lt_zero n), String.toList_ofList]
    rfl

theorem adds_copyright (p : Project) : Adds "" (linesText p.copyrightLines) (writeCopyright "" p) := by
  unfold writeCopyright
  refine .of_eq (
    adds_textThen fits_plain fits_plain <|
    adds_textThen fits_plain fits_plain <|
    adds_textThen fits_plain fits_plain <|
    adds_textThen fits_plain fits_plain <|
    adds_text fits_plain) ?_
  -- As characters the pieces and the lines differ in brackets only.
  apply String.toList_inj.1
  simp [Project.copyrightLines, text_int]

theorem adds_commentLine {line : String} (fits : Fits indent line) :
    Adds indent (linesText [commentLine line]) (writeCommentLine indent line) := by
  unfold writeCommentLine
  refine .of_eq (
    adds_cons (adds_piece (.inr rfl)) <|
    adds_cons (adds_block _ <| adds_onlyIf fun _ => adds_textThen (.inr rfl) fits adds_nil) <|
    adds_text (.inr rfl)) ?_
  cases empty : line.isEmpty <;> simp [commentLine, empty, String.append_assoc]

theorem adds_comment {lines : List String} (fit : ∀ line ∈ lines, Fits indent line) :
    Adds indent (linesText (lines.map commentLine)) (writeComment indent lines) := by
  rw [List.map_eq_flatMap]
  exact adds_block true (adds_lines fun line mem => adds_commentLine (fit line mem))

theorem adds_classDoc (p : Project) (c : ClassDef) :
    Adds "" (linesText (c.docLines p)) (writeClassDoc "" p c) := by
  unfold writeClassDoc
  refine .of_eq (
    adds_cons (adds_piece fits_plain) <|
    adds_cons (adds_comment fun _ _ => fits_plain) <|
    adds_textThen fits_plain fits_plain <|
    adds_textThen fits_plain fits_plain <|
    adds_textThen fits_plain fits_plain <|
    adds_text fits_plain) ?_
  apply String.toList_inj.1
  simp [ClassDef.docLines, Function.comp_def]

theorem adds_field {f : FieldDef} (h : f.OneLine) : Adds indent (linesText f.lines) (writeField indent f) := by
  unfold writeField
  refine .of_eq (
    adds_cons (adds_block _ <| adds_onlyIf fun _ =>
      adds_textThen (.inr rfl) h.description.fits <| adds_text (.inr rfl)) <|
    adds_cons (adds_block _ <| adds_onlyIf fun _ => adds_text (.inr rfl)) <|
    adds_textThen (.inr rfl) h.dataType.fits <|
    adds_textThen (.inr rfl) h.name.fits <|
    adds_cons (adds_block _ <| adds_onlyIf fun _ =>
      adds_textThen (.inr rfl) h.initialValue.fits adds_nil) <|
    adds_text (.inr rfl)) ?_
  apply String.toList_inj.1
  unfold FieldDef.lines
  cases f.description.isEmpty <;> cases isNonNullType f.dataType <;> cases f.initialValue.isEmpty <;> simp

theorem adds_accessor {f : FieldDef} (h : f.OneLine) :
    Adds indent (linesText f.accessorLines) (writeAccessor indent f) := by
  unfold writeAccessor
  refine .of_eq (
    adds_textThen (.inr rfl) h.name.fits <|
    adds_textThen (.inr rfl) h.dataType.fits <|
    adds_cons (adds_piece (.inr rfl)) <|
    adds_cons (adds_nested <| adds_piece h.name.getterName.fits) <|
    adds_textThen (.inr rfl) h.name.fits <|
    adds_text (.inr rfl)) ?_
  apply String.toList_inj.1
  simp [FieldDef.accessorLines]

def Constructor.lines (className : String) (k : Constructor) : List String :=
  constructorLines className (k.kind.doc className) (k.parameters.map fun p => p.dataType ++ " " ++ p.name)
    (k.assignments.map fun a => "this." ++ a.member ++ " = " ++ a.value ++ ";")

structure Constructor.OneLine (k : Constructor) : Prop where
  parameters : ∀ p ∈ k.parameters, NoBreak p.dataType ∧ NoBreak p.name
  assignments : ∀ a ∈ k.assignments, NoBreak a.member ∧ NoBreak a.value

theorem adds_parameter {p : Parameter} {count index : Nat} (dataType : NoBreak p.dataType)
    (name : NoBreak p.name) :
    Adds indent (p.dataType ++ " " ++ p.name ++ if index + 1 = count then "" else ", ")
      (writeParameter indent count index p) := by
  unfold writeParameter
  refine .of_eq (
    adds_cons (adds_piece dataType.fits) <|
    adds_textThen (.inr rfl) name.fits <|
    adds_cons (adds_block _ <| adds_onlyIf fun _ => adds_text (.inr rfl)) adds_nil) ?_
  by_cases last : index + 1 = count <;> simp [last, String.append_assoc]

theorem adds_assignment {a : Assignment} (member : NoBreak a.member) (value : NoBreak a.value) :
    Adds indent (linesText ["    " ++ ("this." ++ a.member ++ " = " ++ a.value ++ ";")])
      (writeAssignment indent a) := by
  unfold writeAssignment
  refine .of_eq (
    adds_textThen (.inr rfl) member.fits <|
    adds_textThen (.inr rfl) value.fits <|
    adds_text (.inr rfl)) ?_
  apply String.toList_inj.1
  simp

theorem noBreak_doc (kind : ConstructorKind) (name : NoBreak className) :
    ∀ line ∈ kind.doc className, NoBreak line := by
  cases kind <;> simp +decide [ConstructorKind.doc, Constructor.copyArgument, noBreak_append, name]

theorem adds_constructor {k : Constructor} (name : NoBreak className) (h : k.OneLine) :
    Adds indent (linesText (k.lines className)) (writeConstructor indent className k) := by
  have parameters : Adds indent
      (String.intercalate ", " (k.parameters.map fun p => p.dataType ++ " " ++ p.name))
      (inOrder (k.parameters.mapIdx (writeParameter indent k.parameters.length))) :=
    adds_separated fun i p found =>
      have ⟨dataType, name⟩ := h.parameters p (List.mem_of_getElem? found)
      adds_parameter dataType name
  have statements : Adds indent _ (inOrder (k.assignments.map (writeAssignment indent))) :=
    adds_lines fun a mem =>
      have ⟨member, value⟩ := h.assignments a mem
      adds_assignment member value
  rw [← List.map_eq_flatMap] at statements
  unfold writeConstructor
  refine .of_eq (
    adds_cons (adds_piece (.inr rfl)) <|
    adds_cons (adds_comment fun line mem => (noBreak_doc k.kind name line mem).fits) <|
    adds_textThen (.inr rfl) name.fits <|
    adds_cons (adds_piece (.inr rfl)) <|
    adds_cons (adds_block _ parameters) <|
    adds_cons (adds_piece (.inr rfl)) <|
    adds_cons (adds_block _ statements) <|
    adds_text (.inr rfl)) ?_
  apply String.toList_inj.1
  simp [Constructor.lines, constructorLines, Function.comp_def]

theorem isLine_field {f : FieldDef} (h : f.OneLine) : ∀ l ∈ f.lines, IsLine l := by
  have ⟨name, dataType, initialValue, description⟩ := h
  rw [FieldDef.lines, List.forall_mem_append, List.forall_mem_append]
  refine ⟨⟨?comment, ?mark⟩, ?declaration⟩
  case comment => split <;> simp +decide [IsLine, noBreak_append, description]
  case mark => split <;> simp +decide
  case declaration => split <;> simp +decide [IsLine, noBreak_append, dataType, name, initialValue]

theorem isLine_accessor {f : FieldDef} (h : f.OneLine) : ∀ l ∈ f.accessorLines, IsLine l := by
  simp +decide [FieldDef.accessorLines, IsLine, noBreak_append, h.name, h.dataType, h.name.getterName]

theorem isLine_commentLine {line : String} (h : NoBreak line) : IsLine (commentLine line) := by
  unfold commentLine
  split <;> simp +decide [IsLine, noBreak_append, h]

theorem isLine_constructor {k : Constructor} (name : NoBreak className) (h : k.OneLine) :
    ∀ l ∈ k.lines className, IsLine l := by
  have parameters :
      NoBreak (String.intercalate ", " (k.parameters.map fun p => p.dataType ++ " " ++ p.name)) :=
    noBreak_intercalate (List.forall_mem_map.2 fun p mem => by
      simp +decide [noBreak_append, h.parameters p mem])
  have doc : ∀ l ∈ (k.kind.doc className).map commentLine, IsLine l :=
    List.forall_mem_map.2 fun line mem => isLine_commentLine (noBreak_doc k.kind name line mem)
  simp only [Constructor.lines, constructorLines, List.forall_mem_append]
  refine ⟨⟨⟨⟨by decide, doc⟩, ?signature⟩, ?statements⟩, by decide⟩
  case signature => simp +decide [IsLine, noBreak_append, name, parameters]
  case statements =>
    rw [List.map_map]
    exact List.forall_mem_map.2 fun a mem => by
      simp +decide [IsLine, noBreak_append, h.assignments a mem]

theorem adds_members {α : Type} {lines : α → List String} {write : String → α → Writer → Writer}
    {xs : List α}
    (each : ∀ x ∈ xs, Adds "    " (linesText (lines x)) (write "    " x))
    (isLine : ∀ x ∈ xs, ∀ l ∈ lines x, IsLine l) :
    Adds "" (linesText (xs.flatMap fun x => "" :: (lines x).map ("    " ++ ·))) (writeMembers "" write xs) := by
  refine adds_block true (adds_lines fun x mem => ?_)
  have behind : Adds "" _ (nested (startsEmbed true "    ") (write ("" ++ "    ") x)) :=
    adds_embed_indented (by decide) (each x mem)
  refine (adds_cons (adds_piece fits_plain) (adds_cons behind adds_nil)).of_eq ?_
  rw [indented_linesText (isLine x mem)]
  simp

theorem ofClass_eq (c : ClassDef) :
    Constructor.ofClass c = [.ofKind c .default] ++
      (if c.invariantFields = [] then [] else [.ofKind c .required]) ++ [.ofKind c .copying] := by
  cases fields : c.invariantFields <;>
    simp [Constructor.ofClass, ConstructorKind.all, Constructor.ofKind, Constructor.isRedundant, fields]

theorem lines_ofClass (c : ClassDef) :
    (Constructor.ofClass c).map (Constructor.lines c.name) =
      [c.defaultLines] ++ (if c.invariantFields = [] then [] else [c.requiredLines]) ++ [c.copyingLines] := by
  have required : (Constructor.ofKind c .required).lines c.name = c.requiredLines := by
    simp [Constructor.lines, Constructor.ofKind, Constructor.kind, ConstructorKind.doc, Constructor.parameters,
      Constructor.assignments, FieldDef.member, ClassDef.requiredLines, Function.comp_def]
  have statement : ∀ f : FieldDef,
      "this." ++ f.name ++ " = other." ++ Text.getterName f.name ++ "();" =
        "this." ++ f.name ++ " = " ++ ("other" ++ "." ++ Text.getterName f.name ++ "()") ++ ";" := fun f =>
    String.toList_inj.1 (by simp)
  have argument : c.name ++ " other" = c.name ++ " " ++ "other" := String.toList_inj.1 (by simp)
  have copying : (Constructor.ofKind c .copying).lines c.name = c.copyingLines := by
    simp [Constructor.lines, Constructor.ofKind, Constructor.kind, ConstructorKind.doc, Constructor.parameters,
      Constructor.assignments, Constructor.copyArgument, FieldDef.member, ClassDef.copyingLines,
      Function.comp_def, statement, argument]
  rw [ofClass_eq, List.map_append, List.map_append, apply_ite (List.map _)]
  simp only [List.map_cons, List.map_nil, required, copying]
  rfl

theorem oneLine_ofKind {c : ClassDef} (h : c.OneLine) (kind : ConstructorKind) :
    (Constructor.ofKind c kind).OneLine := by
  cases kind with
  | default => exact ⟨nofun, nofun⟩
  | required =>
    have invariant : ∀ f ∈ c.invariantFields, f.OneLine := fun f mem =>
      h.fields f (List.mem_of_mem_filter mem)
    constructor
    · simp only [Constructor.ofKind, Constructor.parameters, List.forall_mem_map]
      exact fun f mem => ⟨(invariant f mem).dataType, (invariant f mem).name⟩
    · simp only [Constructor.ofKind, Constructor.assignments, List.forall_mem_map]
      exact fun f mem => ⟨(invariant f mem).name, (invariant f mem).name⟩
  | copying =>
    constructor
    · simp +decide [Constructor.ofKind, Constructor.parameters, Constructor.copyArgument, h.name]
    · simp only [Constructor.ofKind, Constructor.assignments, List.forall_mem_map]
      intro f mem
      have getter := (h.fields f mem).name.getterName
      refine ⟨(h.fields f mem).name, ?_⟩
      simp +decide [noBreak_append, Constructor.copyArgument, FieldDef.member, getter]

theorem adds_class (p : Project) {c : ClassDef} (h : c.OneLine) :
    Adds "" (linesText (c.sourceLines p)) (writeClass "" p c) := by
  have oneLine : ∀ k ∈ Constructor.ofClass c, k.OneLine := fun k mem => by
    obtain ⟨kind, -, rfl⟩ := List.mem_map.1 (List.mem_of_mem_filter mem)
    exact oneLine_ofKind h kind
  have fields : Adds "" _ (writeMembers "" writeField c.fields) :=
    adds_members (fun f mem => adds_field (h.fields f mem)) fun f mem => isLine_field (h.fields f mem)
  have constructors : Adds "" _
      (writeMembers "" (fun indent k => writeConstructor indent c.name k) (Constructor.ofClass c)) :=
    adds_members (fun k mem => adds_constructor h.name (oneLine k mem)) fun k mem =>
      isLine_constructor h.name (oneLine k mem)
  have accessors : Adds "" _ (writeMembers "" writeAccessor c.fields) :=
    adds_members (fun f mem => adds_accessor (h.fields f mem)) fun f mem => isLine_accessor (h.fields f mem)
  unfold writeClass
  -- Only the members are indented, so every other piece may hold any text.
  refine .of_eq (
    adds_cons (adds_embed <| adds_copyright p) <|
    adds_textThen fits_plain fits_plain <|
    adds_cons (adds_piece fits_plain) <|
    adds_cons (adds_block _ <| adds_onlyIf fun _ => adds_text fits_plain) <|
    adds_cons (adds_piece fits_plain) <|
    adds_cons (adds_embed <| adds_classDoc p c) <|
    adds_textThen fits_plain fits_plain <|
    adds_cons (adds_piece fits_plain) <|
    adds_cons fields <|
    adds_cons constructors <|
    adds_cons accessors <|
    adds_text fits_plain) ?_
  have blocks : c.memberBlocks = c.fields.map FieldDef.lines ++
      (Constructor.ofClass c).map (Constructor.lines c.name) ++ c.fields.map FieldDef.accessorLines := by
    rw [lines_ofClass]
    rfl
  apply String.toList_inj.1
  rw [ClassDef.sourceLines, blocks]
  cases c.fields.any fun f => isNonNullType f.dataType <;> simp [List.flatMap_map]

/-- The whole text of a class that lacks nothing. -/
theorem renderClass_eq_sourceLines (p : Project) (policy : CollisionPolicy) {c : ClassDef}
    (complete : c.fault? = none) (oneLine : c.OneLine) :
    (⟨p, .builtin, policy⟩ : Renderer).renderClass c = .ok (linesText (c.sourceLines p)) := by
  have text : classText p c = linesText (c.sourceLines p) := by
    have start : Writer.empty.Settled := nofun
    rw [classText, adds_class p oneLine _ start]
    simp [Writer.add, Writer.empty, indented, indentChars_nil_indent]
  rw [← text]
  exact renderClass_of_complete p complete

end Blocks

/-- A class with a required field and a description that has an empty line. -/
def stockItem : ClassDef :=
  ⟨"StockItem", "An article.\n\nKept in stock. ",
    [⟨"sku", "String", "", "Its number", true, []⟩, ⟨"bins", "Set<Bin>", "Set.of()", "", false, []⟩]⟩

theorem renderClass_stockItem :
    stockItem.fault? = none ∧ stockItem.OneLine ∧
      (Renderer.standard (.standard ⟨2024, 5, 17, by decide⟩)).renderClass stockItem = .ok (linesText [
        "/*", " * Copyright (c) 2024 dtoforge. All rights reserved.", " *", " * Project: dto 1.0.0",
        " * Generated by dtoforge. Do not edit by hand.", " */",
        "package com.example.dto;", "", "import lombok.Data;", "import lombok.NonNull;", "",
        "/**", " * An article.", " *", " * Kept in stock.", " *", " * @author dtoforge", " * @version 1.0.0",
        " * @since 2024-05-17", " */",
        "@Data", "public class StockItem \x7b",
        "", "    /** Its number */", "    @NonNull", "    private String sku;",
        "", "    private Set<Bin> bins = Set.of();",
        "", "    /**", "     * Default constructor.", "     */", "    public StockItem() \x7b", "    \x7d",
        "", "    /**", "     * Constructor with the required fields.", "     */",
        "    public StockItem(String sku) \x7b", "        this.sku = sku;", "    \x7d",
        "", "    /**", "     * Copy constructor.", "     *", "     * @param other StockItem to copy", "     */",
        "    public StockItem(StockItem other) \x7b", "        this.sku = other.getSku();",
        "        this.bins = other.getBins();", "    \x7d",
        "", "    /**", "     * @return the sku", "     */", "    public String getSku() \x7b",
        "        return sku;", "    \x7d",
        "", "    /**", "     * @return the bins", "     */", "    public Set<Bin> getBins() \x7b",
        "        return bins;", "    \x7d",
        "\x7d"]) := by
  have complete : stockItem.fault? = none := by decide +kernel
  have oneLine : stockItem.OneLine := by
    refine ⟨by decide, List.forall_mem_cons.2 ⟨?_, List.forall_mem_singleton.2 ?_⟩⟩ <;>
      exact ⟨by decide, by decide, by decide, by decide⟩
  refine ⟨complete, oneLine, ?_⟩
  have rendered := renderClass_eq_sourceLines (.standard ⟨2024, 5, 17, by decide⟩) .reject complete oneLine
  refine rendered.trans (congrArg (Except.ok ∘ linesText) ?_)
  decide +kernel

end ClassTable
