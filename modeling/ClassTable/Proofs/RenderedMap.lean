import ClassTable.Proofs.Checking
import ClassTable.Proofs.Traversals

set_option autoImplicit false

namespace ClassTable

def FieldDef.bare (f : FieldDef) : FieldDef := { f with children := [] }

def ClassDef.bare (c : ClassDef) : ClassDef := { c with fields := c.fields.map FieldDef.bare }

theorem ClassDef.fault?_bare (c : ClassDef) : c.bare.fault? = c.fault? := by
  simp only [fault?, bare, List.isEmpty_map, List.findSome?_map]
  rfl

theorem Constructor.ofKind_bare (c : ClassDef) (kind : ConstructorKind) :
    ofKind c.bare kind = ofKind c kind := by
  cases kind with
  | default => rfl
  | required =>
    have members : c.bare.invariantFields.map FieldDef.member = c.invariantFields.map FieldDef.member := by
      simp only [ClassDef.invariantFields, ClassDef.bare, List.filter_map, List.map_map]
      rfl
    exact congrArg Constructor.required members
  | copying =>
    have members : (c.fields.map FieldDef.bare).map FieldDef.member = c.fields.map FieldDef.member := by
      rw [List.map_map]
      rfl
    exact congrArg (Constructor.copying c.name copyArgument) members

theorem ClassDef.context_bare (p : Project) (c : ClassDef) : c.bare.context p = c.context p := by
  have fields : (c.fields.map FieldDef.bare).map FieldDef.context = c.fields.map FieldDef.context := by
    rw [List.map_map]
    rfl
  have nonNull : ((c.fields.map FieldDef.bare).any fun f => isNonNullType f.dataType) =
      c.fields.any fun f => isNonNullType f.dataType := by
    rw [List.any_map]
    rfl
  have constructors : Constructor.ofClass c.bare = Constructor.ofClass c := by
    rw [Constructor.ofClass, funext (Constructor.ofKind_bare c), Constructor.ofClass]
  simp only [context, constructors]
  simp only [bare, fields, nonNull]

namespace Renderer

def withPolicy (r : Renderer) (policy : CollisionPolicy) : Renderer := { r with policy }

/-- The text of a class that can be rendered, and the empty one of a class that cannot. -/
def textOf (r : Renderer) (c : ClassDef) : String :=
  match r.renderClass c with
  | .ok text => text
  | .error _ => ""

def entry (r : Renderer) (c : ClassDef) : String × String := (c.name, r.textOf c)

variable {r : Renderer} {c : ClassDef} {classes forest : List ClassDef} {sources all : Sources}

theorem renderClass_bare (r : Renderer) (c : ClassDef) : r.renderClass c.bare = r.renderClass c := by
  rw [renderClass, ClassDef.fault?_bare, ClassDef.context_bare, renderClass]

theorem renderClass_eq_ok {text : String} :
    r.renderClass c = .ok text ↔ r.renderClass c = .ok (r.textOf c) ∧ r.textOf c = text := by
  unfold textOf
  cases r.renderClass c <;> simp

theorem complete_of_renderClass {text : String} (rendered : r.renderClass c = .ok text) : c.fault? = none := by
  unfold renderClass at rendered
  cases fault : c.fault? with
  | none => rfl
  | some f => simp [fault] at rendered

theorem renderClasses_ok_iff :
    (r.renderClasses sources classes).result = .ok all ↔
      (∀ c ∈ classes, r.renderClass c = .ok (r.textOf c)) ∧ all = sources.insertAll (classes.map r.entry) := by
  induction classes generalizing sources with
  | nil => simp [renderClasses, Keyed.insertAll, eq_comm]
  | cons c classes ih =>
    rw [renderClasses, Logged.result_bind_eq_ok, List.forall_mem_cons]
    constructor
    · rintro ⟨text, rendered, rest⟩
      obtain ⟨rendered, rfl⟩ := renderClass_eq_ok.1 rendered
      obtain ⟨-, -, rest⟩ := Logged.result_bind_eq_ok.1 rest
      obtain ⟨others, rfl⟩ := ih.1 rest
      exact ⟨⟨rendered, others⟩, rfl⟩
    · rintro ⟨⟨rendered, others⟩, rfl⟩
      exact ⟨_, rendered, Logged.result_bind_eq_ok.2 ⟨(), rfl, ih.2 ⟨others, rfl⟩⟩⟩

/-- A rendering succeeds when every class can be rendered and, if repeated names are refused, no name comes
twice; its sources are the texts of the classes, inserted in the order of the walks. -/
theorem render_ok_iff :
    (r.render forest).result = .ok all ↔
      (∀ c ∈ forestWalk forest, r.renderClass c = .ok (r.textOf c)) ∧
        (r.policy = .reject → ((forestWalk forest).map ClassDef.name).Nodup) ∧
        all = Keyed.insertAll [] ((forestWalk forest).map r.entry) := by
  rw [render, Logged.result_bind_eq_ok]
  simp only [Logged.result_mapError_eq_ok, renderClasses_ok_iff, checkForest]
  constructor
  · rintro ⟨⟨⟩, passed, rendered, same⟩
    exact ⟨rendered, fun refuse => ((checkClasses_ok_iff.1 passed).2 refuse).1, same⟩
  · rintro ⟨rendered, distinct, same⟩
    have complete : ∀ c ∈ forestWalk forest, c.fault? = none := fun c hc =>
      complete_of_renderClass (rendered c hc)
    exact ⟨(), checkClasses_ok_iff.2 ⟨complete, fun refuse => ⟨distinct refuse, fun _ _ => List.not_mem_nil⟩⟩,
      rendered, same⟩

theorem events_renderClasses (sorted : sources.Sorted)
    (rendered : (r.renderClasses sources classes).result = .ok all) :
    ∃ names : List String, (r.renderClasses sources classes).events = names.map .classRepeated ∧
      names.length + all.length = sources.length + classes.length := by
  induction classes generalizing sources with
  | nil =>
    cases rendered
    exact ⟨[], rfl, Nat.zero_add _⟩
  | cons c classes ih =>
    obtain ⟨text, written, rest⟩ := Logged.result_bind_eq_ok.1 rendered
    obtain ⟨-, -, rest⟩ := Logged.result_bind_eq_ok.1 rest
    obtain ⟨names, events, count⟩ := ih (Keyed.sorted_insert sorted) rest
    have here : (r.renderClasses sources (c :: classes)).events =
        (if (Keyed.get? sources c.name).isSome then [.classRepeated c.name] else []) ++
          (r.renderClasses (Keyed.insert c.name text sources) classes).events := by
      rw [renderClasses, Logged.events_bind_of_ok written, Logged.events_bind_of_ok (Logged.result_tell _)]
      rfl
    rw [here, events]
    rw [Keyed.length_insert sorted] at count
    -- A name that is there keeps its entry: one warning more in place of one entry more.
    by_cases known : c.name ∈ Keyed.keys sources
    · rw [if_pos (Keyed.isSome_get?_iff.2 known)]
      rw [if_pos known] at count
      refine ⟨c.name :: names, rfl, ?_⟩
      simp only [List.length_cons]
      omega
    · rw [if_neg (fun found => known (Keyed.isSome_get?_iff.1 found))]
      rw [if_neg known] at count
      refine ⟨names, rfl, ?_⟩
      simp only [List.length_cons]
      omega

theorem events_render (rendered : (r.render forest).result = .ok all) :
    ∃ names : List String,
      (r.render forest).events = (forestWalk forest).flatMap ClassDef.styleEvents ++ names.map .classRepeated ∧
        names.length + all.length = forestNodeCount forest := by
  obtain ⟨⟨⟩, checked, written⟩ := Logged.result_bind_eq_ok.1 rendered
  obtain ⟨names, events, count⟩ := events_renderClasses Keyed.sorted_nil written
  have passed : (checkForest r.policy forest).result = .ok () := Logged.result_mapError_eq_ok.1 checked
  refine ⟨names, ?_, ?_⟩
  · rw [render, Logged.events_bind_of_ok checked, events]
    exact congrArg (· ++ _) (events_checkClasses passed)
  · rw [← length_forestWalk, count, List.length_nil, Nat.zero_add]

/-- Sources that hold, under the name of each class of a forest, the text of the last class so named. -/
structure HoldsLast (r : Renderer) (forest : List ClassDef) (sources : Sources) : Prop where
  sorted : sources.Sorted
  names : ∀ name, name ∈ sources.keys ↔ ∃ c ∈ forestWalk forest, c.name = name
  texts : ∀ name text, sources.get? name = some text ↔
    ∃ before c after, forestWalk forest = before ++ c :: after ∧ c.name = name ∧
      (∀ d ∈ after, d.name ≠ name) ∧ r.renderClass c = .ok text

theorem keys_entries (r : Renderer) (classes : List ClassDef) :
    Keyed.keys (classes.map r.entry) = classes.map ClassDef.name := by
  simp [Keyed.keys, entry]

theorem get?_entries {name text : String} :
    (Keyed.insertAll [] (classes.map r.entry)).get? name = some text ↔
      ∃ before c after, classes = before ++ c :: after ∧ c.name = name ∧ (∀ d ∈ after, d.name ≠ name) ∧
        r.textOf c = text := by
  rw [Keyed.get?_insertAll_nil, Keyed.get?_reverse_eq_some_iff]
  constructor
  · rintro ⟨before, after, split, last⟩
    obtain ⟨before, tail, rfl, rfl, there⟩ := List.map_eq_append_iff.1 split
    obtain ⟨c, after, rfl, here, rfl⟩ := List.map_eq_cons_iff.1 there
    obtain ⟨rfl, rfl⟩ := Prod.mk.inj here
    rw [keys_entries] at last
    exact ⟨before, c, after, rfl, rfl, fun d hd same => last (same ▸ List.mem_map_of_mem hd), rfl⟩
  · rintro ⟨before, c, after, rfl, rfl, last, rfl⟩
    refine ⟨before.map r.entry, after.map r.entry, by simp [entry], ?_⟩
    rw [keys_entries]
    intro mem
    obtain ⟨d, hd, same⟩ := List.mem_map.1 mem
    exact last d hd same

theorem holdsLast_of_render (rendered : (r.render forest).result = .ok all) : r.HoldsLast forest all := by
  obtain ⟨texts, -, rfl⟩ := render_ok_iff.1 rendered
  refine ⟨Keyed.sorted_insertAll Keyed.sorted_nil, fun name => ?_, fun name text => ?_⟩
  · rw [Keyed.mem_keys_insertAll, keys_entries]
    simp [Keyed.keys]
  · rw [get?_entries]
    constructor
    · rintro ⟨before, c, after, split, named, last, rfl⟩
      have mem : c ∈ forestWalk forest := split ▸ List.mem_append_right before (List.mem_cons_self ..)
      exact ⟨before, c, after, split, named, last, texts c mem⟩
    · rintro ⟨before, c, after, split, named, last, written⟩
      exact ⟨before, c, after, split, named, last, (renderClass_eq_ok.1 written).2⟩

theorem length_of_distinct (rendered : (r.render forest).result = .ok all)
    (distinct : ((forestWalk forest).map ClassDef.name).Nodup) : all.length = forestNodeCount forest := by
  have holds := holdsLast_of_render rendered
  have perm : all.keys.Perm ((forestWalk forest).map ClassDef.name) :=
    (List.perm_ext_iff_of_nodup holds.sorted.nodup distinct).2 fun name => by simp [holds.names]
  simpa [Keyed.keys, length_forestWalk] using perm.length_eq

/-- Where repeated names are refused and none is found, allowing them changes nothing. -/
theorem render_withPolicy (policy : CollisionPolicy) (rendered : (r.render forest).result = .ok all)
    (distinct : policy = .reject → ((forestWalk forest).map ClassDef.name).Nodup) :
    ((r.withPolicy policy).render forest).result = .ok all := by
  obtain ⟨texts, -, same⟩ := render_ok_iff.1 rendered
  exact render_ok_iff.2 ⟨texts, distinct, same⟩

theorem render_append {other : List ClassDef} {more : Sources} (keep : r.policy = .overwrite)
    (rendered : (r.render forest).result = .ok all) (rendered' : (r.render other).result = .ok more) :
    ∃ both, (r.render (forest ++ other)).result = .ok both ∧
      ∀ name, both.get? name = (more.get? name).or (all.get? name) := by
  obtain ⟨texts, -, rfl⟩ := render_ok_iff.1 rendered
  obtain ⟨texts', -, rfl⟩ := render_ok_iff.1 rendered'
  refine ⟨_, render_ok_iff.2 ⟨?_, ?_, rfl⟩, fun name => ?_⟩
  · rw [forestWalk_append]
    exact List.forall_mem_append.2 ⟨texts, texts'⟩
  · intro refuse
    cases keep.symm.trans refuse
  · rw [forestWalk_append, List.map_append, Keyed.insertAll_append, Keyed.get?_insertAll,
      Keyed.get?_insertAll_nil ((forestWalk other).map r.entry)]

/-- What a successful rendering returns and reports, and how that depends on the policy.  Under `overwrite`
the sources of two forests together are those of the first, overridden by those of the second. -/
theorem render_content (rendered : (r.render forest).result = .ok all) :
    r.HoldsLast forest all ∧
    (∀ c c' : ClassDef, c.bare = c'.bare → r.renderClass c = r.renderClass c') ∧
    (∃ names : List String,
      (r.render forest).events = (forestWalk forest).flatMap ClassDef.styleEvents ++ names.map .classRepeated ∧
        names.length + all.length = forestNodeCount forest) ∧
    (r.policy = .reject →
      all.length = forestNodeCount forest ∧ ((r.withPolicy .overwrite).render forest).result = .ok all) ∧
    (r.policy = .overwrite →
      (((forestWalk forest).map ClassDef.name).Nodup →
        ((r.withPolicy .reject).render forest).result = .ok all) ∧
      ∀ other more, (r.render other).result = .ok more →
        ∃ both, (r.render (forest ++ other)).result = .ok both ∧
          ∀ name, both.get? name = (more.get? name).or (all.get? name)) := by
  refine ⟨holdsLast_of_render rendered, fun c c' same => ?_, events_render rendered, fun refuse => ?_,
    fun keep => ⟨fun distinct => ?_, fun other more rendered' => render_append keep rendered rendered'⟩⟩
  · rw [← renderClass_bare r c, same, renderClass_bare r c']
  · have distinct := (render_ok_iff.1 rendered).2.1 refuse
    exact ⟨length_of_distinct rendered distinct, render_withPolicy .overwrite rendered fun h => (nomatch h)⟩
  · exact render_withPolicy .reject rendered fun _ => distinct

def itemForest : List ClassDef :=
  [⟨"Item", "An article", [.plain "sku" "String"]⟩, ⟨"Item", "A line of an order", [.plain "count" "int"]⟩]

def itemRenderer : Renderer := ⟨.standard ⟨2024, 5, 17, by decide⟩, .builtin, .overwrite⟩

theorem render_content_itemForest :
    (itemRenderer.render itemForest).result = .ok (addTexts itemRenderer.project [] itemForest) ∧
      itemRenderer.HoldsLast itemForest (addTexts itemRenderer.project [] itemForest) ∧
      ∃ name, (itemRenderer.render itemForest).events = [.classRepeated name] := by
  have checked : (checkForest .overwrite itemForest).result = .ok () := by decide +kernel
  have rendered : (itemRenderer.render itemForest).result =
      .ok (addTexts itemRenderer.project [] itemForest) := by
    refine (render_builtin itemRenderer.project .overwrite itemForest).trans ?_
    rw [checked]
    rfl
  obtain ⟨holds, -, ⟨names, events, count⟩, -⟩ := render_content rendered
  refine ⟨rendered, holds, ?_⟩
  have one : (addTexts itemRenderer.project [] itemForest).length = 1 := by
    simp [addTexts, itemForest, Keyed.insert]
  have nodes : forestNodeCount itemForest = 2 := rfl
  obtain ⟨name, rfl⟩ := List.length_eq_one_iff.1 (show names.length = 1 by omega)
  have conventional : (forestWalk itemForest).flatMap ClassDef.styleEvents = [] := by decide +kernel
  exact ⟨name, by rw [events, conventional]; rfl⟩

end Renderer
end ClassTable
