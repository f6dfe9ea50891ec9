import ClassTable.Output
import ClassTable.Proofs.DiskChanges
import ClassTable.Proofs.RenderedMap
import Mathlib.Data.List.Nodup

set_option autoImplicit false

namespace ClassTable

def sourcePath (dir : String) (project : Project) (s : String × String) : String :=
  (outputFile dir project s.1).path

def LastAt (dir : String) (project : Project) (d : Disk) (sources : Sources) (p : Place)
    (s : String × String) : Prop :=
  ∃ before after, sources = before ++ s :: after ∧ d.locate (sourcePath dir project s) = .ok p ∧
    ∀ t ∈ after, d.locate (sourcePath dir project t) ≠ .ok p

structure FilesWritten (dir : String) (project : Project) (sources : Sources) (d d' : Disk) : Prop where
  grows : Disk.Extends d d'
  located : ∀ s ∈ sources, (Disk.pathFault? (sourcePath dir project s) = none ∧
    Path.endsInSlash (sourcePath dir project s) = false) ∧ ∃ p, d'.locate (sourcePath dir project s) = .ok p
  entries : ∀ p, (d'.entry? p = d.entry? p ∧ ∀ s ∈ sources, d'.locate (sourcePath dir project s) ≠ .ok p) ∨
    ∃ s, LastAt dir project d' sources p s ∧ d'.entry? p = some (.file (Text.toUtf8 s.2))

section Writing

variable {dir : String} {project : Project} {sources : Sources} {d d' : Disk} {p : Place}
  {s : String × String}

theorem writeText_ok {path text : String} (h : writeText d path text = .ok d') :
    d.write path (Text.toUtf8 text) = .ok d' := by
  unfold writeText at h
  cases wrote : d.write path (Text.toUtf8 text) with
  | error fault =>
    rw [wrote] at h
    cases h
  | ok d₁ =>
    rw [wrote] at h
    cases h
    rfl

theorem filesWritten_of_writeFiles (h : writeFiles dir project d sources = (d', .ok ())) :
    FilesWritten dir project sources d d' := by
  induction sources generalizing d with
  | nil =>
    cases h
    exact ⟨.refl _, nofun, fun p => .inl ⟨rfl, nofun⟩⟩
  | cons s rest ih =>
    obtain ⟨className, text⟩ := s
    unfold writeFiles at h
    split at h
    · next d₁ wrote =>
      obtain ⟨readable, place, led, free, rfl⟩ := Disk.write_ok (writeText_ok wrote)
      have inner : place ≠ [] := fun root => free (root ▸ Disk.entry?_nil d)
      have grown := Disk.Extends.put d (.file (Text.toUtf8 text)) free
      have more := ih h
      -- Later writes take no directory away, so the path of this source still leads to its place.
      have there : d'.locate (sourcePath dir project (className, text)) = .ok place :=
        more.grows.locate (grown.locate led)
      refine ⟨grown.trans more.grows, List.forall_mem_cons.2 ⟨⟨readable, place, there⟩, more.located⟩,
        fun p => ?_⟩
      obtain ⟨same, untouched⟩ | ⟨s, ⟨before, after, split, here, last⟩, content⟩ := more.entries p
      · rw [Disk.entry?_put d p _ inner] at same
        by_cases first : p = place
        · rw [if_pos first] at same
          exact .inr ⟨(className, text), ⟨[], rest, rfl, first ▸ there, untouched⟩, same⟩
        · rw [if_neg first] at same
          refine .inl ⟨same, List.forall_mem_cons.2 ⟨fun led => first ?_, untouched⟩⟩
          exact Except.ok.inj (led.symm.trans there)
      · exact .inr ⟨s, ⟨(className, text) :: before, after, by rw [split]; rfl, here, last⟩, content⟩
    · cases h

theorem FilesWritten.find (w : FilesWritten dir project sources d d') (mem : s ∈ sources)
    (led : d'.locate (sourcePath dir project s) = .ok p) :
    ∃ t, LastAt dir project d' sources p t ∧
      d'.find (sourcePath dir project s) = .ok (.file (Text.toUtf8 t.2)) := by
  obtain ⟨readable, -⟩ := w.located s mem
  obtain ⟨-, untouched⟩ | ⟨t, last, content⟩ := w.entries p
  · exact absurd led (untouched s mem)
  · exact ⟨t, last, Disk.find_of_locate readable led content⟩

end Writing

/-- What a run that wrote all sources has done to a disk: the directory is there, each file holds the last
source for its place, and nothing else differs but directories made on the way to the output directory. -/
structure Written (dir : String) (project : Project) (sources : Sources) (d d' : Disk) : Prop where
  grows : Disk.Extends d d'
  directory : dir ≠ "" → d'.find dir = .ok .directory
  files : ∀ s ∈ sources, ∃ p t, d'.locate (sourcePath dir project s) = .ok p ∧
    LastAt dir project d' sources p t ∧ d'.find (sourcePath dir project s) = .ok (.file (Text.toUtf8 t.2))
  changed : ∀ p, d'.entry? p ≠ d.entry? p →
    (d.entry? p = none ∧ d'.entry? p = some .directory ∧
      ∃ front, front <+: Path.components dir ∧ d'.walk (d.startOf dir) front = .ok p) ∨
    ∃ s ∈ sources, d'.locate (sourcePath dir project s) = .ok p

section Sources

variable {dir : String} {project : Project} {sources : Sources} {d d' : Disk}

theorem written_of_writeSources (h : writeSources dir project sources d = (d', .ok ())) :
    Written dir project sources d d' := by
  unfold writeSources at h
  have made := Disk.makeDirectories_made d dir
  split at h
  · cases h
  · next d₁ done =>
    rw [done] at made
    obtain ⟨made, there⟩ := made
    have w := filesWritten_of_writeFiles h
    refine ⟨made.grows.trans w.grows, fun nonempty => ?_, fun s mem => ?_, fun p changed => ?_⟩
    · exact w.grows.find_directory (there rfl nonempty)
    · obtain ⟨-, p, led⟩ := w.located s mem
      obtain ⟨t, last, found⟩ := w.find mem led
      exact ⟨p, t, led, last, found⟩
    · obtain ⟨same, -⟩ | ⟨s, ⟨before, after, split, led, -⟩, -⟩ := w.entries p
      · obtain ⟨free, dirs, front, way, led⟩ := made.added p (same ▸ changed)
        exact .inl ⟨free, w.grows.directories p dirs, front, way, w.grows.walk led⟩
      · have mem : s ∈ sources := split ▸ List.mem_append_right before (List.mem_cons_self ..)
        exact .inr ⟨s, mem, led⟩

theorem Project.fileName_inj (project : Project) {a b : String} (h : project.fileName a = project.fileName b) :
    a = b := by
  unfold fileName at h
  split at h
  · exact h
  · rw [String.append_assoc, String.append_assoc] at h
    exact (String.append_left_inj _).1 h

/-- Holds of files that no disk has at one place. -/
def OutputFile.Apart (f g : OutputFile) : Prop :=
  ∀ (d : Disk) (p : Place), d.locate f.path = .ok p → d.locate g.path ≠ .ok p

theorem outputFile_apart {a b : String} (plain : Path.IsPlain (project.fileName a))
    (plain' : Path.IsPlain (project.fileName b)) (differs : a ≠ b) :
    (outputFile dir project a).Apart (outputFile dir project b) := by
  intro d p led led'
  obtain ⟨parent, way, rfl⟩ := Disk.locate_join plain led
  obtain ⟨parent', way', same⟩ := Disk.locate_join plain' led'
  have here : parent = parent' := Except.ok.inj (way.symm.trans way')
  rw [here] at same
  have names : project.fileName a = project.fileName b := by simpa using same
  exact differs (project.fileName_inj names)

theorem outputPlan_apart (sorted : sources.Sorted)
    (plain : ∀ name ∈ sources.keys, Path.IsPlain (project.fileName name)) :
    (outputPlan dir project sources).Pairwise OutputFile.Apart := by
  unfold outputPlan
  rw [List.pairwise_map]
  refine List.Pairwise.imp_of_mem ?_ sorted
  intro a b memA memB before
  exact outputFile_apart (plain a memA) (plain b memB) (ne_of_lt before)

end Sources

/-- When no file name is more than a name, the files of the plan are apart and lie in the directory itself,
and after a successful run each holds the source of its own class. -/
theorem writeSources_apart {r : Renderer} {forest : List ClassDef} {sources : Sources} {project : Project}
    (rendered : (r.render forest).result = .ok sources)
    (plain : ∀ name ∈ sources.keys, Path.IsPlain (project.fileName name)) (dir : String) :
    (outputPlan dir project sources).Pairwise OutputFile.Apart ∧
    (∀ f ∈ outputPlan dir project sources, ∀ (d : Disk) (p : Place), d.locate f.path = .ok p →
      ∃ parent, d.locate dir = .ok parent ∧ p = parent ++ [project.fileName f.className]) ∧
    ∀ d d' : Disk, writeSources dir project sources d = (d', .ok ()) →
      (∀ s ∈ sources, d'.find (outputFile dir project s.1).path = .ok (.file (Text.toUtf8 s.2))) ∧
      ∀ p, d'.entry? p ≠ d.entry? p →
        (d.entry? p = none ∧ d'.entry? p = some .directory ∧
          ∃ front, front <+: Path.components dir ∧ d'.walk (d.startOf dir) front = .ok p) ∨
        ∃ parent, d'.locate dir = .ok parent ∧ ∃ s ∈ sources, p = parent ++ [project.fileName s.1] := by
  have sorted := (Renderer.holdsLast_of_render rendered).sorted
  have plain' : ∀ s ∈ sources, Path.IsPlain (project.fileName s.1) := fun s mem =>
    plain s.1 (List.mem_map_of_mem mem)
  refine ⟨outputPlan_apart sorted plain, fun f mem d p led => ?_, fun d d' wrote => ?_⟩
  · obtain ⟨name, memName, rfl⟩ := List.mem_map.1 mem
    exact Disk.locate_join (plain name memName) led
  · have w := written_of_writeSources wrote
    refine ⟨fun s mem => ?_, fun p changed => ?_⟩
    · obtain ⟨p, t, led, ⟨before, after, split, led', -⟩, found⟩ := w.files s mem
      have memT : t ∈ sources := split ▸ List.mem_append_right before (List.mem_cons_self ..)
      -- Of two classes with one place, both names are the last step to it.
      have same : s.1 = t.1 := by
        by_contra differs
        exact outputFile_apart (plain' s mem) (plain' t memT) differs d' p led led'
      have one : s = t := List.inj_on_of_nodup_map sorted.nodup mem memT same
      rw [← one] at found
      exact found
    · obtain made | ⟨s, mem, led⟩ := w.changed p changed
      · exact .inl made
      · obtain ⟨parent, way, here⟩ := Disk.locate_join (plain' s mem) led
        exact .inr ⟨parent, way, s, mem, here⟩

def plainProject : Project := .standard ⟨2024, 5, 17, rfl⟩

def emptyDisk : Disk := ⟨[], []⟩

def pairForest : List ClassDef :=
  [⟨"Order", "One order", [.plain "id" "long"]⟩, ⟨"Buyer", "Who pays", [.plain "name" "String"]⟩]

/-- Two classes, one of whose names is a way to the other. -/
def aliasForest : List ClassDef :=
  [⟨"Order", "One order", [.plain "id" "long"]⟩, ⟨"./Order", "Another order", [.plain "sku" "String"]⟩]

theorem render_of_check (forest : List ClassDef) (checked : (checkForest .reject forest).result = .ok ()) :
    ((Renderer.standard plainProject).render forest).result =
      .ok (addTexts plainProject [] (forestWalk forest)) := by
  rw [render_standard, checked]

theorem writeSources_pairForest :
    ∃ sources d', ((Renderer.standard plainProject).render pairForest).result = .ok sources ∧
      (∀ name ∈ sources.keys, Path.IsPlain (plainProject.fileName name)) ∧
      writeSources "out" plainProject sources emptyDisk = (d', .ok ()) ∧
      ∀ s ∈ sources, d'.find (outputFile "out" plainProject s.1).path = .ok (.file (Text.toUtf8 s.2)) := by
  have rendered := render_of_check pairForest (by decide +kernel)
  have keys : Keyed.keys (addTexts plainProject [] (forestWalk pairForest)) = ["Buyer", "Order"] := by
    decide +kernel
  have plain : ∀ name ∈ Keyed.keys (addTexts plainProject [] (forestWalk pairForest)),
      Path.IsPlain (plainProject.fileName name) := by
    rw [keys]
    refine List.forall_mem_cons.2 ⟨?_, List.forall_mem_singleton.2 ?_⟩ <;>
      exact ⟨by decide, by decide, by decide, by decide⟩
  have wrote : (writeSources "out" plainProject (addTexts plainProject [] (forestWalk pairForest))
      emptyDisk).2 = .ok () := by
    decide +kernel
  have run := writeSources_apart rendered plain "out"
  exact ⟨_, _, rendered, plain, Prod.ext rfl wrote, (run.2.2 _ _ (Prod.ext rfl wrote)).1⟩

theorem outputPlan_shared_place :
    ¬∀ (r : Renderer) (forest : List ClassDef) (sources : Sources) (project : Project) (dir : String),
      (r.render forest).result = .ok sources →
        (outputPlan dir project sources).Pairwise OutputFile.Apart := by
  intro apart
  have rendered := render_of_check aliasForest (by decide +kernel)
  have pairs := apart _ _ _ plainProject "out" rendered
  have plan : outputPlan "out" plainProject (addTexts plainProject [] (forestWalk aliasForest)) =
      [⟨"./Order", "out/./Order.java"⟩, ⟨"Order", "out/Order.java"⟩] := by
    decide +kernel
  rw [plan] at pairs
  obtain ⟨first, -⟩ := List.pairwise_cons.1 pairs
  -- A disk that has the output directory.
  refine first _ (List.mem_singleton_self _) ⟨[(["out"], .directory)], []⟩ ["out", "Order.java"] ?_ ?_
  · decide +kernel
  · decide +kernel

end ClassTable
