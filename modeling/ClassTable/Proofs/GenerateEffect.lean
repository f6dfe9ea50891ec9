import ClassTable.Command.Generate
import ClassTable.Proofs.Building
import ClassTable.Proofs.OutputFiles

set_option autoImplicit false

namespace ClassTable

namespace GenerateCommand

variable {c : GenerateCommand} {settings : Settings} {disk : Disk} {fault : CommandFault} {sources : Sources}

def withDryRun (c : GenerateCommand) (dryRun : Bool) : GenerateCommand := { c with dryRun }

def renderer (c : GenerateCommand) (settings : Settings) (library : Template.Library) : Renderer :=
  ⟨c.project settings, library, c.policy.getD settings.policy⟩

/-- The faults that stop a command before it writes, each with the stages that came before. -/
inductive Fails (c : GenerateCommand) (settings : Settings) (disk : Disk) : CommandFault → Prop
  | table {fault : Table.FileFault}
      (read : (Table.load disk settings.columns none c.input).result = .error fault) :
      Fails c settings disk (.table c.input fault)
  | rows {rows : List Row} {fault : RowFault}
      (read : (Table.load disk settings.columns none c.input).result = .ok rows)
      (build : (buildForest rootBase rows).result = .error fault) : Fails c settings disk (.rows fault)
  | templates {forest : List ClassDef} {dir : String} {fault : Template.OverrideFault}
      (built : (loadForest settings disk c.input).result = .ok forest)
      (chosen : (c.templateDir <|> settings.templateDir) = some dir)
      (load : Template.Library.withOverrides disk dir = .error fault) :
      Fails c settings disk (.templates dir fault)
  | sources {forest : List ClassDef} {library : Template.Library} {fault : Fault}
      (built : (loadForest settings disk c.input).result = .ok forest)
      (load : c.library settings disk = .ok library)
      (render : ((c.renderer settings library).render forest).result = .error fault) :
      Fails c settings disk (.sources fault)

section Stages

theorem loadForest_error_iff :
    (loadForest settings disk c.input).result = .error fault ↔
      (∃ f, (Table.load disk settings.columns none c.input).result = .error f ∧ .table c.input f = fault) ∨
      ∃ rows f, (Table.load disk settings.columns none c.input).result = .ok rows ∧
        (buildForest rootBase rows).result = .error f ∧ .rows f = fault := by
  unfold loadForest loadRows
  rw [Logged.result_bind_eq_error]
  simp only [Logged.result_mapError_eq_error, Logged.result_mapError_eq_ok, exists_and_left]

theorem library_error_iff :
    c.library settings disk = .error fault ↔
      ∃ dir f, (c.templateDir <|> settings.templateDir) = some dir ∧
        Template.Library.withOverrides disk dir = .error f ∧ .templates dir f = fault := by
  unfold library
  cases chosen : (c.templateDir <|> settings.templateDir) with
  | none => simp
  | some dir =>
    cases load : Template.Library.withOverrides disk dir with
    | ok library => simp [load, Except.mapError]
    | error f => simp [load, Except.mapError]

theorem sources_error_iff : (c.sources settings disk).result = .error fault ↔ c.Fails settings disk fault := by
  unfold GenerateCommand.sources
  simp only [Logged.result_bind_eq_error, Logged.result_mapError_eq_error, Logged.result_ofExcept]
  constructor
  · rintro (h | ⟨forest, built, h | ⟨library, load, f, render, rfl⟩⟩)
    · obtain ⟨f, read, rfl⟩ | ⟨rows, f, read, build, rfl⟩ := loadForest_error_iff.1 h
      · exact .table read
      · exact .rows read build
    · obtain ⟨dir, f, chosen, load, rfl⟩ := library_error_iff.1 h
      exact .templates built chosen load
    · exact .sources built load render
  · intro fails
    cases fails with
    | table read => exact .inl (loadForest_error_iff.2 (.inl ⟨_, read, rfl⟩))
    | rows read build => exact .inl (loadForest_error_iff.2 (.inr ⟨_, _, read, build, rfl⟩))
    | templates built chosen load =>
      exact .inr ⟨_, built, .inl (library_error_iff.2 ⟨_, _, chosen, load, rfl⟩)⟩
    | sources built load render => exact .inr ⟨_, built, .inr ⟨_, load, _, render, rfl⟩⟩

theorem sources_ok_iff :
    (c.sources settings disk).result = .ok sources ↔
      ∃ forest library, (loadForest settings disk c.input).result = .ok forest ∧
        c.library settings disk = .ok library ∧
        ((c.renderer settings library).render forest).result = .ok sources := by
  unfold GenerateCommand.sources
  simp only [Logged.result_bind_eq_ok, Logged.result_mapError_eq_ok, Logged.result_ofExcept, renderer,
    exists_and_left]

end Stages

section Runs

theorem run_of_error (failed : (c.sources settings disk).result = .error fault) :
    (c.run settings disk).disk = disk ∧ (c.run settings disk).run.result = .error fault := by
  simp only [run, failed, and_self]

theorem run_dry (rendered : (c.sources settings disk).result = .ok sources) :
    ((c.withDryRun true).run settings disk).disk = disk ∧
      ((c.withDryRun true).run settings disk).run.result =
        .ok (outputPlan (c.dir settings) (c.project settings) sources) := by
  have same : (c.withDryRun true).sources settings disk = c.sources settings disk := rfl
  simp only [run, same, rendered]
  exact ⟨rfl, rfl⟩

theorem disk_run_dry : ((c.withDryRun true).run settings disk).disk = disk := by
  cases result : (c.sources settings disk).result with
  | error fault => exact (run_of_error (c := c.withDryRun true) result).1
  | ok sources => exact (run_dry result).1

theorem run_real {d : Disk} {done : Except OutputFault Unit}
    (rendered : (c.sources settings disk).result = .ok sources)
    (wrote : writeSources (c.dir settings) (c.project settings) sources disk = (d, done)) :
    ((c.withDryRun false).run settings disk).disk = d ∧
      ((c.withDryRun false).run settings disk).run.result =
        (done.mapError .output).map fun _ => outputPlan (c.dir settings) (c.project settings) sources := by
  have same : (c.withDryRun false).sources settings disk = c.sources settings disk := rfl
  have dir : (c.withDryRun false).dir settings = c.dir settings := rfl
  have project : (c.withDryRun false).project settings = c.project settings := rfl
  have real : (c.withDryRun false).dryRun = false := rfl
  simp only [run, same, dir, project, real, rendered, wrote, Bool.false_eq_true, if_false]
  cases done with
  | error fault => exact ⟨rfl, rfl⟩
  | ok _ => exact ⟨rfl, rfl⟩

theorem run_real_ok {files : List OutputFile} (rendered : (c.sources settings disk).result = .ok sources)
    (done : ((c.withDryRun false).run settings disk).run.result = .ok files) :
    files = outputPlan (c.dir settings) (c.project settings) sources ∧
      writeSources (c.dir settings) (c.project settings) sources disk =
        (((c.withDryRun false).run settings disk).disk, .ok ()) := by
  rcases wrote : writeSources (c.dir settings) (c.project settings) sources disk with ⟨d, result⟩
  obtain ⟨left, ended⟩ := run_real rendered wrote
  cases result with
  | error fault => cases done.symm.trans ended
  | ok _ => exact ⟨Except.ok.inj (done.symm.trans ended), by rw [left]⟩

theorem sources_of_run {files : List OutputFile} (done : (c.run settings disk).run.result = .ok files) :
    ∃ sources, (c.sources settings disk).result = .ok sources := by
  cases result : (c.sources settings disk).result with
  | ok sources => exact ⟨sources, rfl⟩
  | error fault => cases done.symm.trans (run_of_error result).2

theorem error_of_run_dry (failed : ((c.withDryRun true).run settings disk).run.result = .error fault) :
    (c.sources settings disk).result = .error fault := by
  cases result : (c.sources settings disk).result with
  | ok sources => cases failed.symm.trans (run_dry result).2
  | error other =>
    have other_fault := (run_of_error (c := c.withDryRun true) result).2
    exact congrArg Except.error (Except.error.inj (other_fault.symm.trans failed))

end Runs

structure Generated (c : GenerateCommand) (settings : Settings) (disk : Disk) (files : List OutputFile)
    (forest : List ClassDef) (library : Template.Library) (sources : Sources) : Prop where
  built : (loadForest settings disk c.input).result = .ok forest
  load : c.library settings disk = .ok library
  rendered : ((c.renderer settings library).render forest).result = .ok sources
  planned : files = outputPlan (c.dir settings) (c.project settings) sources
  ordered : (files.map OutputFile.className).Pairwise (· < ·)
  classes : ∀ name, name ∈ files.map OutputFile.className ↔ ∃ d ∈ forestWalk forest, d.name = name
  written : Written (c.dir settings) (c.project settings) sources disk
    ((c.withDryRun false).run settings disk).disk

/-- A command that fails before it writes leaves the disk as it was, and so does every dry run.  The dry run
names the files of a real run that succeeds, and its faults are those of the real run; a real run that succeeds
has written one file a class and changed nothing else. -/
theorem run_effect (c : GenerateCommand) (settings : Settings) (disk : Disk) :
    (∀ fault, c.Fails settings disk fault →
      (c.run settings disk).disk = disk ∧ (c.run settings disk).run.result = .error fault) ∧
    (((c.withDryRun true).run settings disk).disk = disk ∧
      (∀ files, ((c.withDryRun false).run settings disk).run.result = .ok files →
        ((c.withDryRun true).run settings disk).run.result = .ok files) ∧
      ∀ fault, ((c.withDryRun true).run settings disk).run.result = .error fault →
        ((c.withDryRun false).run settings disk).run.result = .error fault) ∧
    ∀ files, ((c.withDryRun false).run settings disk).run.result = .ok files →
      ∃ forest library sources, c.Generated settings disk files forest library sources := by
  refine ⟨fun fault fails => run_of_error (sources_error_iff.2 fails), ⟨disk_run_dry, ?_, ?_⟩, ?_⟩
  · intro files done
    obtain ⟨sources, rendered⟩ := sources_of_run done
    have rendered : (c.sources settings disk).result = .ok sources := rendered
    obtain ⟨planned, -⟩ := run_real_ok rendered done
    rw [(run_dry rendered).2, planned]
  · intro fault failed
    have failed : ((c.withDryRun false).sources settings disk).result = .error fault := error_of_run_dry failed
    exact (run_of_error failed).2
  · intro files done
    obtain ⟨sources, result⟩ := sources_of_run done
    have result : (c.sources settings disk).result = .ok sources := result
    obtain ⟨forest, library, built, load, rendered⟩ := sources_ok_iff.1 result
    obtain ⟨planned, wrote⟩ := run_real_ok result done
    have holds := Renderer.holdsLast_of_render rendered
    have names : files.map OutputFile.className = sources.keys := by
      rw [planned, outputPlan, List.map_map]
      exact List.map_id _
    refine ⟨forest, library, sources, built, load, rendered, planned, ?_, ?_, written_of_writeSources wrote⟩
    · rw [names]
      exact holds.sorted
    · rw [names]
      exact holds.names

def pairDisk : Disk :=
  ⟨[(["pair.csv"], .file (Text.toUtf8
    "layer,name,type,description\n0,Order,,One order\n1,id,long,\n0,Buyer,,Who pays\n1,name,String,\n"))], []⟩

def pairCommand : GenerateCommand := ⟨"pair.csv", some "out", none, none, none, false⟩

def pairSettings : Settings := .standard plainProject.created

def pairRows : List Row :=
  [⟨2, [("layer", "0"), ("variable_name", "Order"), ("data_type", ""), ("description", "One order")]⟩,
    ⟨3, [("layer", "1"), ("variable_name", "id"), ("data_type", "long"), ("description", "")]⟩,
    ⟨4, [("layer", "0"), ("variable_name", "Buyer"), ("data_type", ""), ("description", "Who pays")]⟩,
    ⟨5, [("layer", "1"), ("variable_name", "name"), ("data_type", "String"), ("description", "")]⟩]

theorem sources_pairCommand :
    (pairCommand.sources pairSettings pairDisk).result =
      .ok (addTexts plainProject [] (forestWalk pairForest)) := by
  have read : (loadRows pairSettings pairDisk pairCommand.input).result = .ok pairRows := by decide +kernel
  have scanned : scan rootBase none pairRows = .ok (forestLayout 0 pairForest, []) := by decide +kernel
  have built : (buildForest rootBase pairRows).result = .ok pairForest :=
    (buildForest_ok_iff (by decide)).2 ⟨_, scanned⟩
  have forest : (loadForest pairSettings pairDisk pairCommand.input).result = .ok pairForest :=
    Logged.result_bind_eq_ok.2 ⟨_, read, Logged.result_mapError_eq_ok.2 built⟩
  have rendered := render_of_check pairForest (by decide +kernel)
  exact sources_ok_iff.2 ⟨pairForest, .builtin, forest, rfl, rendered⟩

def lostCommand : GenerateCommand := { pairCommand with input := "lost.csv" }

theorem run_effect_pairDisk :
    (∃ forest library sources,
      ((pairCommand.withDryRun true).run pairSettings pairDisk).run.result =
        .ok [⟨"Buyer", "out/Buyer.java"⟩, ⟨"Order", "out/Order.java"⟩] ∧
      pairCommand.Generated pairSettings pairDisk
        [⟨"Buyer", "out/Buyer.java"⟩, ⟨"Order", "out/Order.java"⟩] forest library sources) ∧
    ∃ fault, lostCommand.Fails pairSettings pairDisk fault ∧
      (lostCommand.run pairSettings pairDisk).disk = pairDisk ∧
      ((lostCommand.withDryRun false).run pairSettings pairDisk).run.result = .error fault := by
  have plan : outputPlan "out" plainProject (addTexts plainProject [] (forestWalk pairForest)) =
      [⟨"Buyer", "out/Buyer.java"⟩, ⟨"Order", "out/Order.java"⟩] := by
    decide +kernel
  have wrote : (writeSources "out" plainProject (addTexts plainProject [] (forestWalk pairForest))
      pairDisk).2 = .ok () := by
    decide +kernel
  obtain ⟨-, done⟩ := run_real sources_pairCommand (show _ = (_, .ok ()) from Prod.ext rfl wrote)
  have ended : ((pairCommand.withDryRun false).run pairSettings pairDisk).run.result =
      .ok [⟨"Buyer", "out/Buyer.java"⟩, ⟨"Order", "out/Order.java"⟩] := plan ▸ done
  obtain ⟨-, ⟨-, foretold, -⟩, generated⟩ := run_effect pairCommand pairSettings pairDisk
  obtain ⟨forest, library, sources, all⟩ := generated _ ended
  have lost : (Table.load pairDisk pairSettings.columns none "lost.csv").result =
      .error (.unopenable "lost.csv" .missing) := by
    decide +kernel
  have fails : lostCommand.Fails pairSettings pairDisk (.table "lost.csv" (.unopenable "lost.csv" .missing)) :=
    .table lost
  have dryFails : (lostCommand.withDryRun true).Fails pairSettings pairDisk
      (.table "lost.csv" (.unopenable "lost.csv" .missing)) :=
    .table lost
  obtain ⟨stopped, ⟨-, -, same⟩, -⟩ := run_effect lostCommand pairSettings pairDisk
  have dryEnded := (run_effect (lostCommand.withDryRun true) pairSettings pairDisk).1 _ dryFails
  exact ⟨⟨forest, library, sources, foretold _ ended, all⟩, _, fails, (stopped _ fails).1, same _ dryEnded.2⟩

end GenerateCommand
end ClassTable
