import Mathlib.Data.List.Forall2
import Stencil.Proofs.Compilation.Targets
import Stencil.Proofs.Pass.Steps

/-!
# Records of a pass

A pass that succeeds leaves one record for each file and each entity that the scope
of the file covers, in the order of the manifest and of the document.  What a record
holds is stated here without the pass: it comes from the expressions of the file, the
entity and the options alone.
-/

namespace Stencil.Pass

variable {engine : Engine}

/-- What becomes of a file.  Names are looked at before scopes, and scopes before it
matters whether the run is a dry run. -/
def expectedOutcome (options : Options) (scope : Scope) (location : Target.Location) : Outcome :=
  if location.fileName ∈ options.ignored ∨
      String.intercalate "/" location.names ∈ options.ignored then .skippedByName
  else if options.scopes ≠ [] ∧ scope ∉ options.scopes then .skippedByScope
  else if options.dryRun then .dryRun
  else .rendered

/-- The record for the file at a place of the manifest and an entity, when the
expressions of the file have texts that make a target. -/
def expectedRecord (pass : Pass engine) (index : ℕ) (file : FileSpec) (entity : Entity) :
    Option Record := do
  let context := entityContext pass.set.manifest pass.document file entity
  let directory ← pass.set.expressionText? (CompiledSet.directoryName index)
    file.targetDirectory context
  let name ← pass.set.expressionText? (CompiledSet.fileName index) file.targetName context
  let location ← (Target.Location.resolve directory name).toOption
  some ⟨pass.output.join location.path, file.source,
    expectedOutcome pass.options file.scope location⟩

/-! ## Jobs -/

/-- The jobs are those of the files, each with its index. -/
theorem jobsFrom_eq_flatMap (document : Api.Document) (start : ℕ) (files : List FileSpec) :
    jobsFrom document start files = (files.zipIdx start).flatMap fun (file, index) =>
      (Entity.expand file.scope document).map (Job.mk index file) := by
  induction files generalizing start with
  | nil => rfl
  | cons file rest ih => rw [jobsFrom, ih, List.zipIdx_cons, List.flatMap_cons]

/-- A job is for the file at its place. -/
theorem file_of_mem_jobs {pass : Pass engine} {job : Job} (hjob : job ∈ pass.jobs) :
    pass.set.manifest.files[job.index]? = some job.file := by
  rw [jobs, jobsFrom_eq_flatMap] at hjob
  obtain ⟨⟨file, index⟩, hfile, hexpanded⟩ := List.mem_flatMap.mp hjob
  obtain ⟨entity, -, rfl⟩ := List.mem_map.mp hexpanded
  exact List.mem_zipIdx_iff_getElem?.mp hfile

/-! ## Plans -/

/-- What is done with a location agrees with the outcome that is expected. -/
theorem outcome_of_action {pass : Pass engine} {job : Job} {location : Target.Location}
    {action : Action} (haction : pass.action job location = .ok action) :
    action.outcome pass.options.dryRun =
      expectedOutcome pass.options job.file.scope location := by
  have hname : pass.options.ignores location.fileName location.path.text = true ↔
      location.fileName ∈ pass.options.ignored ∨
        String.intercalate "/" location.names ∈ pass.options.ignored := by
    simp [Options.ignores, Target.Location.path, Path.ofNames]
  have hscope : pass.options.allows job.file.scope = false ↔
      pass.options.scopes ≠ [] ∧ job.file.scope ∉ pass.options.scopes := by
    simp [Options.allows]
  rcases cases_of_action haction with
    ⟨hignores, rfl⟩ | ⟨hignores, hallows, rfl⟩ | ⟨hignores, hallows, body, -, rfl⟩
  · rw [expectedOutcome, if_pos (hname.mp hignores), Action.outcome]
  · rw [expectedOutcome, if_neg (mt hname.mpr (by simp [hignores])),
      if_pos (hscope.mp hallows), Action.outcome]
  · rw [expectedOutcome, if_neg (mt hname.mpr (by simp [hignores])),
      if_neg (mt hscope.mpr (by simp [hallows])), Action.outcome]

/-- A job that has a plan leaves the record that is expected for it. -/
theorem expectedRecord_of_plan (hkeeps : engine.KeepsTexts) {disk : Disk} {directory : Path}
    {manifest : Manifest} {pass : Pass engine}
    (hload : CompiledSet.load disk directory manifest = .ok pass.set)
    {job : Job} (hfile : manifest.files[job.index]? = some job.file) {plan : Plan}
    (hplan : pass.plan job = .ok plan) :
    pass.expectedRecord job.index job.file job.entity =
      some (plan.record pass.options.dryRun job.file.source) := by
  obtain ⟨location, action, hlocation, haction, rfl⟩ := plan_eq_ok_iff.mp hplan
  obtain ⟨directoryText, nameText, htarget, hresolve⟩ := location_eq_ok_iff.mp hlocation
  obtain ⟨hdirectory, hname⟩ := CompiledSet.renderTarget_eq_ok_iff.mp htarget
  have hmem := @CompiledSet.mem_targetTexts 0 _ _ _ hfile
  rw [Nat.zero_add] at hmem
  have hdirectoryText := CompiledSet.renderPart_eq_expressionText? hkeeps hload hmem.1 job.index
    (pass.context job)
  have hnameText := CompiledSet.renderPart_eq_expressionText? hkeeps hload hmem.2 job.index
    (pass.context job)
  rw [hdirectory, Pass.context] at hdirectoryText
  rw [hname, Pass.context] at hnameText
  simp [expectedRecord, ← hdirectoryText, ← hnameText, Except.toOption, hresolve, Plan.record,
    outcome_of_action haction]

/-! ## The records -/

/-- A pass that succeeds has the records of its end. -/
theorem records_eq_ok_iff {σ : Type} {pass : Pass engine} {writer : Writer σ} {device : σ}
    {records : List Record} :
    pass.records writer device = .ok records ↔
      ∃ final, pass.run writer device = (.ok (), final) ∧ final.records = records := by
  rw [Pass.records]
  rcases pass.run writer device with ⟨fault | _, final⟩ <;> simp

private theorem map_some_zipWith {α β γ : Type} {expected : α → Option γ} {made : α → β → γ}
    {left : List α} {right : List β}
    (hmade : List.Forall₂ (fun a b => expected a = some (made a b)) left right) :
    (List.zipWith made left right).map some = left.map expected := by
  induction hmade with
  | nil => rfl
  | cons hfirst _ ih => rw [List.zipWith_cons_cons, List.map_cons, List.map_cons, ih, hfirst]

/-- The records of a pass that succeeds are those expected for the files of the
manifest in order, and for each file for the entities that its scope covers in order;
so there are as many as there are entities for all files together.  All that is relied on of
the engine is that a library keeps the last text of each name. -/
theorem records_eq_expected (hkeeps : engine.KeepsTexts) {σ : Type} {disk : Disk}
    {directory : Path} {manifest : Manifest} {pass : Pass engine}
    (hload : CompiledSet.load disk directory manifest = .ok pass.set)
    {writer : Writer σ} {device : σ} {records : List Record}
    (hrecords : pass.records writer device = .ok records) :
    records.map some =
        manifest.files.zipIdx.flatMap (fun (file, index) =>
          (Entity.expand file.scope pass.document).map (pass.expectedRecord index file)) ∧
      records.length =
        (manifest.files.map fun file => (Entity.expand file.scope pass.document).length).sum := by
  obtain ⟨hmanifest, -⟩ := CompiledSet.exists_sources_of_load hload
  obtain ⟨final, hrun, rfl⟩ := records_eq_ok_iff.mp hrecords
  obtain ⟨plans, hplans, hfinal, -⟩ := exists_plans_of_runJobs hrun
  have hfile : ∀ job ∈ pass.jobs, manifest.files[job.index]? = some job.file := by
    intro job hjob
    rw [← hmanifest]
    exact file_of_mem_jobs hjob
  have hexpected : final.records.map some =
      pass.jobs.map fun job => pass.expectedRecord job.index job.file job.entity := by
    rw [hfinal]
    refine map_some_zipWith (((List.forall₂_and_left _ _).mpr ⟨hfile, hplans⟩).imp ?_)
    rintro job plan ⟨hjob, hplan⟩
    exact expectedRecord_of_plan hkeeps hload hjob hplan
  have hrecord : final.records.map some =
      manifest.files.zipIdx.flatMap fun (file, index) =>
        (Entity.expand file.scope pass.document).map (pass.expectedRecord index file) := by
    rw [hexpected, jobs, jobsFrom_eq_flatMap, hmanifest, List.map_flatMap]
    simp only [List.map_map]
    rfl
  refine ⟨hrecord, ?_⟩
  calc
    final.records.length = (final.records.map some).length := (List.length_map _).symm
    _ = (manifest.files.zipIdx.map fun (file, _) =>
          (Entity.expand file.scope pass.document).length).sum := by
      rw [hrecord, List.length_flatMap]
      simp only [List.length_map]
    _ = (manifest.files.map fun file =>
          (Entity.expand file.scope pass.document).length).sum := by
      rw [← List.zipIdx_map_fst 0 manifest.files, List.map_map]
      simp only [List.zipIdx_map_fst]
      rfl

/-! ## A set for pets -/

/-- One file for each model, and one for the document. -/
def petManifest : Manifest :=
  ⟨"pets", "", [⟨"", "model", [], "api", "{{.Name}}.go", .modelEach⟩,
    ⟨"", "model", [], "", "all.go", .apiOnce⟩]⟩

def petDisk : Disk :=
  ⟨[(["model"], .file "type {{ name }}".toUTF8)], []⟩

def petDocument : Api.Document :=
  ⟨"3.1.0", ⟨"Pets", "1", none⟩, [], [],
    [⟨"Dog", none, [], .null⟩, ⟨"Cat", none, [], .null⟩], [], .null⟩

/-- A pass with the set for pets that leaves out one of its models by name. -/
def petPass (set : CompiledSet) : Pass :=
  ⟨set, petDocument, ⟨"out"⟩, ⟨false, [.modelEach], ["api/Cat.go"]⟩⟩

theorem exists_petRecords :
    ∃ set, CompiledSet.load petDisk ⟨"/"⟩ petManifest = .ok set ∧
      (petPass set).records (.inMemory none) [] =
        .ok [⟨⟨"out/api/Dog.go"⟩, "model", .rendered⟩,
          ⟨⟨"out/api/Cat.go"⟩, "model", .skippedByName⟩,
          ⟨⟨"out/all.go"⟩, "model", .skippedByScope⟩] := by
  have hrun : ((CompiledSet.load petDisk ⟨"/"⟩ petManifest).toOption.bind fun set =>
      ((petPass set).records (.inMemory none) []).toOption) =
      some [⟨⟨"out/api/Dog.go"⟩, "model", .rendered⟩,
        ⟨⟨"out/api/Cat.go"⟩, "model", .skippedByName⟩,
        ⟨⟨"out/all.go"⟩, "model", .skippedByScope⟩] := by
    decide +kernel
  obtain ⟨set, hload, hrecords⟩ := Option.bind_eq_some_iff.mp hrun
  exact ⟨set, Traversal.eq_ok_of_toOption hload, Traversal.eq_ok_of_toOption hrecords⟩

theorem records_eq_expected_pets :
    ∃ set, CompiledSet.load petDisk ⟨"/"⟩ petManifest = .ok set ∧
      petManifest.files.zipIdx.flatMap (fun (file, index) =>
          (Entity.expand file.scope petDocument).map ((petPass set).expectedRecord index file)) =
        [some ⟨⟨"out/api/Dog.go"⟩, "model", .rendered⟩,
          some ⟨⟨"out/api/Cat.go"⟩, "model", .skippedByName⟩,
          some ⟨⟨"out/all.go"⟩, "model", .skippedByScope⟩] := by
  obtain ⟨set, hload, hrecords⟩ := exists_petRecords
  exact ⟨set, hload, (records_eq_expected Template.engine_keepsTexts hload hrecords).1.symm⟩

end Stencil.Pass
