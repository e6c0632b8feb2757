import Stencil.Proofs.Api.Schemas
import Stencil.Proofs.Pass.Output
import Stencil.Proofs.Pass.Warnings
import Stencil.Proofs.Target.Names

/-!
# A file for each model

The usual file of a set is rendered for each model and named after it.  For such a file
the main statement goes all the way from the document to the output directory: each schema
that is no enumeration has one file with its name there, in document order, whatever
characters the names hold, as long as none has a slash or starts with a blank.
-/

namespace Stencil

/-! ## Names of files -/

namespace Text

theorem trim_of_ends {text : List Char} (hfirst : text.head?.any isBlank = false)
    (hlast : text.getLast?.any isBlank = false) : trim text = text := by
  have hstart : trimStart text = text := by
    cases text with
    | nil => rfl
    | cons char rest => exact List.dropWhile_cons_of_neg (by simpa using hfirst)
  have hend : text.reverse.dropWhile isBlank = text.reverse := by
    rw [← List.head?_reverse] at hlast
    cases hreverse : text.reverse with
    | nil => rfl
    | cons char rest =>
        rw [hreverse] at hlast
        exact List.dropWhile_cons_of_neg (by simpa using hlast)
  rw [trim, hstart, trimEnd, hend, List.reverse_reverse]

end Text

/-- A name that can stand at the front of the name of a file. -/
structure OpensFileName (name : String) : Prop where
  no_slash : '/' ∉ name.toList
  no_blank : name.toList.head?.any Text.isBlank = false

instance (name : String) : Decidable (OpensFileName name) :=
  decidable_of_iff ('/' ∉ name.toList ∧ name.toList.head?.any Text.isBlank = false)
    ⟨fun ⟨hslash, hblank⟩ => ⟨hslash, hblank⟩, fun hname => ⟨hname.no_slash, hname.no_blank⟩⟩

namespace OpensFileName

variable {name : String}

theorem trimmed_append (hname : OpensFileName name) :
    Text.trimmed (name ++ ".go") = name ++ ".go" := by
  have hends : Text.trim (name ++ ".go").toList = (name ++ ".go").toList := by
    rw [String.toList_append]
    apply Text.trim_of_ends
    · cases hchars : name.toList with
      | nil => decide
      | cons first rest => simpa [hchars] using hname.no_blank
    · rw [List.getLast?_append_of_ne_nil _ (by decide)]
      decide
  rw [Text.trimmed, hends, String.ofList_toList]

theorem isPlain_append (hname : OpensFileName name) : Path.IsPlain (name ++ ".go") := by
  have hlast : ∀ other : String, other.toList.getLast? ≠ some 'o' → name ++ ".go" ≠ other := by
    rintro other hother rfl
    exact hother (by simp)
  refine ⟨hlast "" (by simp), ?_, hlast "." (by decide), hlast ".." (by decide)⟩
  simpa using hname.no_slash

end OpensFileName

/-! ## The target of the file -/

/-- A file for each model that is named after it, without a directory of its own. -/
structure FileSpec.NamesModels (file : FileSpec) : Prop where
  scope_eq : file.scope = .modelEach
  targetDirectory_eq : file.targetDirectory = ""
  targetName_eq : file.targetName = "{{.Name}}.go"

/-- The job for a model when the file is the first of its set. -/
def Job.ofModel (file : FileSpec) (model : Api.Model) : Job :=
  ⟨0, file, .model model⟩

namespace CompiledSet

variable {engine : Engine} (hwrites : engine.WritesNames) (set : CompiledSet engine)
include hwrites

theorem expressionText?_empty (context : Value.Fields) :
    set.expressionText? (directoryName 0) "" context = some "" := by
  have hnormal : Target.normalizeExpression "" = "" := by decide +kernel
  rw [expressionText?, hnormal, hwrites.renderText_words _ _ (by decide)]
  rfl

/-- The name of the target is that of the model. -/
theorem expressionText?_name {context : Value.Fields} {name : String}
    (hname : Value.field? context "name" = some (.string name)) :
    set.expressionText? (fileName 0) "{{.Name}}.go" context =
      some (Text.trimmed (name ++ ".go")) := by
  have hnormal : Target.normalizeExpression "{{.Name}}.go" = "{{ name}}" ++ ".go" := by
    decide +kernel
  rw [expressionText?, hnormal, hwrites.renderText_name _ _ (by decide) hname]
  rfl

end CompiledSet

namespace Pass

variable {engine : Engine}

def modelRecord (pass : Pass engine) (file : FileSpec) (name : String) : Record :=
  ⟨pass.output.join ⟨name ++ ".go"⟩, file.source,
    if pass.options.dryRun then .dryRun else .rendered⟩

theorem components_modelRecord (pass : Pass engine) (file : FileSpec) {name : String}
    (hname : OpensFileName name) :
    (pass.modelRecord file name).path.components =
      pass.output.components ++ [.normal (name ++ ".go")] :=
  Path.components_join_of_isPlain pass.output hname.isPlain_append

/-- Different names have files at different places. -/
theorem nodup_components_modelRecord (pass : Pass engine) (file : FileSpec) {names : List String}
    (hnodup : names.Nodup) (hnames : ∀ name ∈ names, OpensFileName name) :
    ((names.map (pass.modelRecord file)).map fun record => record.path.components).Nodup := by
  rw [List.map_map]
  apply hnodup.map_on
  intro left hleft right hright heq
  have hcomponents : pass.output.components ++ [.normal (left ++ ".go")] =
      pass.output.components ++ [.normal (right ++ ".go")] := by
    rw [← pass.components_modelRecord file (hnames left hleft),
      ← pass.components_modelRecord file (hnames right hright)]
    exact heq
  simpa using hcomponents

section Models

variable {disk : Disk} {directory : Path} {manifest : Manifest} {pass : Pass engine}
  {file : FileSpec}
variable (hload : CompiledSet.load disk directory manifest = .ok pass.set)
variable (hfiles : manifest.files = [file]) (hfile : file.NamesModels)
include hload hfiles hfile

/-- There is one job for each model, in order. -/
theorem jobs_of_models : pass.jobs = pass.document.models.map (Job.ofModel file) := by
  obtain ⟨hmanifest, -⟩ := CompiledSet.exists_sources_of_load hload
  rw [jobs, hmanifest, hfiles, jobsFrom, jobsFrom, hfile.scope_eq, Entity.expand, List.map_map,
    List.append_nil]
  rfl

variable (hkeeps : engine.KeepsTexts) (hwrites : engine.WritesNames)
include hkeeps hwrites

/-- The file for a model has the name of the model, at the top of the output directory. -/
theorem location_of_model {model : Api.Model} (hname : OpensFileName model.name) :
    pass.location (.ofModel file model) = .ok ⟨[], model.name ++ ".go"⟩ := by
  let job : Job := .ofModel file model
  have hmem := @CompiledSet.mem_targetTexts 0 0 manifest.files file (by rw [hfiles]; rfl)
  rw [hfile.targetDirectory_eq, hfile.targetName_eq] at hmem
  have hdirectory : pass.set.renderPart 0 (CompiledSet.directoryName 0) (pass.context job) =
      .ok "" := by
    apply Traversal.eq_ok_of_toOption
    rw [CompiledSet.renderPart_eq_expressionText? hkeeps hload hmem.1]
    exact pass.set.expressionText?_empty hwrites _
  have hfileName : pass.set.renderPart 0 (CompiledSet.fileName 0) (pass.context job) =
      .ok (model.name ++ ".go") := by
    have hbound : Value.field? (pass.context job) "name" = some (.string model.name) :=
      field?_name_entityContext ..
    apply Traversal.eq_ok_of_toOption
    rw [CompiledSet.renderPart_eq_expressionText? hkeeps hload hmem.2,
      pass.set.expressionText?_name hwrites hbound, hname.trimmed_append]
  exact location_eq_ok_iff.mpr ⟨"", model.name ++ ".go",
    CompiledSet.renderTarget_eq_ok_iff.mpr ⟨hdirectory, hfileName⟩,
    Target.Location.resolve_of_isPlain hname.isPlain_append⟩

variable (hignored : pass.options.ignored = [])
variable (hallowed : pass.options.allows .modelEach = true)
include hignored hallowed

/-- The plan for a model whose body is rendered, and its record. -/
theorem exists_plan_of_model {model : Api.Model} (hname : OpensFileName model.name)
    (hbody : ∃ body,
      pass.set.renderBody file.source (pass.context (.ofModel file model)) = .ok body) :
    ∃ plan, pass.plan (.ofModel file model) = .ok plan ∧
      plan.record pass.options.dryRun file.source = pass.modelRecord file model.name := by
  obtain ⟨body, hbody⟩ := hbody
  have hkept : ∀ fileName path, pass.options.ignores fileName path = false := by
    intro fileName path
    simp [Options.ignores, hignored]
  have haction : pass.action (.ofModel file model) ⟨[], model.name ++ ".go"⟩ =
      .ok (.emit body) := by
    rw [action_of_allowed (hkept _ _)]
    · exact congrArg (Except.map Action.emit) hbody
    · rw [← hallowed, ← hfile.scope_eq]
      rfl
  have hlocation := location_of_model hload hfiles hfile hkeeps hwrites hname
  exact ⟨_, plan_eq_ok_iff.mpr ⟨_, _, hlocation, haction, rfl⟩, rfl⟩

theorem exists_plans_of_models {models : List Api.Model}
    (hnames : ∀ model ∈ models, OpensFileName model.name)
    (hbodies : ∀ model ∈ models, ∃ body,
      pass.set.renderBody file.source (pass.context (.ofModel file model)) = .ok body) :
    ∃ plans,
      List.Forall₂ (fun job plan => pass.plan job = .ok plan)
        (models.map (Job.ofModel file)) plans ∧
      List.zipWith (fun (job : Job) plan => plan.record pass.options.dryRun job.file.source)
          (models.map (Job.ofModel file)) plans =
        (models.map Api.Model.name).map (pass.modelRecord file) ∧
      plans.map Plan.path =
        ((models.map Api.Model.name).map (pass.modelRecord file)).map Record.path := by
  induction models with
  | nil => exact ⟨[], .nil, rfl, rfl⟩
  | cons model rest ih =>
      obtain ⟨plans, hplans, hrecords, hpaths⟩ :=
        ih (fun other hother => hnames other (List.mem_cons_of_mem _ hother))
          (fun other hother => hbodies other (List.mem_cons_of_mem _ hother))
      obtain ⟨plan, hplan, hrecord⟩ :=
        exists_plan_of_model hload hfiles hfile hkeeps hwrites hignored hallowed
        (hnames model List.mem_cons_self) (hbodies model List.mem_cons_self)
      refine ⟨plan :: plans, .cons hplan hplans, ?_, ?_⟩
      · simp only [List.map_cons, List.zipWith_cons_cons, hrecords]
        exact congrArg (· :: _) hrecord
      · simp only [List.map_cons, hpaths, ← hrecord]
        rfl

end Models

/-- A set with one file, which is rendered for each model and named after it, leaves one
record for each schema that is no enumeration, in document order; the files are at
different places, and there is no warning.  Of the engine it is relied on that a library keeps the
last text of each name, and that the variable for a name is written as it is. -/
theorem run_of_models (hkeeps : engine.KeepsTexts) (hwrites : engine.WritesNames) {σ : Type}
    {disk : Disk} {directory : Path} {manifest : Manifest} {pass : Pass engine} {file : FileSpec}
    (hload : CompiledSet.load disk directory manifest = .ok pass.set)
    (hfiles : manifest.files = [file]) (hfile : file.NamesModels) {raw : Value}
    (hraw : raw.IsSettled) (hdocument : Api.Document.ofValue raw = .ok pass.document)
    (hnames : ∀ name ∈ Api.modelNames raw, OpensFileName name)
    (hbodies : ∀ job ∈ pass.jobs, ∃ body,
      pass.set.renderBody job.file.source (pass.context job) = .ok body)
    (hignored : pass.options.ignored = []) (hallowed : pass.options.allows .modelEach = true)
    {writer : Writer σ}
    (hreliable : ∀ device path content, (writer.write device path content).1 = .ok ())
    (device : σ) :
    ∃ final, pass.run writer device = (.ok (), final) ∧
      final.records = (Api.modelNames raw).map (pass.modelRecord file) ∧
      (∀ name ∈ Api.modelNames raw, (pass.modelRecord file name).path.components =
        pass.output.components ++ [.normal (name ++ ".go")]) ∧
      (final.records.map fun record => record.path.components).Nodup ∧
      final.events = [] := by
  have hmodels := Api.map_name_models_of_ofValue hdocument
  have hjobs := jobs_of_models hload hfiles hfile
  have hopens : ∀ model ∈ pass.document.models, OpensFileName model.name := by
    intro model hmodel
    apply hnames
    rw [← hmodels]
    exact List.mem_map_of_mem hmodel
  obtain ⟨plans, hplans, hrecords, hpaths⟩ :=
    exists_plans_of_models hload hfiles hfile hkeeps hwrites hignored hallowed hopens (by
      intro model hmodel
      apply hbodies (.ofModel file model)
      rw [hjobs]
      exact List.mem_map_of_mem hmodel)
  rw [hmodels] at hrecords hpaths
  rw [← hjobs] at hplans hrecords
  have hwritten : writer.writeAll (plans.flatMap fun plan => plan.calls pass.options.dryRun)
      (Progress.start device).device = (.ok (), _) :=
    Prod.ext (Writer.writeAll_of_reliable hreliable _ _) rfl
  obtain ⟨final, hrun, -, hfinal⟩ := exists_final_of_plans hplans hwritten
  have hnodup := pass.nodup_components_modelRecord file (Api.nodup_modelNames hraw) hnames
  refine ⟨final, hrun, ?_, ?_, ?_, ?_⟩
  · rw [hfinal, hrecords]
    rfl
  · intro name hname
    exact pass.components_modelRecord file (hnames name hname)
  · rw [hfinal, hrecords]
    exact hnodup
  · apply events_of_distinct hplans _ _ hrun
    · rw [hpaths]
      apply List.Nodup.of_map Path.components
      rw [List.map_map]
      exact hnodup
    · intro plan _
      rfl

/-- An older document with two models, whose names hold dots, blanks, quotes and braces,
around an enumeration. -/
def oddValue : Value :=
  .object [("swagger", .string "2.0"),
    ("info", .object [("title", .string "Odd"), ("version", .string "1")]),
    ("paths", .object []),
    ("definitions", .object [("v1.Pet \"\x7b\x7b .Name \x7d\x7d\"", .object []),
      ("Color", .object [("enum", .array [.string "red"])]), ("Pet ", .null)])]

/-- One file, which is rendered for each model. -/
def oddManifest : Manifest :=
  ⟨"odd", "", [⟨"", "model", [], "", "{{.Name}}.go", .modelEach⟩]⟩

def oddPass (set : CompiledSet) (document : Api.Document) : Pass :=
  ⟨set, document, ⟨"/out"⟩, ⟨false, [.modelEach], []⟩⟩

theorem run_of_models_odd :
    ∃ set document, CompiledSet.load petDisk ⟨"/"⟩ oddManifest = .ok set ∧
      Api.Document.ofValue oddValue = .ok document ∧
      ∃ final, (oddPass set document).run (.inMemory none) [] = (.ok (), final) ∧
        final.records =
          [⟨⟨"/out/v1.Pet \"\x7b\x7b .Name \x7d\x7d\".go"⟩, "model", .rendered⟩,
            ⟨⟨"/out/Pet .go"⟩, "model", .rendered⟩] ∧
        final.events = [] := by
  have hset : ((CompiledSet.load petDisk ⟨"/"⟩ oddManifest).toOption.bind fun set =>
      (Api.Document.ofValue oddValue).toOption.map fun document =>
        (oddPass set document).jobs.all fun job => (set.renderBody job.file.source
          ((oddPass set document).context job)).toOption.isSome) = some true := by
    decide +kernel
  obtain ⟨set, hload, hrest⟩ := Option.bind_eq_some_iff.mp hset
  obtain ⟨document, hdocument, hall⟩ := Option.map_eq_some_iff.mp hrest
  have hload := Traversal.eq_ok_of_toOption hload
  have hdocument := Traversal.eq_ok_of_toOption hdocument
  have hbodies : ∀ job ∈ (oddPass set document).jobs, ∃ body,
      set.renderBody job.file.source ((oddPass set document).context job) = .ok body := by
    intro job hjob
    obtain ⟨body, hbody⟩ := Option.isSome_iff_exists.mp (List.all_eq_true.mp hall job hjob)
    exact ⟨body, Traversal.eq_ok_of_toOption hbody⟩
  have hodd : Api.modelNames oddValue = ["v1.Pet \"\x7b\x7b .Name \x7d\x7d\"", "Pet "] := by
    decide +kernel
  have hnames : ∀ name ∈ Api.modelNames oddValue, OpensFileName name := by
    rw [hodd]
    decide +kernel
  obtain ⟨final, hrun, hrecords, -, -, hevents⟩ :=
    @run_of_models Template.engine Template.engine_keepsTexts Template.engine_writesNames _
      petDisk ⟨"/"⟩ oddManifest (oddPass set document) _ hload rfl ⟨rfl, rfl, rfl⟩ oddValue
      ⟨oddValue, rfl⟩ hdocument hnames hbodies rfl rfl (.inMemory none) (fun _ _ _ => rfl) []
  refine ⟨set, document, hload, hdocument, final, hrun, hrecords.trans ?_, hevents⟩
  rw [hodd]
  have hpaths : ["v1.Pet \"\x7b\x7b .Name \x7d\x7d\"", "Pet "].map (fun name =>
      (⟨(Path.mk "/out").join ⟨name ++ ".go"⟩, "model", .rendered⟩ : Record)) =
      [⟨⟨"/out/v1.Pet \"\x7b\x7b .Name \x7d\x7d\".go"⟩, "model", .rendered⟩,
        ⟨⟨"/out/Pet .go"⟩, "model", .rendered⟩] := by
    decide +kernel
  exact hpaths

end Pass

end Stencil
