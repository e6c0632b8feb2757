import Stencil.Compilation
import Stencil.Log
import Stencil.Render.Context
import Stencil.Render.Options
import Stencil.Render.Report
import Stencil.Render.Writer
import Stencil.Target.Location

/-!
# Passes

A pass goes through the files of a manifest in order, and for each file through
the entities that its scope covers.  For each such job it first plans: it finds
the target, and renders the body unless the job is to be left out.  Then it
carries the plan out.  The first error ends the pass; what has been done by then
stays.
-/

namespace Stencil

/-- A file of a manifest and an entity for which it is rendered. -/
structure Job where
  /-- The place of the file in the manifest. -/
  index : Nat
  file : FileSpec
  entity : Entity

/-- What a pass works with. -/
structure Pass (engine : Engine := Template.engine) where
  set : CompiledSet engine
  document : Api.Document
  /-- The directory below which all files are written. -/
  output : Path
  options : Options

/-- What is to be done for a job. -/
inductive Action where
  /-- Nothing, for a reason. -/
  | skip (outcome : Outcome)
  /-- Write this body. -/
  | emit (body : String)
deriving DecidableEq, Repr

/-- A target and what is to be done with it. -/
structure Plan where
  path : Path
  action : Action
deriving DecidableEq, Repr

variable {engine : Engine}

namespace Pass

def jobsFrom (document : Api.Document) (index : Nat) : List FileSpec → List Job
  | [] => []
  | file :: rest =>
      (Entity.expand file.scope document).map (Job.mk index file) ++
        jobsFrom document (index + 1) rest

def jobs (pass : Pass engine) : List Job :=
  jobsFrom pass.document 0 pass.set.manifest.files

def context (pass : Pass engine) (job : Job) : Value.Fields :=
  entityContext pass.set.manifest pass.document job.file job.entity

/-- Where the file of a job goes, below the output directory. -/
def location (pass : Pass engine) (job : Job) : Except Error Target.Location := do
  let (directory, fileName) ← pass.set.renderTarget job.index (pass.context job)
  match Target.Location.resolve directory fileName with
  | .ok location => .ok location
  | .error fault => .error (.template (job.file.source ++ ": " ++ fault.message))

/-- What is to be done for a job whose target is known.  Names are looked at
before scopes. -/
def action (pass : Pass engine) (job : Job) (location : Target.Location) : Except Error Action :=
  if pass.options.ignores location.fileName location.path.text then .ok (.skip .skippedByName)
  else if !pass.options.allows job.file.scope then .ok (.skip .skippedByScope)
  else (pass.set.renderBody job.file.source (pass.context job)).map .emit

def plan (pass : Pass engine) (job : Job) : Except Error Plan := do
  let location ← pass.location job
  let action ← pass.action job location
  .ok ⟨pass.output.join location.path, action⟩

end Pass

/-- How far a pass has come. -/
structure Progress (σ : Type) where
  /-- The records so far, in order. -/
  records : List Record
  /-- The targets that have been rendered, each with its last template. -/
  targets : List (Path × String)
  /-- The warnings so far, in order. -/
  events : List Event
  /-- What the writer has changed. -/
  device : σ

namespace Progress

def start {σ : Type} (device : σ) : Progress σ :=
  ⟨[], [], [], device⟩

def note {σ : Type} (progress : Progress σ) (path : Path) (template : String) (outcome : Outcome) :
    Progress σ :=
  { progress with records := progress.records ++ [⟨path, template, outcome⟩] }

/-- Notes the template of a target, which takes the place of an earlier one. -/
def putTarget (path : Path) (template : String) : List (Path × String) → List (Path × String)
  | [] => [(path, template)]
  | target :: rest =>
      if target.1 = path then (path, template) :: rest else target :: putTarget path template rest

/-- The warning that a target is rendered again. -/
def repeatedTarget (path : Path) (first second : String) : Event :=
  ⟨.warning, "Multiple renders resolve to the same target path, the last one wins",
    [("path", path.text), ("first", first), ("second", second)]⟩

/-- Notes that a target is rendered, with a warning when it has been before. -/
def enter {σ : Type} (progress : Progress σ) (path : Path) (template : String) : Progress σ :=
  { progress with
    targets := putTarget path template progress.targets
    events := progress.events ++
      ((progress.targets.lookup path).map fun first => repeatedTarget path first template).toList }

def perform {σ : Type} (writer : Writer σ) (dryRun : Bool) (template : String) (plan : Plan)
    (progress : Progress σ) : Except Error Unit × Progress σ :=
  match plan.action with
  | .skip outcome => (.ok (), progress.note plan.path template outcome)
  | .emit body =>
      let entered := progress.enter plan.path template
      if dryRun then (.ok (), entered.note plan.path template .dryRun)
      else
        match writer.write entered.device plan.path body with
        | (.ok (), device) =>
            (.ok (), ({ entered with device := device }).note plan.path template .rendered)
        | (.error fault, device) => (.error fault, { entered with device := device })

end Progress

namespace Pass

/-- Plans jobs and carries them out up to the first error. -/
def runJobs {σ : Type} (pass : Pass engine) (writer : Writer σ) :
    List Job → Progress σ → Except Error Unit × Progress σ
  | [], progress => (.ok (), progress)
  | job :: rest, progress =>
      match pass.plan job with
      | .error fault => (.error fault, progress)
      | .ok plan =>
          match progress.perform writer pass.options.dryRun job.file.source plan with
          | (.ok (), progress) => pass.runJobs writer rest progress
          | (.error fault, progress) => (.error fault, progress)

def run {σ : Type} (pass : Pass engine) (writer : Writer σ) (device : σ) :
    Except Error Unit × Progress σ :=
  pass.runJobs writer pass.jobs (.start device)

/-- The records of a pass that has gone through all jobs, or its error. -/
def records {σ : Type} (pass : Pass engine) (writer : Writer σ) (device : σ) :
    Except Error (List Record) :=
  match pass.run writer device with
  | (.ok (), progress) => .ok progress.records
  | (.error fault, _) => .error fault

end Pass

end Stencil
