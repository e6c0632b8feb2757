import Stencil.Proofs.Pass.Calls
import Stencil.Proofs.Pass.Records

/-!
# Dry runs

A dry run shows what a run would do.  It decides all that the run decides, so it
fails where the run fails, and its records differ only in saying that a file would be
written where the run has written it; and it never calls the writer.
-/

namespace Stencil

/-- A record of a dry run for a record of a run. -/
structure Record.Previews (dry real : Record) : Prop where
  path_eq : dry.path = real.path
  template_eq : dry.template = real.template
  /-- A file would be written exactly where one has been written. -/
  dryRun_iff_rendered : dry.outcome = .dryRun ↔ real.outcome = .rendered
  /-- What is left out is left out for the same reason. -/
  outcome_eq : dry.outcome ≠ .dryRun → dry.outcome = real.outcome

theorem Plan.calls_dryRun (plan : Plan) : plan.calls true = [] := by
  unfold calls
  split <;> rfl

theorem Writer.writeAll_of_reliable {σ : Type} {writer : Writer σ}
    (hreliable : ∀ device path content, (writer.write device path content).1 = .ok ())
    (calls : List (Path × String)) (device : σ) :
    (writer.writeAll calls device).1 = .ok () := by
  induction calls generalizing device with
  | nil => rfl
  | cons call rest ih =>
      obtain ⟨path, content⟩ := call
      have hwritten := hreliable device path content
      rw [writeAll]
      revert hwritten
      rcases writer.write device path content with ⟨result, after⟩
      rintro rfl
      exact ih after

namespace Pass

variable {engine : Engine} {σ τ : Type}

/-- The same pass as a dry run, or not. -/
def withDryRun (pass : Pass engine) (dryRun : Bool) : Pass engine :=
  { pass with options := { pass.options with dryRun := dryRun } }

theorem plan_withDryRun (pass : Pass engine) (dryRun : Bool) (job : Job) :
    (pass.withDryRun dryRun).plan job = pass.plan job := rfl

/-- How far a dry run has come when a run has come so far.  The dry run has found the
same, and its own device is as at the start. -/
structure Mirrors (start : τ) (dry : Progress τ) (real : Progress σ) : Prop where
  records : List.Forall₂ Record.Previews dry.records real.records
  targets : dry.targets = real.targets
  events : dry.events = real.events
  device : dry.device = start

/-- The record that a plan gets in a dry run previews the one it gets in a run. -/
theorem previews_of_plan {pass : Pass engine} {job : Job} {plan : Plan}
    (hplan : pass.plan job = .ok plan) :
    (plan.record true job.file.source).Previews (plan.record false job.file.source) := by
  obtain ⟨location, action, -, haction, rfl⟩ := plan_eq_ok_iff.mp hplan
  rcases cases_of_action haction with ⟨-, rfl⟩ | ⟨-, -, rfl⟩ | ⟨-, -, body, -, rfl⟩
  · exact ⟨rfl, rfl, by simp [Plan.record, Action.outcome], fun _ => rfl⟩
  · exact ⟨rfl, rfl, by simp [Plan.record, Action.outcome], fun _ => rfl⟩
  · exact ⟨rfl, rfl, by simp [Plan.record, Action.outcome], fun hdry => absurd rfl hdry⟩

theorem mirrors_complete {pass : Pass engine} {job : Job} {plan : Plan}
    (hplan : pass.plan job = .ok plan) {start : τ} {dry : Progress τ} {real : Progress σ}
    (hmirrors : Mirrors start dry real) (device : σ) :
    Mirrors start (dry.complete true job.file.source plan dry.device)
      (real.complete false job.file.source plan device) := by
  obtain ⟨hrecords, htargets, hevents, hdevice⟩ := hmirrors
  refine ⟨?_, ?_, ?_, hdevice⟩
  · rw [Progress.records_complete, Progress.records_complete]
    exact List.rel_append hrecords (.cons (previews_of_plan hplan) .nil)
  · obtain ⟨path, action⟩ := plan
    cases action with
    | skip outcome => exact htargets
    | emit body => exact congrArg (Progress.putTarget path job.file.source) htargets
  · obtain ⟨path, action⟩ := plan
    cases action with
    | skip outcome => exact hevents
    | emit body =>
        change dry.events ++ _ = real.events ++ _
        rw [hevents, htargets]

/-- One step of a dry run goes like one step of a run whose writer takes everything. -/
theorem mirrors_runJob {writer : Writer σ}
    (hreliable : ∀ device path content, (writer.write device path content).1 = .ok ())
    (pass : Pass engine) (quiet : Writer τ) (job : Job) {start : τ} {dry : Progress τ}
    {real : Progress σ} (hmirrors : Mirrors start dry real) :
    ((pass.withDryRun true).runJob quiet job dry).1 =
        ((pass.withDryRun false).runJob writer job real).1 ∧
      Mirrors start ((pass.withDryRun true).runJob quiet job dry).2
        ((pass.withDryRun false).runJob writer job real).2 := by
  rw [runJob, runJob, plan_withDryRun, plan_withDryRun]
  cases hplan : pass.plan job with
  | error fault => exact ⟨rfl, hmirrors⟩
  | ok plan =>
      change (dry.perform quiet true job.file.source plan).1 =
          (real.perform writer false job.file.source plan).1 ∧
        Mirrors start (dry.perform quiet true job.file.source plan).2
          (real.perform writer false job.file.source plan).2
      rw [Progress.perform_eq, Progress.perform_eq, Plan.calls_dryRun]
      have hwritten := writer.writeAll_of_reliable hreliable (plan.calls false) real.device
      revert hwritten
      rcases writer.writeAll (plan.calls false) real.device with ⟨result, device⟩
      rintro rfl
      exact ⟨rfl, mirrors_complete hplan hmirrors device⟩

/-- A dry run ends as the run would whose writer takes everything, with the same error
or with records that agree one by one; it gives the same warnings and makes no call. -/
theorem dryRun_previews {writer : Writer σ}
    (hreliable : ∀ device path content, (writer.write device path content).1 = .ok ())
    (pass : Pass engine) (quiet : Writer τ) (dryDevice : τ) (device : σ) :
    let dry := (pass.withDryRun true).run quiet.logging (dryDevice, [])
    let real := (pass.withDryRun false).run writer device
    dry.1 = real.1 ∧ List.Forall₂ Record.Previews dry.2.records real.2.records ∧
      dry.2.events = real.2.events ∧ dry.2.device = (dryDevice, []) := by
  obtain ⟨hresult, hmirrors⟩ := simulation_runJobs
    (fun job _ _ => mirrors_runJob hreliable pass quiet.logging job) pass.jobs
    (⟨.nil, rfl, rfl, rfl⟩ : Mirrors (dryDevice, []) (.start (dryDevice, [])) (.start device))
  exact ⟨hresult, hmirrors.records, hmirrors.events, hmirrors.device⟩

theorem dryRun_previews_pets :
    ∃ set, CompiledSet.load petDisk ⟨"/"⟩ petManifest = .ok set ∧
      let dry := ((petPass set).withDryRun true).run (Writer.inMemory none).logging ([], [])
      dry.1 = .ok () ∧
        List.Forall₂ Record.Previews dry.2.records
          [⟨⟨"out/api/Dog.go"⟩, "model", .rendered⟩,
            ⟨⟨"out/api/Cat.go"⟩, "model", .skippedByName⟩,
            ⟨⟨"out/all.go"⟩, "model", .skippedByScope⟩] ∧
        dry.2.device = ([], []) := by
  obtain ⟨set, hload, hpets⟩ := exists_petRecords
  obtain ⟨final, hrun, hrecords⟩ := records_eq_ok_iff.mp hpets
  obtain ⟨hresult, hpreviews, -, hdevice⟩ :=
    @dryRun_previews _ _ _ (.inMemory none) (fun _ _ _ => rfl) (petPass set) (.inMemory none) [] []
  change _ = ((petPass set).run (.inMemory none) []).1 at hresult
  change List.Forall₂ _ _ ((petPass set).run (.inMemory none) []).2.records at hpreviews
  rw [hrun] at hresult hpreviews
  rw [hrecords] at hpreviews
  exact ⟨set, hload, hresult, hpreviews, hdevice⟩

end Pass

end Stencil
