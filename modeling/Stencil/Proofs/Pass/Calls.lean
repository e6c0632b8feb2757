import Mathlib.Data.List.ReduceOption
import Stencil.Proofs.Pass.Steps
import Stencil.Render.Report

/-!
# Calls to the writer

A pass calls its writer once for each job that neither filter leaves out, in order,
and not at all in a dry run.  To say this for any writer, the writer is made to list
the calls, which changes nothing else in the run.
-/

namespace Stencil

namespace Writer

variable {σ : Type}

/-- A writer that also lists the calls made to it, those that fail included. -/
def logging (writer : Writer σ) : Writer (σ × List (Path × String)) where
  write device path content :=
    let written := writer.write device.1 path content
    (written.1, written.2, device.2 ++ [(path, content)])

theorem write_logging (writer : Writer σ) (device : σ × List (Path × String)) (path : Path)
    (content : String) :
    writer.logging.write device path content =
      ((writer.write device.1 path content).1, (writer.write device.1 path content).2,
        device.2 ++ [(path, content)]) := rfl

/-- Calls that all succeed are all listed. -/
theorem log_of_writeAll {writer : Writer σ} {calls : List (Path × String)}
    {device after : σ × List (Path × String)}
    (hcalls : writer.logging.writeAll calls device = (.ok (), after)) :
    after.2 = device.2 ++ calls := by
  induction calls generalizing device with
  | nil =>
      obtain rfl : device = after := by simpa [writeAll] using hcalls
      rw [List.append_nil]
  | cons call rest ih =>
      obtain ⟨path, content⟩ := call
      rw [writeAll, write_logging] at hcalls
      revert hcalls
      rcases writer.write device.1 path content with ⟨fault | _, next⟩
      · intro hcalls
        cases hcalls
      · intro hcalls
        rw [ih hcalls, List.append_assoc, List.singleton_append]

end Writer

namespace Tally

end Tally

namespace Plan

theorem calls_eq_toList_head? (dryRun : Bool) (plan : Plan) :
    plan.calls dryRun = (plan.calls dryRun).head?.toList := by
  obtain ⟨path, action⟩ := plan
  cases action with
  | skip outcome => rfl
  | emit body => cases dryRun <;> rfl

end Plan

namespace Pass

variable {engine : Engine} {σ : Type}

/-- The call that is due for a job: its target and its body, when neither filter
leaves it out and the run is not a dry one.  Also in a dry run the job may fail. -/
def plannedCall (pass : Pass engine) (job : Job) : Except Error (Option (Path × String)) := do
  let location ← pass.location job
  if pass.options.ignores location.fileName location.path.text then .ok none
  else if !pass.options.allows job.file.scope then .ok none
  else
    let body ← pass.set.renderBody job.file.source (pass.context job)
    if pass.options.dryRun then .ok none
    else .ok (some (pass.output.join location.path, body))

def plannedCalls (pass : Pass engine) (jobs : List Job) : Except Error (List (Path × String)) :=
  (jobs.mapM pass.plannedCall).map List.reduceOption

theorem plannedCall_eq_map_plan (pass : Pass engine) (job : Job) :
    pass.plannedCall job =
      (pass.plan job).map fun plan => (plan.calls pass.options.dryRun).head? := by
  unfold plannedCall Pass.plan Pass.action
  cases pass.location job with
  | error fault => rfl
  | ok location =>
      simp only [bind, Except.bind]
      split
      · rfl
      · split
        · rfl
        · cases pass.set.renderBody job.file.source (pass.context job) with
          | error fault => rfl
          | ok body =>
              simp only [Except.map, Plan.calls]
              split <;> rfl

/-- When every job has a plan, the planned calls are those of the plans. -/
theorem plannedCalls_of_plans {pass : Pass engine} {jobs : List Job} {plans : List Plan}
    (hplans : List.Forall₂ (fun job plan => pass.plan job = .ok plan) jobs plans) :
    pass.plannedCalls jobs =
      .ok (plans.flatMap fun plan => plan.calls pass.options.dryRun) := by
  have hplanned : jobs.mapM pass.plannedCall =
      .ok (plans.map fun plan => (plan.calls pass.options.dryRun).head?) := by
    rw [Traversal.mapM_eq_ok_iff, List.forall₂_map_right_iff]
    refine hplans.imp ?_
    intro job plan hplan
    rw [plannedCall_eq_map_plan, hplan]
    rfl
  rw [plannedCalls, hplanned]
  refine congrArg Except.ok ?_
  calc
    (plans.map fun plan => (plan.calls pass.options.dryRun).head?).reduceOption =
        plans.filterMap fun plan => (plan.calls pass.options.dryRun).head? := by
      rw [List.reduceOption, List.filterMap_map, Function.id_comp]
    _ = plans.flatMap fun plan => (plan.calls pass.options.dryRun).head?.toList :=
      List.filterMap_eq_flatMap_toList _ _
    _ = plans.flatMap fun plan => plan.calls pass.options.dryRun := by
      simp only [← Plan.calls_eq_toList_head?]

/-- A plan hands its target to the writer when its record says that the file has been
rendered. -/
theorem paths_calls_of_plan {pass : Pass engine} {job : Job} {plan : Plan}
    (hplan : pass.plan job = .ok plan) :
    (plan.calls pass.options.dryRun).map Prod.fst =
      ([plan.record pass.options.dryRun job.file.source].filter fun record =>
        record.outcome = .rendered).map Record.path := by
  obtain ⟨location, action, -, haction, rfl⟩ := plan_eq_ok_iff.mp hplan
  rcases cases_of_action haction with ⟨-, rfl⟩ | ⟨-, -, rfl⟩ | ⟨-, -, body, -, rfl⟩
  · rfl
  · rfl
  · cases pass.options.dryRun <;> rfl

/-- The calls go to the paths of the records that say a file was rendered. -/
theorem paths_calls_of_plans {pass : Pass engine} {jobs : List Job} {plans : List Plan}
    (hplans : List.Forall₂ (fun job plan => pass.plan job = .ok plan) jobs plans) :
    (plans.flatMap fun plan => plan.calls pass.options.dryRun).map Prod.fst =
      ((List.zipWith (fun job plan => plan.record pass.options.dryRun job.file.source)
        jobs plans).filter fun record => record.outcome = .rendered).map Record.path := by
  induction hplans with
  | nil => rfl
  | cons hplan _ ih =>
      rw [List.flatMap_cons, List.map_append, ih, paths_calls_of_plan hplan,
        ← List.map_append, ← List.filter_append, List.zipWith_cons_cons, List.singleton_append]

end Pass

end Stencil
