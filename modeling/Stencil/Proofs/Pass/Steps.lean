import Stencil.Proofs.Traversal
import Stencil.Render.Pass

/-!
# Steps of a pass

A pass goes from job to job until one fails.  This file says once what the step for
one job can do, and what follows for all jobs: how a run splits, where it stops,
what it keeps, and how two runs go side by side.
-/

namespace Stencil

/-- What became of a file once an action for it has been carried out. -/
def Action.outcome (dryRun : Bool) : Action → Outcome
  | skip outcome => outcome
  | emit _ => if dryRun then .dryRun else .rendered

namespace Plan

/-- What carrying out a plan hands to the writer. -/
def calls (dryRun : Bool) (plan : Plan) : List (Path × String) :=
  match plan.action with
  | .skip _ => []
  | .emit body => if dryRun then [] else [(plan.path, body)]

def record (dryRun : Bool) (template : String) (plan : Plan) : Record :=
  ⟨plan.path, template, plan.action.outcome dryRun⟩

end Plan

/-- Writes files in order, up to the first that the writer refuses. -/
def Writer.writeAll {σ : Type} (writer : Writer σ) :
    List (Path × String) → σ → Except Error Unit × σ
  | [], device => (.ok (), device)
  | (path, content) :: rest, device =>
      match writer.write device path content with
      | (.ok (), device) => writer.writeAll rest device
      | (.error fault, device) => (.error fault, device)

theorem Writer.writeAll_append {σ : Type} (writer : Writer σ)
    (first second : List (Path × String)) (device : σ) :
    writer.writeAll (first ++ second) device =
      match writer.writeAll first device with
      | (.ok (), device) => writer.writeAll second device
      | (.error fault, device) => (.error fault, device) := by
  induction first generalizing device with
  | nil => rfl
  | cons call rest ih =>
      obtain ⟨path, content⟩ := call
      rw [List.cons_append, writeAll, writeAll]
      obtain ⟨result | _, after⟩ := writer.write device path content
      · rfl
      · exact ih after

namespace Progress

variable {σ τ : Type}

def withDevice (progress : Progress σ) (device : τ) : Progress τ :=
  ⟨progress.records, progress.targets, progress.events, device⟩

/-- The progress when the target of a plan is known and, unless it is left out, its
body is rendered. -/
def prepare (progress : Progress σ) (template : String) (plan : Plan) : Progress σ :=
  match plan.action with
  | .skip _ => progress
  | .emit _ => progress.enter plan.path template

def complete (progress : Progress σ) (dryRun : Bool) (template : String) (plan : Plan)
    (device : τ) : Progress τ :=
  let prepared := (progress.prepare template plan).withDevice device
  { prepared with records := prepared.records ++ [plan.record dryRun template] }

@[simp]
theorem records_withDevice (progress : Progress σ) (device : τ) :
    (progress.withDevice device).records = progress.records := rfl

@[simp]
theorem records_prepare (progress : Progress σ) (template : String) (plan : Plan) :
    (progress.prepare template plan).records = progress.records := by
  unfold prepare
  split <;> rfl

@[simp]
theorem records_complete (progress : Progress σ) (dryRun : Bool) (template : String)
    (plan : Plan) (device : τ) :
    (progress.complete dryRun template plan device).records =
      progress.records ++ [plan.record dryRun template] := by
  simp [complete]

/-- All that carrying out a plan does. -/
theorem perform_eq (writer : Writer σ) (dryRun : Bool) (template : String) (plan : Plan)
    (progress : Progress σ) :
    progress.perform writer dryRun template plan =
      match writer.writeAll (plan.calls dryRun) progress.device with
      | (.ok (), device) => (.ok (), progress.complete dryRun template plan device)
      | (.error fault, device) =>
          (.error fault, (progress.prepare template plan).withDevice device) := by
  obtain ⟨path, action⟩ := plan
  cases action with
  | skip outcome => rfl
  | emit body =>
      cases dryRun with
      | true => rfl
      | false =>
          simp only [perform, Plan.calls, Writer.writeAll, Bool.false_eq_true, if_false]
          change (match writer.write progress.device path body with
            | (.ok (), device) => _
            | (.error fault, device) => _) = _
          obtain ⟨result | _, after⟩ := writer.write progress.device path body <;> rfl

end Progress

namespace Pass

variable {engine : Engine} {σ τ : Type}

/-! ## Plans -/

/-- A job has a location when both texts of its target are rendered and make one. -/
theorem location_eq_ok_iff {pass : Pass engine} {job : Job} {location : Target.Location} :
    pass.location job = .ok location ↔
      ∃ directory fileName,
        pass.set.renderTarget job.index (pass.context job) = .ok (directory, fileName) ∧
        Target.Location.resolve directory fileName = .ok location := by
  rw [Pass.location, Traversal.bind_eq_ok_iff]
  constructor
  · rintro ⟨⟨directory, fileName⟩, htarget, hlocation⟩
    refine ⟨directory, fileName, htarget, ?_⟩
    cases hresolve : Target.Location.resolve directory fileName with
    | error fault => simp [hresolve] at hlocation
    | ok found => simpa [hresolve] using hlocation
  · rintro ⟨directory, fileName, htarget, hresolve⟩
    exact ⟨(directory, fileName), htarget, by simp [hresolve]⟩

/-- A job is left out by name, or by its scope, or has its body rendered. -/
theorem cases_of_action {pass : Pass engine} {job : Job} {location : Target.Location}
    {action : Action} (haction : pass.action job location = .ok action) :
    (pass.options.ignores location.fileName location.path.text = true ∧
        action = .skip .skippedByName) ∨
      (pass.options.ignores location.fileName location.path.text = false ∧
        pass.options.allows job.file.scope = false ∧ action = .skip .skippedByScope) ∨
      (pass.options.ignores location.fileName location.path.text = false ∧
        pass.options.allows job.file.scope = true ∧
        ∃ body, pass.set.renderBody job.file.source (pass.context job) = .ok body ∧
          action = .emit body) := by
  unfold Pass.action at haction
  cases hignores : pass.options.ignores location.fileName location.path.text with
  | true => exact .inl ⟨rfl, by simpa [hignores, eq_comm] using haction⟩
  | false =>
      cases hallows : pass.options.allows job.file.scope with
      | false => exact .inr (.inl ⟨rfl, rfl, by simpa [hignores, hallows, eq_comm] using haction⟩)
      | true =>
          cases hbody : pass.set.renderBody job.file.source (pass.context job) with
          | error fault => simp [hignores, hallows, hbody, Except.map] at haction
          | ok body =>
              refine .inr (.inr ⟨rfl, rfl, body, rfl, ?_⟩)
              simpa [hignores, hallows, hbody, Except.map, eq_comm] using haction

theorem action_of_ignored {pass : Pass engine} {job : Job} {location : Target.Location}
    (hignored : pass.options.ignores location.fileName location.path.text = true) :
    pass.action job location = .ok (.skip .skippedByName) := by
  rw [Pass.action, if_pos hignored]

theorem action_of_disallowed {pass : Pass engine} {job : Job} {location : Target.Location}
    (hkept : pass.options.ignores location.fileName location.path.text = false)
    (hdisallowed : pass.options.allows job.file.scope = false) :
    pass.action job location = .ok (.skip .skippedByScope) := by
  simp [Pass.action, hkept, hdisallowed]

theorem action_of_allowed {pass : Pass engine} {job : Job} {location : Target.Location}
    (hkept : pass.options.ignores location.fileName location.path.text = false)
    (hallowed : pass.options.allows job.file.scope = true) :
    pass.action job location =
      (pass.set.renderBody job.file.source (pass.context job)).map .emit := by
  simp [Pass.action, hkept, hallowed]

/-- A job has a plan when its target can be placed and its action is known. -/
theorem plan_eq_ok_iff {pass : Pass engine} {job : Job} {plan : Plan} :
    pass.plan job = .ok plan ↔
      ∃ location action, pass.location job = .ok location ∧
        pass.action job location = .ok action ∧
        plan = ⟨pass.output.join location.path, action⟩ := by
  rw [Pass.plan, Traversal.bind_eq_ok_iff]
  constructor
  · rintro ⟨location, hlocation, hplan⟩
    obtain ⟨action, haction, hplan⟩ := Traversal.bind_eq_ok_iff.mp hplan
    exact ⟨location, action, hlocation, haction, (Except.ok.inj hplan).symm⟩
  · rintro ⟨location, action, hlocation, haction, rfl⟩
    exact ⟨location, hlocation, Traversal.bind_eq_ok_iff.mpr ⟨action, haction, rfl⟩⟩

/-! ## Steps -/

def runJob (pass : Pass engine) (writer : Writer σ) (job : Job) (progress : Progress σ) :
    Except Error Unit × Progress σ :=
  match pass.plan job with
  | .error fault => (.error fault, progress)
  | .ok plan => progress.perform writer pass.options.dryRun job.file.source plan

theorem runJobs_cons (pass : Pass engine) (writer : Writer σ) (job : Job) (rest : List Job)
    (progress : Progress σ) :
    pass.runJobs writer (job :: rest) progress =
      match pass.runJob writer job progress with
      | (.ok (), progress) => pass.runJobs writer rest progress
      | (.error fault, progress) => (.error fault, progress) := by
  rw [runJobs, runJob]
  cases pass.plan job <;> rfl

/-- A step succeeds when there is a plan and the writer takes all that the plan
hands to it. -/
theorem runJob_eq_ok_iff {pass : Pass engine} {writer : Writer σ} {job : Job}
    {progress next : Progress σ} :
    pass.runJob writer job progress = (.ok (), next) ↔
      ∃ plan device, pass.plan job = .ok plan ∧
        writer.writeAll (plan.calls pass.options.dryRun) progress.device = (.ok (), device) ∧
        next = progress.complete pass.options.dryRun job.file.source plan device := by
  rw [runJob]
  cases pass.plan job with
  | error fault => simp
  | ok plan =>
      simp only [Progress.perform_eq]
      cases hwrite : writer.writeAll (plan.calls pass.options.dryRun) progress.device with
      | mk result device => cases result <;> simp [hwrite, eq_comm]

/-- A step fails when there is no plan, and nothing has changed then, or when the
writer refuses what the plan hands to it. -/
theorem runJob_eq_error_iff {pass : Pass engine} {writer : Writer σ} {job : Job} {fault : Error}
    {progress next : Progress σ} :
    pass.runJob writer job progress = (.error fault, next) ↔
      (pass.plan job = .error fault ∧ next = progress) ∨
      ∃ plan device, pass.plan job = .ok plan ∧
        writer.writeAll (plan.calls pass.options.dryRun) progress.device =
          (.error fault, device) ∧
        next = (progress.prepare job.file.source plan).withDevice device := by
  rw [runJob]
  cases pass.plan job with
  | error fault => simp [eq_comm]
  | ok plan =>
      simp only [Progress.perform_eq]
      cases hwrite : writer.writeAll (plan.calls pass.options.dryRun) progress.device with
      | mk result device => cases result <;> simp [hwrite, eq_comm]

/-! ## Runs -/

/-- Jobs are run in turn, up to the first that fails. -/
theorem runJobs_append (pass : Pass engine) (writer : Writer σ) (before after : List Job)
    (progress : Progress σ) :
    pass.runJobs writer (before ++ after) progress =
      match pass.runJobs writer before progress with
      | (.ok (), progress) => pass.runJobs writer after progress
      | (.error fault, progress) => (.error fault, progress) := by
  induction before generalizing progress with
  | nil => rfl
  | cons job rest ih =>
      rw [List.cons_append, runJobs_cons, runJobs_cons]
      obtain ⟨fault | _, next⟩ := pass.runJob writer job progress
      · rfl
      · exact ih next

/-- A run that reaches a job at which it fails ends there, whatever jobs follow. -/
theorem runJobs_of_failure {pass : Pass engine} {writer : Writer σ} {before : List Job} {job : Job}
    {fault : Error} {progress reached final : Progress σ}
    (hbefore : pass.runJobs writer before progress = (.ok (), reached))
    (hjob : pass.runJob writer job reached = (.error fault, final)) (later : List Job) :
    pass.runJobs writer (before ++ job :: later) progress = (.error fault, final) := by
  rw [runJobs_append, hbefore]
  simp only [runJobs_cons, hjob]

/-- What every step keeps, a run keeps, whether it fails or not. -/
theorem invariant_runJobs {pass : Pass engine} {writer : Writer σ} {jobs : List Job}
    {Invariant : Progress σ → Prop} {progress : Progress σ} (hstart : Invariant progress)
    (hstep : ∀ job ∈ jobs, ∀ progress, Invariant progress →
      Invariant (pass.runJob writer job progress).2) :
    Invariant (pass.runJobs writer jobs progress).2 := by
  induction jobs generalizing progress with
  | nil => exact hstart
  | cons job rest ih =>
      have hnext := hstep job List.mem_cons_self progress hstart
      rw [runJobs_cons]
      revert hnext
      obtain ⟨fault | _, next⟩ := pass.runJob writer job progress
      · exact id
      · intro hnext
        exact ih hnext fun other hother => hstep other (List.mem_cons_of_mem _ hother)

/-- Two runs over the same jobs, of which every step has the same result and keeps a
relation, have the same result and are related at their ends. -/
theorem simulation_runJobs {left right : Pass engine}
    {leftWriter : Writer σ} {rightWriter : Writer τ}
    {Related : Progress σ → Progress τ → Prop}
    (hstep : ∀ job leftProgress rightProgress, Related leftProgress rightProgress →
      (left.runJob leftWriter job leftProgress).1 =
          (right.runJob rightWriter job rightProgress).1 ∧
        Related (left.runJob leftWriter job leftProgress).2
          (right.runJob rightWriter job rightProgress).2)
    (jobs : List Job) {leftProgress : Progress σ} {rightProgress : Progress τ}
    (hstart : Related leftProgress rightProgress) :
    (left.runJobs leftWriter jobs leftProgress).1 =
        (right.runJobs rightWriter jobs rightProgress).1 ∧
      Related (left.runJobs leftWriter jobs leftProgress).2
        (right.runJobs rightWriter jobs rightProgress).2 := by
  induction jobs generalizing leftProgress rightProgress with
  | nil => exact ⟨rfl, hstart⟩
  | cons job rest ih =>
      obtain ⟨hresult, hrelated⟩ := hstep job leftProgress rightProgress hstart
      rw [runJobs_cons, runJobs_cons]
      revert hresult hrelated
      obtain ⟨leftResult, leftNext⟩ := left.runJob leftWriter job leftProgress
      obtain ⟨rightResult, rightNext⟩ := right.runJob rightWriter job rightProgress
      rintro rfl hrelated
      cases leftResult with
      | error fault => exact ⟨rfl, hrelated⟩
      | ok _ => exact ih hrelated

/-- A run that succeeds has a plan for every job; it adds the records of the plans,
and the writer has taken all that they hand to it. -/
theorem exists_plans_of_runJobs {pass : Pass engine} {writer : Writer σ} {jobs : List Job}
    {progress final : Progress σ}
    (hrun : pass.runJobs writer jobs progress = (.ok (), final)) :
    ∃ plans, List.Forall₂ (fun job plan => pass.plan job = .ok plan) jobs plans ∧
      final.records = progress.records ++
        List.zipWith (fun job plan => plan.record pass.options.dryRun job.file.source) jobs plans ∧
      writer.writeAll (plans.flatMap fun plan => plan.calls pass.options.dryRun)
        progress.device = (.ok (), final.device) := by
  induction jobs generalizing progress with
  | nil =>
      obtain rfl : progress = final := by simpa [runJobs] using hrun
      exact ⟨[], .nil, by simp, rfl⟩
  | cons job rest ih =>
      rw [runJobs_cons] at hrun
      cases hjob : pass.runJob writer job progress with
      | mk result next =>
          cases result with
          | error fault => simp [hjob] at hrun
          | ok _ =>
              simp only [hjob] at hrun
              obtain ⟨plan, device, hplan, hwrite, rfl⟩ := runJob_eq_ok_iff.mp hjob
              obtain ⟨plans, hplans, hrecords, hcalls⟩ := ih hrun
              refine ⟨plan :: plans, .cons hplan hplans, ?_, ?_⟩
              · simpa using hrecords
              · rw [List.flatMap_cons, Writer.writeAll_append, hwrite]
                exact hcalls

/-- A run over jobs that all have plans succeeds when the writer takes all that the
plans hand to it. -/
theorem exists_final_of_plans {pass : Pass engine} {writer : Writer σ} {jobs : List Job}
    {plans : List Plan}
    (hplans : List.Forall₂ (fun job plan => pass.plan job = .ok plan) jobs plans)
    {progress : Progress σ} {device : σ}
    (hcalls : writer.writeAll (plans.flatMap fun plan => plan.calls pass.options.dryRun)
      progress.device = (.ok (), device)) :
    ∃ final, pass.runJobs writer jobs progress = (.ok (), final) ∧ final.device = device ∧
      final.records = progress.records ++
        List.zipWith (fun job plan => plan.record pass.options.dryRun job.file.source)
          jobs plans := by
  induction hplans generalizing progress with
  | nil =>
      obtain rfl : progress.device = device := by simpa [Writer.writeAll] using hcalls
      exact ⟨progress, rfl, rfl, by simp⟩
  | @cons job plan rest plans hplan _ ih =>
      rw [List.flatMap_cons, Writer.writeAll_append] at hcalls
      rcases hwrite : writer.writeAll (plan.calls pass.options.dryRun) progress.device with
        ⟨fault | _, between⟩
      · simp [hwrite] at hcalls
      · simp only [hwrite] at hcalls
        let next := progress.complete pass.options.dryRun job.file.source plan between
        have hjob : pass.runJob writer job progress = (.ok (), next) :=
          runJob_eq_ok_iff.mpr ⟨plan, between, hplan, hwrite, rfl⟩
        obtain ⟨final, hrun, hdevice, hrecords⟩ := @ih next hcalls
        refine ⟨final, ?_, hdevice, ?_⟩
        · rw [runJobs_cons, hjob]
          exact hrun
        · simpa [next] using hrecords

end Pass

end Stencil
