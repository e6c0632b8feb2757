import Stencil.Proofs.Pass.Preview

/-!
# Narrower options

Options are narrower than others when they leave out at least what the others leave out.
A pass with narrower options looks at the same jobs and finds the same targets; it only
renders fewer bodies.  So it succeeds where the other pass does, and what it writes is
part of what the other pass writes, in the same order.
-/

namespace Stencil

/-- Options that leave out at least what others leave out, and are alike otherwise. -/
structure Options.Narrows (narrow wide : Options) : Prop where
  dryRun_eq : narrow.dryRun = wide.dryRun
  allows : ∀ scope, narrow.allows scope = true → wide.allows scope = true
  ignored : ∀ name ∈ wide.ignored, name ∈ narrow.ignored

/-- A record of a pass with narrower options.  The file is left out, or it has become of
it what it has without them; a file that is left out by name stays so. -/
structure Record.Narrows (narrow wide : Record) : Prop where
  path_eq : narrow.path = wide.path
  template_eq : narrow.template = wide.template
  outcome : narrow.outcome = wide.outcome ∨ narrow.outcome.isSkipped = true
  skippedByName : wide.outcome = .skippedByName → narrow.outcome = .skippedByName

/-- A plan with narrower options, as far as its target and its action go. -/
structure Plan.Narrows (narrow wide : Plan) : Prop where
  path_eq : narrow.path = wide.path
  action : narrow.action = wide.action ∨
    ∃ outcome, outcome.isSkipped = true ∧ narrow.action = .skip outcome
  skippedByName : wide.action = .skip .skippedByName → narrow.action = .skip .skippedByName

namespace Options.Narrows

variable {narrow wide : Options}

theorem ignores (hnarrows : narrow.Narrows wide) {fileName relativePath : String}
    (hignored : wide.ignores fileName relativePath = true) :
    narrow.ignores fileName relativePath = true := by
  simp only [Options.ignores, Bool.or_eq_true, List.contains_iff_mem] at hignored ⊢
  exact hignored.imp (hnarrows.ignored fileName) (hnarrows.ignored relativePath)

theorem allows_eq_false (hnarrows : narrow.Narrows wide) {scope : Scope}
    (hdisallowed : wide.allows scope = false) : narrow.allows scope = false := by
  rw [Bool.eq_false_iff] at hdisallowed ⊢
  exact mt (hnarrows.allows scope) hdisallowed

end Options.Narrows

namespace Plan.Narrows

variable {narrow wide : Plan}

theorem record (hnarrows : narrow.Narrows wide) (dryRun : Bool) (template : String) :
    (narrow.record dryRun template).Narrows (wide.record dryRun template) := by
  refine ⟨hnarrows.path_eq, rfl, ?_, ?_⟩
  · rcases hnarrows.action with hsame | ⟨outcome, hskipped, hskip⟩
    · left
      simp only [Plan.record, hsame]
    · right
      simpa only [Plan.record, hskip, Action.outcome] using hskipped
  · intro houtcome
    -- a rendered body has another outcome, so the wider plan leaves the file out
    have hwide : wide.action = .skip .skippedByName := by
      simp only [Plan.record] at houtcome
      cases haction : wide.action with
      | skip outcome =>
          simp only [haction, Action.outcome] at houtcome
          rw [houtcome]
      | emit body => cases dryRun <;> simp [haction, Action.outcome] at houtcome
    simp only [Plan.record, hnarrows.skippedByName hwide, Action.outcome]

theorem calls_sublist (hnarrows : narrow.Narrows wide) (dryRun : Bool) :
    (narrow.calls dryRun).Sublist (wide.calls dryRun) := by
  rcases hnarrows.action with hsame | ⟨outcome, -, hskip⟩
  · have hcalls : narrow.calls dryRun = wide.calls dryRun := by
      rw [Plan.calls, Plan.calls, hsame, hnarrows.path_eq]
    rw [hcalls]
  · have hnone : narrow.calls dryRun = [] := by
      rw [Plan.calls, hskip]
    rw [hnone]
    exact List.nil_sublist _

end Plan.Narrows

namespace Pass

variable {engine : Engine} {σ : Type}

def withOptions (pass : Pass engine) (options : Options) : Pass engine :=
  { pass with options := options }

/-- Where there is an action, there is one with narrower options, which is the same or
leaves the file out. -/
theorem exists_narrow_action {pass : Pass engine} {narrow : Options}
    (hnarrows : narrow.Narrows pass.options) {job : Job} {location : Target.Location}
    {wide : Action} (hwide : pass.action job location = .ok wide) :
    ∃ action, (pass.withOptions narrow).action job location = .ok action ∧
      (action = wide ∨ ∃ outcome, outcome.isSkipped = true ∧ action = .skip outcome) ∧
      (wide = .skip .skippedByName → action = .skip .skippedByName) := by
  cases hignored : narrow.ignores location.fileName location.path.text with
  | true =>
      exact ⟨_, action_of_ignored hignored, .inr ⟨_, rfl, rfl⟩, fun _ => rfl⟩
  | false =>
      rcases cases_of_action hwide with
        ⟨hwideIgnored, -⟩ | ⟨-, hdisallowed, rfl⟩ | ⟨-, -, body, hbody, rfl⟩
      · have := hnarrows.ignores hwideIgnored
        simp [hignored] at this
      · exact ⟨_, action_of_disallowed hignored (hnarrows.allows_eq_false hdisallowed), .inl rfl,
          by simp⟩
      · cases hallowed : narrow.allows job.file.scope with
        | false => exact ⟨_, action_of_disallowed hignored hallowed, .inr ⟨_, rfl, rfl⟩, by simp⟩
        | true =>
            refine ⟨.emit body, ?_, .inl rfl, by simp⟩
            rw [action_of_allowed hignored hallowed]
            exact congrArg (Except.map Action.emit) hbody

/-- A job that has a plan has a narrower one with narrower options. -/
theorem exists_narrow_plan {pass : Pass engine} {narrow : Options}
    (hnarrows : narrow.Narrows pass.options) {job : Job} {wide : Plan}
    (hwide : pass.plan job = .ok wide) :
    ∃ plan, (pass.withOptions narrow).plan job = .ok plan ∧ plan.Narrows wide := by
  obtain ⟨location, action, hlocation, haction, rfl⟩ := plan_eq_ok_iff.mp hwide
  obtain ⟨other, hother, hsame, hbyName⟩ := exists_narrow_action hnarrows haction
  have hplan : (pass.withOptions narrow).plan job =
      .ok ⟨pass.output.join location.path, other⟩ :=
    plan_eq_ok_iff.mpr ⟨location, other, hlocation, hother, rfl⟩
  exact ⟨_, hplan, rfl, hsame, hbyName⟩

/-- Plans for jobs, and what they leave and write, with narrower options. -/
theorem exists_narrow_plans {pass : Pass engine} {narrow : Options}
    (hnarrows : narrow.Narrows pass.options) {jobs : List Job} {wide : List Plan}
    (hwide : List.Forall₂ (fun job plan => pass.plan job = .ok plan) jobs wide)
    (dryRun : Bool) :
    ∃ plans,
      List.Forall₂ (fun job plan => (pass.withOptions narrow).plan job = .ok plan) jobs plans ∧
      List.Forall₂ Record.Narrows
        (List.zipWith (fun job plan => plan.record dryRun job.file.source) jobs plans)
        (List.zipWith (fun job plan => plan.record dryRun job.file.source) jobs wide) ∧
      (plans.flatMap fun plan => plan.calls dryRun).Sublist
        (wide.flatMap fun plan => plan.calls dryRun) := by
  induction hwide with
  | nil => exact ⟨[], .nil, .nil, .slnil⟩
  | @cons job plan rest others hplan _ ih =>
      obtain ⟨plans, hplans, hrecords, hcalls⟩ := ih
      obtain ⟨narrowPlan, hnarrowPlan, hnarrow⟩ := exists_narrow_plan hnarrows hplan
      refine ⟨narrowPlan :: plans, .cons hnarrowPlan hplans, ?_, ?_⟩
      · rw [List.zipWith_cons_cons, List.zipWith_cons_cons]
        exact .cons (hnarrow.record dryRun job.file.source) hrecords
      · rw [List.flatMap_cons, List.flatMap_cons]
        exact (hnarrow.calls_sublist dryRun).append hcalls

/-- When a pass succeeds whose writer takes everything, it succeeds with narrower options
as well.  The records agree one by one on path and template; each outcome is the same or
says that the file is left out, and a file left out by name stays so.  The calls made are
some of the calls made before, in the same order. -/
theorem run_of_narrows {pass : Pass engine} {narrow : Options}
    (hnarrows : narrow.Narrows pass.options) {writer : Writer σ}
    (hreliable : ∀ device path content, (writer.write device path content).1 = .ok ())
    {device : σ} {wide : Progress (σ × List (Path × String))}
    (hwide : pass.run writer.logging (device, []) = (.ok (), wide)) :
    ∃ final, (pass.withOptions narrow).run writer.logging (device, []) = (.ok (), final) ∧
      List.Forall₂ Record.Narrows final.records wide.records ∧
      final.device.2.Sublist wide.device.2 := by
  obtain ⟨widePlans, hwidePlans, hwideRecords, hwideCalls⟩ := exists_plans_of_runJobs hwide
  obtain ⟨plans, hplans, hnarrow, hsublist⟩ :=
    exists_narrow_plans hnarrows hwidePlans pass.options.dryRun
  have hdryRun : (pass.withOptions narrow).options.dryRun = pass.options.dryRun :=
    hnarrows.dryRun_eq
  have hwritten : writer.logging.writeAll
      (plans.flatMap fun plan => plan.calls (pass.withOptions narrow).options.dryRun)
      (Progress.start (device, [])).device = (.ok (), _) :=
    Prod.ext (Writer.writeAll_of_reliable (fun device => hreliable device.1) _ _) rfl
  obtain ⟨final, hrun, hdevice, hrecords⟩ := exists_final_of_plans hplans hwritten
  refine ⟨final, hrun, ?_, ?_⟩
  · rw [hrecords, hwideRecords, hdryRun]
    exact hnarrow
  · rw [hdevice, Writer.log_of_writeAll hwritten, Writer.log_of_writeAll hwideCalls, hdryRun]
    exact hsublist

/-- All scopes are rendered and one model is left out; with narrower options only models
are, and another one is left out. -/
theorem run_of_narrows_pets :
    ∃ set, CompiledSet.load petDisk ⟨"/"⟩ petManifest = .ok set ∧
      ∃ final, ((petPass set).withOptions ⟨false, [.modelEach], ["Dog.go", "api/Cat.go"]⟩).run
          (Writer.inMemory none).logging ([], []) = (.ok (), final) ∧
        List.Forall₂ Record.Narrows final.records
          [⟨⟨"out/api/Dog.go"⟩, "model", .rendered⟩,
            ⟨⟨"out/api/Cat.go"⟩, "model", .skippedByName⟩,
            ⟨⟨"out/all.go"⟩, "model", .rendered⟩] ∧
        final.device.2.Sublist
          [(⟨"out/api/Dog.go"⟩, "type Dog"), (⟨"out/all.go"⟩, "type Pets")] := by
  have hwide : ((CompiledSet.load petDisk ⟨"/"⟩ petManifest).toOption.map fun set =>
      let result := ((petPass set).withOptions ⟨false, [], ["api/Cat.go"]⟩).run
        (Writer.inMemory none).logging ([], [])
      (result.1.toOption, result.2.records, result.2.device.2)) =
      some (some (), [⟨⟨"out/api/Dog.go"⟩, "model", .rendered⟩,
          ⟨⟨"out/api/Cat.go"⟩, "model", .skippedByName⟩, ⟨⟨"out/all.go"⟩, "model", .rendered⟩],
        [(⟨"out/api/Dog.go"⟩, "type Dog"), (⟨"out/all.go"⟩, "type Pets")]) := by
    decide +kernel
  obtain ⟨set, hset, hresult⟩ := Option.map_eq_some_iff.mp hwide
  obtain ⟨hok, hrest⟩ := Prod.mk.inj hresult
  obtain ⟨hrecords, hcalls⟩ := Prod.mk.inj hrest
  have hnarrows : Options.Narrows ⟨false, [.modelEach], ["Dog.go", "api/Cat.go"]⟩
      ⟨false, [], ["api/Cat.go"]⟩ := by
    refine ⟨rfl, fun scope _ => rfl, ?_⟩
    decide
  obtain ⟨final, hrun, hnarrow, hsublist⟩ :=
    @run_of_narrows _ _ ((petPass set).withOptions ⟨false, [], ["api/Cat.go"]⟩) _ hnarrows
      (.inMemory none) (fun _ _ _ => rfl) [] _ (Prod.ext (Traversal.eq_ok_of_toOption hok) rfl)
  rw [hrecords] at hnarrow
  rw [hcalls] at hsublist
  exact ⟨set, Traversal.eq_ok_of_toOption hset, final, hrun, hnarrow, hsublist⟩

end Pass

end Stencil
