import Stencil.Proofs.Pass.Calls
import Stencil.Proofs.Pass.Records
import Stencil.Proofs.Target.Names

/-!
# Passes stay below their output directory

Whatever the texts of a document are, a pass writes and reports nothing but paths that
add plain names to its output directory.  It ends at the first job with a target that
leads out, before any filter is looked at.
-/

namespace Stencil

/-- A path that adds one or more plain names to a directory, and keeps all the
components of the directory before them. -/
def Path.LiesBelow (path directory : Path) : Prop :=
  ∃ names, names ≠ [] ∧ (∀ name ∈ names, IsPlain name) ∧
    path = directory.join (ofNames names) ∧
    path.components = directory.components ++ names.map .normal

/-- Paths below a directory with the same components are written the same way. -/
theorem Path.LiesBelow.eq_of_components_eq {left right directory : Path}
    (hleft : left.LiesBelow directory) (hright : right.LiesBelow directory)
    (heq : left.components = right.components) : left = right := by
  obtain ⟨leftNames, -, -, hleftPath, hleftComponents⟩ := hleft
  obtain ⟨rightNames, -, -, hrightPath, hrightComponents⟩ := hright
  rw [hleftComponents, hrightComponents] at heq
  have hinjective : Function.Injective Component.normal := fun _ _ => Component.normal.inj
  have hnames : leftNames = rightNames :=
    List.map_injective_iff.mpr hinjective (List.append_cancel_left heq)
  rw [hleftPath, hrightPath, hnames]

namespace Writer

variable {σ : Type}

/-- Nothing is listed but the calls that are made. -/
theorem mem_log_of_writeAll {writer : Writer σ} {calls : List (Path × String)}
    {device : σ × List (Path × String)} {call : Path × String}
    (hcall : call ∈ (writer.logging.writeAll calls device).2.2) :
    call ∈ device.2 ∨ call ∈ calls := by
  induction calls generalizing device with
  | nil => exact .inl hcall
  | cons first rest ih =>
      obtain ⟨path, content⟩ := first
      have hlisted : call ∈ device.2 ++ [(path, content)] →
          call ∈ device.2 ∨ call ∈ (path, content) :: rest := by
        intro hmem
        rcases List.mem_append.mp hmem with hold | hnew
        · exact .inl hold
        · exact .inr (List.mem_cons.mpr (.inl (List.mem_singleton.mp hnew)))
      rw [writeAll, write_logging] at hcall
      revert hcall
      rcases writer.write device.1 path content with ⟨refusal | _, after⟩
      · exact hlisted
      · intro hcall
        rcases ih hcall with hold | hlater
        · exact hlisted hold
        · exact .inr (List.mem_cons_of_mem _ hlater)

end Writer

theorem Plan.path_of_mem_calls {plan : Plan} {dryRun : Bool} {call : Path × String}
    (hcall : call ∈ plan.calls dryRun) : call.1 = plan.path := by
  obtain ⟨path, action⟩ := plan
  cases action with
  | skip outcome => cases hcall
  | emit body =>
      cases dryRun with
      | true => cases hcall
      | false => rw [List.mem_singleton.mp hcall]

namespace Pass

variable {engine : Engine} {σ : Type}

theorem liesBelow_of_location {pass : Pass engine} {job : Job} {location : Target.Location}
    (hlocation : pass.location job = .ok location) :
    (pass.output.join location.path).LiesBelow pass.output := by
  obtain ⟨directory, fileName, -, hresolve⟩ := location_eq_ok_iff.mp hlocation
  have hplain := Target.Location.isPlain_of_resolve hresolve
  exact ⟨location.names, location.names_ne_nil, hplain, rfl,
    Path.components_join_ofNames pass.output location.names_ne_nil hplain⟩

/-- The target of a plan lies below the output directory. -/
theorem liesBelow_of_plan {pass : Pass engine} {job : Job} {plan : Plan}
    (hplan : pass.plan job = .ok plan) : plan.path.LiesBelow pass.output := by
  obtain ⟨location, action, hlocation, -, rfl⟩ := plan_eq_ok_iff.mp hplan
  exact liesBelow_of_location hlocation

/-- All that has been reported and all that has been handed to the writer is below the
output directory. -/
structure Confined (pass : Pass engine) (progress : Progress (σ × List (Path × String))) :
    Prop where
  records : ∀ record ∈ progress.records, record.path.LiesBelow pass.output
  calls : ∀ call ∈ progress.device.2, call.1.LiesBelow pass.output

/-- One job keeps the pass confined, even when it fails. -/
theorem confined_runJob (writer : Writer σ) {pass : Pass engine} (job : Job)
    {progress : Progress (σ × List (Path × String))} (hconfined : pass.Confined progress) :
    pass.Confined (pass.runJob writer.logging job progress).2 := by
  rw [runJob]
  cases hplan : pass.plan job with
  | error fault => exact hconfined
  | ok plan =>
      have hbelow := liesBelow_of_plan hplan
      have hlog : ∀ call ∈ (writer.logging.writeAll (plan.calls pass.options.dryRun)
          progress.device).2.2, call.1.LiesBelow pass.output := by
        intro call hcall
        rcases Writer.mem_log_of_writeAll hcall with hold | hnew
        · exact hconfined.calls call hold
        · rw [Plan.path_of_mem_calls hnew]
          exact hbelow
      simp only [Progress.perform_eq]
      revert hlog
      rcases writer.logging.writeAll (plan.calls pass.options.dryRun) progress.device with
        ⟨refusal | _, device⟩
      · intro hlog
        refine ⟨?_, hlog⟩
        simp only [Progress.records_withDevice, Progress.records_prepare]
        exact hconfined.records
      · intro hlog
        refine ⟨?_, hlog⟩
        intro record hrecord
        rw [Progress.records_complete] at hrecord
        rcases List.mem_append.mp hrecord with hold | hnew
        · exact hconfined.records record hold
        · rw [List.mem_singleton.mp hnew]
          exact hbelow

/-- A job with a target that leads out has no plan, whatever the options are. -/
theorem plan_of_escapes {pass : Pass engine} {job : Job} {directory fileName : String}
    (htarget : pass.set.renderTarget job.index (pass.context job) = .ok (directory, fileName))
    (hescapes : Target.Escapes directory ∨ Target.Escapes fileName) :
    ∃ fault : Target.LocationFault,
      pass.plan job = .error (.template (job.file.source ++ ": " ++ fault.message)) := by
  obtain ⟨fault, hresolve⟩ := Target.Location.resolve_of_escapes hescapes
  refine ⟨fault, ?_⟩
  have hlocation : pass.location job =
      .error (.template (job.file.source ++ ": " ++ fault.message)) := by
    simp only [Pass.location, htarget, bind, Except.bind, hresolve]
  rw [Pass.plan, hlocation]
  rfl

/-- All paths that a pass reports or hands to its writer, also when it fails, are below
its output directory.  When it reaches a job with a target that leads out, it ends there
and makes no call for it, whatever the options and the later jobs are. -/
theorem run_confined (pass : Pass engine) (writer : Writer σ) (device : σ) :
    (∀ record ∈ (pass.run writer.logging (device, [])).2.records,
        record.path.LiesBelow pass.output) ∧
      (∀ call ∈ (pass.run writer.logging (device, [])).2.device.2,
        call.1.LiesBelow pass.output) ∧
      ∀ before job later reached directory fileName, pass.jobs = before ++ job :: later →
        pass.runJobs writer.logging before (.start (device, [])) = (.ok (), reached) →
        pass.set.renderTarget job.index (pass.context job) = .ok (directory, fileName) →
        Target.Escapes directory ∨ Target.Escapes fileName →
        ∃ fault : Target.LocationFault, pass.run writer.logging (device, []) =
          (.error (.template (job.file.source ++ ": " ++ fault.message)), reached) := by
  have hconfined : pass.Confined (pass.run writer.logging (device, [])).2 := by
    refine invariant_runJobs ⟨?_, ?_⟩ fun job _ progress => confined_runJob writer job
    · intro record hrecord
      cases hrecord
    · intro call hcall
      cases hcall
  refine ⟨hconfined.records, hconfined.calls, ?_⟩
  intro before job later reached directory fileName hjobs hbefore htarget hescapes
  obtain ⟨fault, hplan⟩ := plan_of_escapes htarget hescapes
  refine ⟨fault, ?_⟩
  rw [run, hjobs]
  exact runJobs_of_failure hbefore (runJob_eq_error_iff.mpr (.inl ⟨hplan, rfl⟩)) later

/-! ## A model that strays -/

def strayManifest : Manifest :=
  ⟨"stray", "", [⟨"", "model", [], "{{.Name}}", "model.go", .modelEach⟩]⟩

def strayDocument : Api.Document :=
  { petDocument with models := [⟨"Dog", none, [], .null⟩, ⟨"../Cat", none, [], .null⟩] }

def strayPass (set : CompiledSet) : Pass :=
  ⟨set, strayDocument, ⟨"out"⟩, .none⟩

def strayJob (model : Api.Model) : Job :=
  ⟨0, ⟨"", "model", [], "{{.Name}}", "model.go", .modelEach⟩, .model model⟩

theorem run_confined_stray :
    ∃ set, CompiledSet.load petDisk ⟨"/"⟩ strayManifest = .ok set ∧
      ∃ fault : Target.LocationFault,
        ((strayPass set).run (Writer.inMemory none).logging ([], [])).1 =
            .error (.template ("model: " ++ fault.message)) ∧
          ((strayPass set).run (Writer.inMemory none).logging ([], [])).2.device.2 =
            [(⟨"out/Dog/model.go"⟩, "type Dog")] := by
  have hsteps : ((CompiledSet.load petDisk ⟨"/"⟩ strayManifest).toOption.map fun set =>
      let first := (strayPass set).runJobs (Writer.inMemory none).logging
        [strayJob ⟨"Dog", none, [], .null⟩] (.start ([], []))
      (first.1.toOption, first.2.device.2, (set.renderTarget 0 ((strayPass set).context
        (strayJob ⟨"../Cat", none, [], .null⟩))).toOption)) =
      some (some (), [(⟨"out/Dog/model.go"⟩, "type Dog")], some ("../Cat", "model.go")) := by
    decide +kernel
  obtain ⟨set, hset, hpair⟩ := Option.map_eq_some_iff.mp hsteps
  have hload := Traversal.eq_ok_of_toOption hset
  obtain ⟨hfirst, hrest⟩ := Prod.mk.inj hpair
  obtain ⟨hlog, htarget⟩ := Prod.mk.inj hrest
  have hjobs : (strayPass set).jobs = [strayJob ⟨"Dog", none, [], .null⟩] ++
      strayJob ⟨"../Cat", none, [], .null⟩ :: [] := by
    rw [jobs, strayPass, (CompiledSet.exists_sources_of_load hload).1]
    rfl
  obtain ⟨fault, hrun⟩ := (run_confined (strayPass set) (.inMemory none) []).2.2
    _ _ _ _ _ _ hjobs (Prod.ext (Traversal.eq_ok_of_toOption hfirst) rfl)
    (Traversal.eq_ok_of_toOption htarget) (.inl (.inr (by decide)))
  refine ⟨set, hload, fault, ?_, ?_⟩
  · rw [hrun]
    rfl
  · rw [hrun]
    exact hlog

end Pass

end Stencil
