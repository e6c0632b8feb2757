import Mathlib.Data.Finset.Card
import Mathlib.Data.List.Induction
import Stencil.Proofs.Pass.Confinement

/-!
# Warnings of a pass

A pass notes every target that it renders, and warns when one is rendered again.  What it has
noted is, for each path, the latest target with it, so the warnings of a whole pass can be read
off the targets that no filter leaves out.  A pass whose targets are all different gives none.
-/

namespace Stencil

namespace Pass

variable {engine : Engine}

/-- The target of a job and its template, unless one of the filters leaves the job out. -/
def keptTarget? (pass : Pass engine) (job : Job) : Option (Path × String) :=
  match pass.location job with
  | .error _ => none
  | .ok location =>
      if (expectedOutcome pass.options job.file.scope location).isSkipped then none
      else some (pass.output.join location.path, job.file.source)

/-- The targets of all jobs that no filter leaves out, in order. -/
def keptTargets (pass : Pass engine) : List (Path × String) :=
  pass.jobs.filterMap pass.keptTarget?

end Pass

def latestTarget? (path : Path) (targets : List (Path × String)) : Option (Path × String) :=
  targets.reverse.find? fun target => target.1 = path

/-- The warnings that are due for targets in order: one for each whose path has come before,
with the template of the latest target with this path and its own. -/
def repeatWarnings (targets : List (Path × String)) : List Event :=
  targets.zipIdx.filterMap fun (target, index) =>
    (latestTarget? target.1 (targets.take index)).map fun earlier =>
      Progress.repeatedTarget target.1 earlier.2 target.2

/-! ## Targets in order -/

/-- A new target becomes the latest one of its path. -/
theorem latestTarget?_concat (path : Path) (targets : List (Path × String))
    (target : Path × String) :
    latestTarget? path (targets ++ [target]) =
      if target.1 = path then some target else latestTarget? path targets := by
  rw [latestTarget?, List.reverse_append, List.reverse_singleton, List.singleton_append,
    List.find?_cons]
  by_cases hpath : target.1 = path
  · simp [hpath]
  · simp [hpath, latestTarget?]

theorem latestTarget?_eq_none_iff {path : Path} {targets : List (Path × String)} :
    latestTarget? path targets = none ↔ path ∉ targets.map Prod.fst := by
  rw [latestTarget?, List.find?_eq_none, List.mem_map, not_exists]
  apply forall_congr'
  intro target
  simp

/-- One more target adds a warning when its path has come before. -/
theorem repeatWarnings_concat (targets : List (Path × String)) (target : Path × String) :
    repeatWarnings (targets ++ [target]) =
      repeatWarnings targets ++
        ((latestTarget? target.1 targets).map fun earlier =>
          Progress.repeatedTarget target.1 earlier.2 target.2).toList := by
  -- What is due for a target depends on those before it only, so one more changes nothing.
  have hbefore : (targets.zipIdx.filterMap fun (other, index) =>
        (latestTarget? other.1 ((targets ++ [target]).take index)).map fun earlier =>
          Progress.repeatedTarget other.1 earlier.2 other.2) = repeatWarnings targets := by
    apply List.filterMap_congr
    intro entry hentry
    have hindex : entry.2 ≤ targets.length := by
      have hlt := List.snd_lt_of_mem_zipIdx hentry
      omega
    simp only [List.take_append_of_le_length hindex]
  rw [repeatWarnings, List.zipIdx_append, List.filterMap_append, hbefore]
  have htake : (targets ++ [target]).take (0 + targets.length) = targets := by simp
  rw [List.zipIdx_singleton, List.filterMap_cons, List.filterMap_nil]
  cases hearlier : latestTarget? target.1 targets with
  | none =>
      simp only [htake, hearlier]
      rfl
  | some earlier =>
      simp only [htake, hearlier]
      rfl

/-- Of all targets, each is the first with its path or has a warning. -/
theorem card_add_length_repeatWarnings (targets : List (Path × String)) :
    (targets.map Prod.fst).toFinset.card + (repeatWarnings targets).length = targets.length := by
  induction targets using List.reverseRecOn with
  | nil => rfl
  | append_singleton targets target ih =>
      have hset : ((targets ++ [target]).map Prod.fst).toFinset =
          insert target.1 (targets.map Prod.fst).toFinset := by
        ext path
        simp
      rw [hset, repeatWarnings_concat, List.length_append, List.length_append,
        List.length_singleton]
      cases hearlier : latestTarget? target.1 targets with
      | none =>
          have hfresh := latestTarget?_eq_none_iff.mp hearlier
          rw [Finset.card_insert_of_notMem (mt List.mem_toFinset.mp hfresh)]
          simp
          omega
      | some earlier =>
          have hbefore : target.1 ∈ targets.map Prod.fst := by
            by_contra hfresh
            rw [latestTarget?_eq_none_iff.mpr hfresh] at hearlier
            cases hearlier
          rw [Finset.insert_eq_of_mem (List.mem_toFinset.mpr hbefore)]
          simp
          omega

namespace Progress

variable {σ τ : Type}

/-- Only the target that is noted changes. -/
theorem lookup_putTarget (path other : Path) (template : String)
    (targets : List (Path × String)) :
    (putTarget path template targets).lookup other =
      if path = other then some template else targets.lookup other := by
  induction targets with
  | nil => grind [putTarget, List.lookup]
  | cons target rest ih =>
      rw [putTarget]
      grind [List.lookup]

@[simp]
theorem targets_complete (progress : Progress σ) (dryRun : Bool) (template : String)
    (plan : Plan) (device : τ) :
    (progress.complete dryRun template plan device).targets =
      (progress.prepare template plan).targets := rfl

@[simp]
theorem events_complete (progress : Progress σ) (dryRun : Bool) (template : String)
    (plan : Plan) (device : τ) :
    (progress.complete dryRun template plan device).events =
      (progress.prepare template plan).events := rfl

/-- Carrying out a plan notes no target but that of the plan. -/
theorem lookup_complete_of_ne (progress : Progress σ) (dryRun : Bool) (template : String)
    {plan : Plan} (device : τ) {other : Path} (hne : other ≠ plan.path) :
    (progress.complete dryRun template plan device).targets.lookup other =
      progress.targets.lookup other := by
  rw [targets_complete]
  unfold prepare
  split
  · rfl
  · rw [enter, lookup_putTarget, if_neg (Ne.symm hne)]

/-- Carrying out a plan for a target that has not been rendered gives no warning. -/
theorem events_complete_of_fresh {progress : Progress σ} (dryRun : Bool) (template : String)
    {plan : Plan} (device : τ) (hfresh : progress.targets.lookup plan.path = none) :
    (progress.complete dryRun template plan device).events = progress.events := by
  rw [events_complete]
  unfold prepare
  split
  · rfl
  · simp [enter, hfresh]

/-- The paths of the records for what has not been left out, each with its template. -/
def keptRecords (progress : Progress σ) : List (Path × String) :=
  (progress.records.filter fun record => !record.outcome.isSkipped).map fun record =>
    (record.path, record.template)

theorem keptRecords_complete (progress : Progress σ) (dryRun : Bool) (template : String)
    (plan : Plan) (device : τ) :
    (progress.complete dryRun template plan device).keptRecords =
      progress.keptRecords ++
        if (plan.action.outcome dryRun).isSkipped then [] else [(plan.path, template)] := by
  rw [keptRecords, records_complete, List.filter_append, List.map_append, keptRecords]
  cases hskipped : (plan.action.outcome dryRun).isSkipped <;> simp [Plan.record, hskipped]

/-- What a progress knows of the targets that no filter has left out. -/
structure Knows (progress : Progress σ) (targets : List (Path × String)) : Prop where
  lookup : ∀ path, progress.targets.lookup path = (latestTarget? path targets).map Prod.snd
  events : progress.events = repeatWarnings targets
  records : progress.keptRecords = targets

theorem knows_start (device : σ) : (start device).Knows [] :=
  ⟨fun _ => rfl, rfl, rfl⟩

end Progress

namespace Pass

variable {engine : Engine} {σ : Type}

/-- A run adds no warning when its targets are all different and none has been rendered
before. -/
theorem events_of_distinct {pass : Pass engine} {writer : Writer σ} {jobs : List Job}
    {plans : List Plan}
    (hplans : List.Forall₂ (fun job plan => pass.plan job = .ok plan) jobs plans)
    (hnodup : (plans.map Plan.path).Nodup) {progress final : Progress σ}
    (hfresh : ∀ plan ∈ plans, progress.targets.lookup plan.path = none)
    (hrun : pass.runJobs writer jobs progress = (.ok (), final)) :
    final.events = progress.events := by
  induction hplans generalizing progress with
  | nil =>
      obtain rfl : progress = final := by simpa [runJobs] using hrun
      rfl
  | @cons job plan rest plans hplan _ ih =>
      obtain ⟨hother, hnodup⟩ := List.nodup_cons.mp hnodup
      rw [runJobs_cons] at hrun
      rcases hjob : pass.runJob writer job progress with ⟨fault | _, next⟩
      · simp [hjob] at hrun
      · simp only [hjob] at hrun
        obtain ⟨same, device, hsame, -, rfl⟩ := runJob_eq_ok_iff.mp hjob
        obtain rfl : plan = same := Except.ok.inj (hplan.symm.trans hsame)
        rw [ih hnodup ?_ hrun]
        · exact Progress.events_complete_of_fresh _ _ _ (hfresh plan List.mem_cons_self)
        · intro later hlater
          have hne : later.path ≠ plan.path := fun heq =>
            hother (heq ▸ List.mem_map_of_mem hlater)
          rw [Progress.lookup_complete_of_ne _ _ _ _ hne]
          exact hfresh later (List.mem_cons_of_mem _ hlater)

theorem keptTarget?_of_plan {pass : Pass engine} {job : Job} {plan : Plan}
    (hplan : pass.plan job = .ok plan) :
    pass.keptTarget? job =
      if (plan.action.outcome pass.options.dryRun).isSkipped then none
      else some (plan.path, job.file.source) := by
  obtain ⟨location, action, hlocation, haction, rfl⟩ := plan_eq_ok_iff.mp hplan
  simp only [keptTarget?, hlocation, outcome_of_action haction]

theorem isSkipped_of_plan {pass : Pass engine} {job : Job} {plan : Plan}
    (hplan : pass.plan job = .ok plan) {outcome : Outcome} (hskip : plan.action = .skip outcome) :
    outcome.isSkipped = true := by
  obtain ⟨location, action, -, haction, rfl⟩ := plan_eq_ok_iff.mp hplan
  rcases cases_of_action haction with ⟨-, rfl⟩ | ⟨-, -, rfl⟩ | ⟨-, -, body, -, rfl⟩
  · rw [← Action.skip.inj hskip]
    rfl
  · rw [← Action.skip.inj hskip]
    rfl
  · cases hskip

/-- A step adds the target of its job, when no filter leaves it out. -/
theorem knows_complete {pass : Pass engine} {job : Job} {plan : Plan}
    (hplan : pass.plan job = .ok plan) {progress : Progress σ} {targets : List (Path × String)}
    (hknows : progress.Knows targets) (device : σ) :
    (progress.complete pass.options.dryRun job.file.source plan device).Knows
      (targets ++ (pass.keptTarget? job).toList) := by
  have hrecords : (progress.complete pass.options.dryRun job.file.source plan device).keptRecords =
      targets ++ (pass.keptTarget? job).toList := by
    rw [Progress.keptRecords_complete, hknows.records, keptTarget?_of_plan hplan]
    split <;> rfl
  cases haction : plan.action with
  | skip outcome =>
      -- The progress notes no target, and neither does the list.
      have hkept : pass.keptTarget? job = none := by
        rw [keptTarget?_of_plan hplan, haction, Action.outcome,
          if_pos (isSkipped_of_plan hplan haction)]
      have hprepare : progress.prepare job.file.source plan = progress := by
        rw [Progress.prepare, haction]
      rw [hkept, Option.toList_none, List.append_nil] at hrecords ⊢
      refine ⟨?_, ?_, hrecords⟩
      · intro path
        rw [Progress.targets_complete, hprepare, hknows.lookup]
      · rw [Progress.events_complete, hprepare, hknows.events]
  | emit body =>
      -- Both get the target of the plan, and look for an earlier one with its path.
      have hkept : pass.keptTarget? job = some (plan.path, job.file.source) := by
        rw [keptTarget?_of_plan hplan, haction, Action.outcome]
        cases pass.options.dryRun <;> rfl
      have hprepare : progress.prepare job.file.source plan =
          progress.enter plan.path job.file.source := by
        rw [Progress.prepare, haction]
      rw [hkept, Option.toList_some] at hrecords ⊢
      refine ⟨?_, ?_, hrecords⟩
      · intro path
        rw [Progress.targets_complete, hprepare, Progress.enter, Progress.lookup_putTarget,
          hknows.lookup, latestTarget?_concat]
        split <;> rfl
      · rw [Progress.events_complete, hprepare, Progress.enter, hknows.lookup, hknows.events,
          repeatWarnings_concat, Option.map_map]
        rfl

/-- A run adds the targets of its jobs, in order. -/
theorem knows_runJobs {pass : Pass engine} {writer : Writer σ} {jobs : List Job}
    {progress final : Progress σ} {targets : List (Path × String)}
    (hknows : progress.Knows targets)
    (hrun : pass.runJobs writer jobs progress = (.ok (), final)) :
    final.Knows (targets ++ jobs.filterMap pass.keptTarget?) := by
  induction jobs generalizing progress targets with
  | nil =>
      obtain rfl : progress = final := by simpa [runJobs] using hrun
      simpa using hknows
  | cons job rest ih =>
      rw [runJobs_cons] at hrun
      rcases hjob : pass.runJob writer job progress with ⟨fault | _, next⟩
      · simp [hjob] at hrun
      · simp only [hjob] at hrun
        obtain ⟨plan, device, hplan, -, rfl⟩ := runJob_eq_ok_iff.mp hjob
        have hfinal := ih (knows_complete hplan hknows device) hrun
        have hsplit : (job :: rest).filterMap pass.keptTarget? =
            (pass.keptTarget? job).toList ++ rest.filterMap pass.keptTarget? := by
          rw [List.filterMap_cons]
          cases pass.keptTarget? job <;> rfl
        rw [hsplit, ← List.append_assoc]
        exact hfinal

/-- Kept targets whose paths have the same components are written the same way. -/
theorem eq_of_components_eq {pass : Pass engine} {left right : Path × String}
    (hleft : left ∈ pass.keptTargets) (hright : right ∈ pass.keptTargets)
    (heq : left.1.components = right.1.components) : left.1 = right.1 := by
  have hbelow : ∀ target ∈ pass.keptTargets, target.1.LiesBelow pass.output := by
    intro target htarget
    obtain ⟨job, -, hkept⟩ := List.mem_filterMap.mp htarget
    unfold keptTarget? at hkept
    split at hkept
    · cases hkept
    · rename_i location hlocation
      split at hkept
      · cases hkept
      · rw [← Option.some.inj hkept]
        exact liesBelow_of_location hlocation
  exact (hbelow left hleft).eq_of_components_eq (hbelow right hright) heq

/-- The warnings of a pass that succeeds are those that are due for the targets of the jobs that
no filter leaves out, and a path is written in one way only among these.  The records of these
jobs have the same paths, as many different ones as there are records without a warning. -/
theorem warnings_of_run {pass : Pass engine} {writer : Writer σ} {device : σ} {final : Progress σ}
    (hrun : pass.run writer device = (.ok (), final)) :
    final.events = repeatWarnings pass.keptTargets ∧
      (∀ left ∈ pass.keptTargets, ∀ right ∈ pass.keptTargets,
        left.1.components = right.1.components → left.1 = right.1) ∧
      (final.records.filter fun record => !record.outcome.isSkipped).map Record.path =
        pass.keptTargets.map Prod.fst ∧
      ((final.records.filter fun record => !record.outcome.isSkipped).map
            Record.path).toFinset.card + final.events.length =
        (final.records.filter fun record => !record.outcome.isSkipped).length := by
  have hknows : final.Knows pass.keptTargets := knows_runJobs (Progress.knows_start device) hrun
  have hpaths : (final.records.filter fun record => !record.outcome.isSkipped).map Record.path =
      pass.keptTargets.map Prod.fst := by
    rw [← hknows.records, Progress.keptRecords, List.map_map]
    rfl
  refine ⟨hknows.events, fun left hleft right hright => eq_of_components_eq hleft hright,
    hpaths, ?_⟩
  calc
    _ = (pass.keptTargets.map Prod.fst).toFinset.card +
        (repeatWarnings pass.keptTargets).length := by rw [hpaths, hknows.events]
    _ = pass.keptTargets.length := card_add_length_repeatWarnings pass.keptTargets
    _ = _ := by rw [← List.length_map Prod.fst, ← hpaths, List.length_map]

/-! ## Three renders of one target -/

/-- Two files with one target for all models and the document, and one for each model. -/
def crowdedManifest : Manifest :=
  ⟨"crowded", "", [⟨"", "first", [], "", "all.go", .modelEach⟩,
    ⟨"", "second", [], "./", "all.go", .apiOnce⟩,
    ⟨"", "first", [], "", "{{.Name}}.go", .modelEach⟩]⟩

def crowdedDisk : Disk :=
  ⟨[(["first"], .file "one".toUTF8), (["second"], .file "two".toUTF8)], []⟩

/-- A dry run that leaves out one of the models by name. -/
def crowdedPass (set : CompiledSet) : Pass :=
  ⟨set, petDocument, ⟨"out"⟩, ⟨true, [], ["Cat.go"]⟩⟩

theorem warnings_of_run_crowded :
    ∃ set, CompiledSet.load crowdedDisk ⟨"/"⟩ crowdedManifest = .ok set ∧
      ∃ final, (crowdedPass set).run (.inMemory none) [] = (.ok (), final) ∧
        final.events = [Progress.repeatedTarget ⟨"out/all.go"⟩ "first" "first",
          Progress.repeatedTarget ⟨"out/all.go"⟩ "first" "second"] ∧
        (final.records.filter fun record => !record.outcome.isSkipped).map Record.path =
          [⟨"out/all.go"⟩, ⟨"out/all.go"⟩, ⟨"out/all.go"⟩, ⟨"out/Dog.go"⟩] := by
  have hrun : ((CompiledSet.load crowdedDisk ⟨"/"⟩ crowdedManifest).toOption.map fun set =>
      (((crowdedPass set).run (.inMemory none) []).1.toOption, (crowdedPass set).keptTargets)) =
      some (some (), [(⟨"out/all.go"⟩, "first"), (⟨"out/all.go"⟩, "first"),
        (⟨"out/all.go"⟩, "second"), (⟨"out/Dog.go"⟩, "first")]) := by
    decide +kernel
  obtain ⟨set, hset, hresult⟩ := Option.map_eq_some_iff.mp hrun
  obtain ⟨hok, hkept⟩ := Prod.mk.inj hresult
  have hfinal : (crowdedPass set).run (.inMemory none) [] =
      (.ok (), ((crowdedPass set).run (.inMemory none) []).2) :=
    Prod.ext (Traversal.eq_ok_of_toOption hok) rfl
  obtain ⟨hevents, -, hpaths, -⟩ := warnings_of_run hfinal
  rw [hkept] at hevents hpaths
  exact ⟨set, Traversal.eq_ok_of_toOption hset, _, hfinal, hevents, hpaths⟩

end Pass

end Stencil
