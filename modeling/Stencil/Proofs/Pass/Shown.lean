import Stencil.CommandLine.Run
import Stencil.Proofs.Pass.Filters
import Stencil.Proofs.Target.Names

/-!
# Leaving out what a report shows

A report shows each record by its path from the output directory on, and this is the very
text by which options leave a target out.  So what a report shows can be given to a second
run as a name to leave out.  The second run succeeds where the first one has, finds the same
targets, and leaves out nothing more than the targets that are called by that text.
-/

namespace Stencil

/-- A path below a directory, taken from the directory on. -/
theorem Path.stripPrefix?_join_ofNames (base : Path) {names : List String} (hnames : names ≠ [])
    (hplain : ∀ name ∈ names, IsPlain name) :
    (base.join (ofNames names)).stripPrefix? base = some (ofNames names) := by
  have htexts : (names.map Component.normal).map Component.text = names := by
    rw [List.map_map]
    exact List.map_id' names
  rw [stripPrefix?, components_join_ofNames base hnames hplain]
  simp only [List.drop_left, htexts]
  apply if_pos
  exact List.isPrefixOf_iff_prefix.mpr (List.prefix_append _ _)

/-! ## Names for a target -/

/-- A target is called by the name of its file and by its path from the output directory on. -/
def Target.Location.IsCalled (location : Target.Location) (name : String) : Prop :=
  location.fileName = name ∨ location.path.text = name

instance (location : Target.Location) (name : String) : Decidable (location.IsCalled name) :=
  inferInstanceAs (Decidable (_ ∨ _))

/-- Ignoring one more text leaves out the targets that are called by it. -/
theorem Options.ignores_ignoring {options : Options} {location : Target.Location}
    {name : String} :
    (options.ignoring [name]).ignores location.fileName location.path.text = true ↔
      options.ignores location.fileName location.path.text = true ∨ location.IsCalled name := by
  simp only [Options.ignores, Options.ignoring, List.foldl_cons, List.foldl_nil,
    Bool.or_eq_true, List.contains_iff_mem, mem_addMember]
  exact or_or_or_comm

/-- The outcome in a dry run, or in one that is not, where another run has this one. -/
def Outcome.inMode (dryRun : Bool) (outcome : Outcome) : Outcome :=
  if outcome.isSkipped then outcome else if dryRun then .dryRun else .rendered

namespace Pass

variable {engine : Engine} {σ : Type}

/-- The same pass with one more name left out. -/
def leavingOut (pass : Pass engine) (name : String) : Pass engine :=
  pass.withOptions (pass.options.ignoring [name])

/-- A target that is called by the name is left out, and with the others is done what has been
done. -/
theorem action_leavingOut (pass : Pass engine) (name : String) (job : Job)
    (location : Target.Location) :
    (pass.leavingOut name).action job location =
      if location.IsCalled name then .ok (.skip .skippedByName)
      else pass.action job location := by
  have hiff : (pass.leavingOut name).options.ignores location.fileName location.path.text = true ↔
      pass.options.ignores location.fileName location.path.text = true ∨ location.IsCalled name :=
    Options.ignores_ignoring
  split
  · rename_i hcalled
    exact action_of_ignored (hiff.mpr (.inr hcalled))
  · rename_i hcalled
    rw [or_iff_left hcalled] at hiff
    rw [Pass.action, Pass.action, Bool.eq_iff_iff.mpr hiff]
    rfl

/-! ## What is found for a job -/

def Finds (pass : Pass engine) (job : Job) (found : Target.Location × Action) : Prop :=
  pass.location job = .ok found.1 ∧ pass.action job found.1 = .ok found.2

def planFor (pass : Pass engine) (found : Target.Location × Action) : Plan :=
  ⟨pass.output.join found.1.path, found.2⟩

theorem exists_found_of_plans {pass : Pass engine} {jobs : List Job} {plans : List Plan}
    (hplans : List.Forall₂ (fun job plan => pass.plan job = .ok plan) jobs plans) :
    ∃ found, List.Forall₂ pass.Finds jobs found ∧ plans = found.map pass.planFor := by
  induction hplans with
  | nil => exact ⟨[], .nil, rfl⟩
  | cons hplan _ ih =>
      obtain ⟨found, hfound, rfl⟩ := ih
      obtain ⟨location, action, hlocation, haction, rfl⟩ := plan_eq_ok_iff.mp hplan
      exact ⟨(location, action) :: found, .cons ⟨hlocation, haction⟩ hfound, rfl⟩

theorem plans_of_found {pass : Pass engine} {jobs : List Job}
    {found : List (Target.Location × Action)}
    (hfound : List.Forall₂ pass.Finds jobs found) :
    List.Forall₂ (fun job plan => pass.plan job = .ok plan) jobs (found.map pass.planFor) := by
  rw [List.forall₂_map_right_iff]
  apply hfound.imp
  rintro job ⟨location, action⟩ ⟨hlocation, haction⟩
  exact plan_eq_ok_iff.mpr ⟨location, action, hlocation, haction, rfl⟩

def without (name : String) (found : Target.Location × Action) : Target.Location × Action :=
  (found.1, if found.1.IsCalled name then .skip .skippedByName else found.2)

/-- With one more text to ignore, the same targets are found, and some are left out. -/
theorem found_leavingOut {pass : Pass engine} {jobs : List Job}
    {found : List (Target.Location × Action)} (hfound : List.Forall₂ pass.Finds jobs found)
    (name : String) :
    List.Forall₂ (pass.leavingOut name).Finds jobs (found.map (without name)) := by
  rw [List.forall₂_map_right_iff]
  apply hfound.imp
  rintro job ⟨location, action⟩ ⟨hlocation, haction⟩
  refine ⟨hlocation, ?_⟩
  rw [action_leavingOut]
  simp only [without]
  split
  · rfl
  · exact haction

theorem inMode_of_action {pass : Pass engine} {job : Job} {location : Target.Location}
    {action : Action}
    (haction : pass.action job location = .ok action) (dryRun other : Bool) :
    (action.outcome other).inMode dryRun = action.outcome dryRun := by
  rcases cases_of_action haction with ⟨-, rfl⟩ | ⟨-, -, rfl⟩ | ⟨-, -, body, -, rfl⟩
  · rfl
  · rfl
  · cases other <;> rfl

/-! ## What the records say -/

/-- The records of a run have the paths and the outcomes of what has been found. -/
structure Reports (pass : Pass engine) (found : List (Target.Location × Action))
    (records : List Record) : Prop where
  paths : records.map Record.path = found.map fun entry => pass.output.join entry.1.path
  outcomes : records.map Record.outcome =
    found.map fun entry => entry.2.outcome pass.options.dryRun

theorem map_zipWith_record {γ : Type} {ofRecord : Record → γ} {ofPlan : Plan → γ} {dryRun : Bool}
    (hof : ∀ plan template, ofRecord (plan.record dryRun template) = ofPlan plan)
    {jobs : List Job} {plans : List Plan} (hlength : jobs.length = plans.length) :
    (List.zipWith (fun job plan => plan.record dryRun job.file.source) jobs plans).map ofRecord =
      plans.map ofPlan := by
  induction jobs generalizing plans with
  | nil =>
      rw [List.eq_nil_of_length_eq_zero hlength.symm]
      rfl
  | cons job rest ih =>
      cases plans with
      | nil => cases hlength
      | cons plan others =>
          rw [List.zipWith_cons_cons, List.map_cons, List.map_cons, hof,
            ih (Nat.succ.inj hlength)]

theorem reports_zipWith {pass : Pass engine} {jobs : List Job}
    {found : List (Target.Location × Action)}
    (hfound : List.Forall₂ pass.Finds jobs found) :
    pass.Reports found (List.zipWith
      (fun job plan => plan.record pass.options.dryRun job.file.source) jobs
      (found.map pass.planFor)) := by
  have hlength := (plans_of_found hfound).length_eq
  constructor
  · rw [map_zipWith_record (fun plan _ => (rfl : _ = plan.path)) hlength, List.map_map]
    rfl
  · rw [map_zipWith_record (fun plan _ => (rfl : _ = plan.action.outcome _)) hlength, List.map_map]
    rfl

/-- The records of a pass that succeeds report what its jobs have found. -/
theorem exists_found_of_run {pass : Pass engine} {writer : Writer σ} {device : σ}
    {final : Progress σ}
    (hrun : pass.run writer device = (.ok (), final)) :
    ∃ found, List.Forall₂ pass.Finds pass.jobs found ∧ pass.Reports found final.records := by
  obtain ⟨plans, hplans, hrecords, -⟩ := exists_plans_of_runJobs hrun
  obtain ⟨found, hfound, rfl⟩ := exists_found_of_plans hplans
  refine ⟨found, hfound, ?_⟩
  rw [hrecords]
  exact reports_zipWith hfound

/-- Where something is found for every job, a run succeeds that writes nothing or whose writer
takes everything. -/
theorem exists_run_of_found {pass : Pass engine} {found : List (Target.Location × Action)}
    (hfound : List.Forall₂ pass.Finds pass.jobs found) {writer : Writer σ}
    (hready : pass.options.dryRun = true ∨
      ∀ device path content, (writer.write device path content).1 = .ok ()) (device : σ) :
    ∃ final, pass.run writer device = (.ok (), final) ∧ pass.Reports found final.records := by
  have hplans := plans_of_found hfound
  have hok : (writer.writeAll ((found.map pass.planFor).flatMap fun plan =>
      plan.calls pass.options.dryRun) (Progress.start device).device).1 = .ok () := by
    rcases hready with hdry | hreliable
    · have hnone : ((found.map pass.planFor).flatMap fun plan => plan.calls true) = [] :=
        List.flatMap_eq_nil_iff.mpr fun plan _ => plan.calls_dryRun
      rw [hdry, hnone]
      rfl
    · exact Writer.writeAll_of_reliable hreliable _ _
  have hwritten : writer.writeAll _ (Progress.start device).device = (.ok (), _) :=
    Prod.ext hok rfl
  obtain ⟨final, hrun, -, hrecords⟩ := exists_final_of_plans hplans hwritten
  refine ⟨final, hrun, ?_⟩
  rw [hrecords]
  exact reports_zipWith hfound

/-- What a report shows of a record is the path of its target below the output directory. -/
theorem map_shownPath {pass : Pass engine} {jobs : List Job}
    {found : List (Target.Location × Action)}
    (hfound : List.Forall₂ pass.Finds jobs found) {records : List Record}
    (hreports : pass.Reports found records) :
    records.map (CommandLine.shownPath pass.output) =
      found.map fun entry => entry.1.path.text := by
  calc
    records.map (CommandLine.shownPath pass.output) =
        (records.map Record.path).map fun path =>
          ((path.stripPrefix? pass.output).getD path).text := by
      rw [List.map_map]
      rfl
    _ = found.map fun entry =>
        (((pass.output.join entry.1.path).stripPrefix? pass.output).getD
          (pass.output.join entry.1.path)).text := by
      rw [hreports.paths, List.map_map]
      rfl
    _ = found.map fun entry => entry.1.path.text := by
      apply List.map_congr_left
      intro entry hentry
      obtain ⟨job, -, hlocation, -⟩ := Traversal.exists_item_of_mem hfound hentry
      obtain ⟨directory, fileName, -, hresolve⟩ := location_eq_ok_iff.mp hlocation
      have hstrip : (pass.output.join entry.1.path).stripPrefix? pass.output =
          some entry.1.path :=
        Path.stripPrefix?_join_ofNames pass.output entry.1.names_ne_nil
          (Target.Location.isPlain_of_resolve hresolve)
      rw [hstrip]
      rfl

theorem map_inMode {pass : Pass engine} {jobs : List Job} {found : List (Target.Location × Action)}
    (hfound : List.Forall₂ pass.Finds jobs found) (dryRun other : Bool) :
    (found.map fun entry => entry.2.outcome other).map (Outcome.inMode dryRun) =
      found.map fun entry => entry.2.outcome dryRun := by
  rw [List.map_map]
  apply List.map_congr_left
  intro entry hentry
  obtain ⟨job, -, -, haction⟩ := Traversal.exists_item_of_mem hfound hentry
  exact inMode_of_action haction dryRun other

/-- What has been found is found again with one more name left out, and a run succeeds on it. -/
theorem exists_rerun_of_found {pass : Pass engine} {found : List (Target.Location × Action)}
    (hfound : List.Forall₂ pass.Finds pass.jobs found) (name : String) {writer : Writer σ}
    {dryRun : Bool}
    (hready : dryRun = true ∨
      ∀ device path content, (writer.write device path content).1 = .ok ()) (device : σ) :
    ∃ final, ((pass.leavingOut name).withDryRun dryRun).run writer device = (.ok (), final) ∧
      final.records.map Record.path = found.map (fun entry => pass.output.join entry.1.path) ∧
      final.records.map Record.outcome = found.map fun entry =>
        if entry.1.IsCalled name then .skippedByName else entry.2.outcome dryRun := by
  let rerun := (pass.leavingOut name).withDryRun dryRun
  have hagain : List.Forall₂ rerun.Finds rerun.jobs (found.map (without name)) :=
    found_leavingOut hfound name
  obtain ⟨final, hrun, hreports⟩ := exists_run_of_found hagain hready device
  refine ⟨final, hrun, ?_, ?_⟩
  · rw [hreports.paths, List.map_map]
    rfl
  · rw [hreports.outcomes, List.map_map]
    apply List.map_congr_left
    intro entry _
    simp only [Function.comp_apply, without]
    split
    · rfl
    · rfl

/-- What a successful run shows of its records is what options compare names with.  Run again
with one of these texts left out, as a dry run or with a writer that takes everything, the
pass succeeds with the same paths; that record is left out by name, with the others for
targets that are called by the text, and the rest have the outcomes they had. -/
theorem rerun_without_shown {pass : Pass engine} {writer : Writer σ} {device : σ}
    {first : Progress σ}
    (hfirst : pass.run writer device = (.ok (), first)) :
    ∃ locations, pass.jobs.mapM pass.location = .ok locations ∧
      first.records.map (CommandLine.shownPath pass.output) =
        locations.map (fun location => location.path.text) ∧
      (first.records.map Record.outcome).map (Outcome.inMode pass.options.dryRun) =
        first.records.map Record.outcome ∧
      ∀ (index : Nat) (record : Record), first.records[index]? = some record →
        ∀ {τ : Type} (again : Writer τ) (start : τ) (dryRun : Bool),
          (dryRun = true ∨
            ∀ device path content, (again.write device path content).1 = .ok ()) →
          let shown := CommandLine.shownPath pass.output record
          ∃ second : Progress τ,
            ((pass.leavingOut shown).withDryRun dryRun).run again start = (.ok (), second) ∧
            second.records.map Record.path = first.records.map Record.path ∧
            second.records[index]?.map Record.outcome = some .skippedByName ∧
            second.records.map Record.outcome =
              List.zipWith (fun location outcome =>
                  if location.IsCalled shown then .skippedByName else outcome)
                locations ((first.records.map Record.outcome).map (Outcome.inMode dryRun)) := by
  obtain ⟨found, hfound, hreports⟩ := exists_found_of_run hfirst
  have hshown := map_shownPath hfound hreports
  refine ⟨found.map Prod.fst, ?_, ?_, ?_, ?_⟩
  · rw [Traversal.mapM_eq_ok_iff, List.forall₂_map_right_iff]
    exact hfound.imp fun _ _ hfinds => hfinds.1
  · rw [hshown, List.map_map]
    rfl
  · rw [hreports.outcomes, map_inMode hfound]
  intro index record hrecord τ again start dryRun hready shown
  obtain ⟨second, hsecond, hpaths, houtcomes⟩ := exists_rerun_of_found hfound shown hready start
  refine ⟨second, hsecond, hpaths.trans hreports.paths.symm, ?_, ?_⟩
  · -- the record stands for the entry at its index, which is called by what is shown
    have hat : (found.map fun entry => entry.1.path.text)[index]? = some shown := by
      rw [← hshown, List.getElem?_map, hrecord]
      rfl
    rw [List.getElem?_map] at hat
    obtain ⟨entry, hentry, hcalled⟩ := Option.map_eq_some_iff.mp hat
    rw [← List.getElem?_map, houtcomes, List.getElem?_map, hentry]
    exact congrArg some (if_pos (.inr hcalled))
  · rw [houtcomes, hreports.outcomes, map_inMode hfound, List.zipWith_map, List.zipWith_self]

/-- A pass for two models, of which one is called as the file for the document is, with an
output directory that is written in a roundabout way. -/
def allPass (set : CompiledSet) : Pass :=
  ⟨set, ⟨"3.1.0", ⟨"Pets", "1", none⟩, [], [],
    [⟨"Dog", none, [], .null⟩, ⟨"all", none, [], .null⟩], [], .null⟩, ⟨"/srv//out/./"⟩,
    ⟨false, [], []⟩⟩

theorem allPass_output (set : CompiledSet) : (allPass set).output = ⟨"/srv//out/./"⟩ := rfl

/-- The third record is shown as `all.go`.  With this left out, the second one is left out for
the name of its file, and the first one is rendered as before. -/
theorem rerun_without_shown_all :
    ∃ set, CompiledSet.load petDisk ⟨"/"⟩ petManifest = .ok set ∧
      ∃ second : Progress (List (Path × String)),
        (((allPass set).leavingOut "all.go").withDryRun false).run (.inMemory none) [] =
          (.ok (), second) ∧
        second.records.map Record.path =
          [⟨"/srv//out/./api/Dog.go"⟩, ⟨"/srv//out/./api/all.go"⟩, ⟨"/srv//out/./all.go"⟩] ∧
        second.records.map Record.outcome = [.rendered, .skippedByName, .skippedByName] := by
  have hfirst : ((CompiledSet.load petDisk ⟨"/"⟩ petManifest).toOption.map fun set =>
      let result := (allPass set).run (.inMemory none) []
      (result.1.toOption, result.2.records,
        ((allPass set).jobs.mapM (allPass set).location).toOption)) =
      some (some (), [⟨⟨"/srv//out/./api/Dog.go"⟩, "model", .rendered⟩,
          ⟨⟨"/srv//out/./api/all.go"⟩, "model", .rendered⟩,
          ⟨⟨"/srv//out/./all.go"⟩, "model", .rendered⟩],
        some [⟨["api"], "Dog.go"⟩, ⟨["api"], "all.go"⟩, ⟨[], "all.go"⟩]) := by
    decide +kernel
  obtain ⟨set, hset, hresult⟩ := Option.map_eq_some_iff.mp hfirst
  obtain ⟨hok, hrest⟩ := Prod.mk.inj hresult
  obtain ⟨hrecords, hfound⟩ := Prod.mk.inj hrest
  obtain ⟨locations, hlocations, -, -, hrerun⟩ := rerun_without_shown
    (Prod.ext (Traversal.eq_ok_of_toOption hok) rfl)
  obtain rfl := Except.ok.inj (hlocations.symm.trans (Traversal.eq_ok_of_toOption hfound))
  rw [hrecords] at hrerun
  obtain ⟨second, hsecond, hpaths, -, houtcomes⟩ :=
    hrerun 2 ⟨⟨"/srv//out/./all.go"⟩, "model", .rendered⟩ rfl (.inMemory none) [] false
      (.inr fun _ _ _ => rfl)
  have hshown : CommandLine.shownPath ⟨"/srv//out/./"⟩
      ⟨⟨"/srv//out/./all.go"⟩, "model", .rendered⟩ = "all.go" := by
    decide +kernel
  simp only [allPass_output, hshown] at hsecond houtcomes
  refine ⟨set, Traversal.eq_ok_of_toOption hset, second, hsecond, hpaths, houtcomes.trans ?_⟩
  decide +kernel

end Pass

end Stencil
