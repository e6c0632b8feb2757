import Stencil.Proofs.Files.Growth
import Stencil.Proofs.Pass.Confinement
import Stencil.Proofs.Pass.Preview

/-!
# What a pass leaves on a disk

Writing a file makes directories where nothing was and puts the file where no directory
was.  Different targets lead to different places, so that a file is changed later only
when its own target is rendered again.
-/

namespace Stencil

/-- Paths below one directory that lead to one place are the same. -/
theorem Path.eq_of_resolve_eq {directory left right : Path} (hleft : left.LiesBelow directory)
    (hright : right.LiesBelow directory) {disk : Disk} {place : Place}
    (hresolve : disk.resolve left = .ok place) (hother : disk.resolve right = .ok place) :
    left = right := by
  obtain ⟨leftNames, hleftNames, hleftPlain, rfl, -⟩ := hleft
  obtain ⟨rightNames, hrightNames, hrightPlain, rfl, -⟩ := hright
  obtain ⟨base, hbase⟩ := disk.exists_place_of_resolve_join_ofNames directory
  have hplace : base ++ leftNames = base ++ rightNames :=
    (hbase leftNames hleftNames hleftPlain place hresolve).symm.trans
      (hbase rightNames hrightNames hrightPlain place hother)
  rw [List.append_cancel_left hplace]

namespace Writer

/-- A file that was written is found under its path, and nothing else has changed but for new
directories. -/
theorem exists_place_of_writeFile {disk after : Disk} {path : Path} {content : String}
    (hwrite : writeToDisk.writeFile path content disk = (.ok (), after)) :
    ∃ place, Disk.Keeps {place} disk after ∧ after.resolve path = .ok place ∧
      after.node? place = some (.file content.toUTF8) := by
  rw [writeToDisk.writeFile] at hwrite
  split at hwrite
  · rename_i written hwritten
    obtain rfl := (Prod.mk.inj hwrite).2
    exact Disk.exists_place_of_writeBytes hwritten
  · cases hwrite

/-- A file that is written to a disk is where its path leads from then on, and no other
file has changed. -/
theorem exists_place_of_write_onDisk {disk after : Disk} {path : Path} {content : String}
    (hwrite : onDisk.write disk path content = (.ok (), after)) :
    ∃ place, Disk.Keeps {place} disk after ∧ after.resolve path = .ok place ∧
      after.node? place = some (.file content.toUTF8) := by
  change writeToDisk disk path content = (.ok (), after) at hwrite
  rw [writeToDisk] at hwrite
  split at hwrite
  · rename_i parent _
    have hkeeps := disk.keeps_makeDirectories parent
    revert hkeeps hwrite
    rcases disk.makeDirectories parent with ⟨fault | _, made⟩
    · intro hwrite
      cases hwrite
    · intro hwrite hkeeps
      obtain ⟨place, hwritten, hplace⟩ := exists_place_of_writeFile hwrite
      exact ⟨place, (hkeeps.mono (Set.empty_subset _)).trans hwritten, hplace⟩
  · exact exists_place_of_writeFile hwrite

/-- When all calls succeed, each of their paths leads to the file that the last call for
it has written, and no file has changed but these. -/
theorem writeAll_onDisk {directory : Path} {calls : List (Path × String)} {disk final : Disk}
    (hbelow : ∀ call ∈ calls, call.1.LiesBelow directory)
    (hcalls : onDisk.writeAll calls disk = (.ok (), final)) :
    Disk.Keeps {place | ∃ path ∈ calls.map Prod.fst, final.resolve path = .ok place} disk final ∧
      ∀ path ∈ calls.map Prod.fst, ∃ before body after place,
        calls = before ++ (path, body) :: after ∧ path ∉ after.map Prod.fst ∧
          final.resolve path = .ok place ∧ final.node? place = some (.file body.toUTF8) := by
  induction calls generalizing disk with
  | nil =>
      obtain rfl : disk = final := by simpa [writeAll] using hcalls
      exact ⟨.refl _ disk, by simp⟩
  | cons call rest ih =>
      obtain ⟨path, body⟩ := call
      rw [writeAll] at hcalls
      rcases hwrite : onDisk.write disk path body with ⟨fault | _, next⟩
      · simp [hwrite] at hcalls
      simp only [hwrite] at hcalls
      obtain ⟨hrest, hlast⟩ := ih (fun other hother => hbelow other (List.mem_cons_of_mem _ hother))
        hcalls
      obtain ⟨place, hkeeps, hresolve, hnode⟩ := exists_place_of_write_onDisk hwrite
      have hfinal : final.resolve path = .ok place := hrest.resolve_eq_ok hresolve
      refine ⟨(hkeeps.mono ?_).trans (hrest.mono ?_), ?_⟩
      · rintro _ rfl
        exact ⟨path, List.mem_cons_self, hfinal⟩
      · rintro other ⟨later, hlater, hother⟩
        exact ⟨later, List.mem_cons_of_mem _ hlater, hother⟩
      intro target htarget
      by_cases hlater : target ∈ rest.map Prod.fst
      · obtain ⟨before, last, after, found, hsplit, hafter⟩ := hlast target hlater
        exact ⟨(path, body) :: before, last, after, found, by rw [hsplit]; rfl, hafter⟩
      · obtain rfl := (List.mem_cons.mp htarget).resolve_right hlater
        -- no later call leads to the place of this one, so the file is still there
        refine ⟨[], body, rest, place, rfl, hlater, hfinal, (hrest.file_iff place ?_ _).mpr hnode⟩
        rintro ⟨other, hother, hplace⟩
        obtain ⟨later, hmem, rfl⟩ := List.mem_map.mp hother
        have hsame : later.1 = target :=
          Path.eq_of_resolve_eq (hbelow later (List.mem_cons_of_mem _ hmem))
            (hbelow _ List.mem_cons_self) hplace hfinal
        exact hlater (hsame ▸ hother)

end Writer

namespace Pass

variable {engine : Engine}

/-- A dry run never touches the device, whether it fails or not. -/
theorem device_of_dryRun {σ : Type} {pass : Pass engine} (hdry : pass.options.dryRun = true)
    (writer : Writer σ) (device : σ) : (pass.run writer device).2.device = device := by
  let Untouched (progress : Progress σ) : Prop := progress.device = device
  have hstep : ∀ job ∈ pass.jobs, ∀ progress, Untouched progress →
      Untouched (pass.runJob writer job progress).2 := by
    rintro job - progress huntouched
    rw [runJob, hdry]
    cases pass.plan job with
    | error fault => exact huntouched
    | ok plan =>
        simp only [Progress.perform_eq, Plan.calls_dryRun]
        exact huntouched
  exact @invariant_runJobs engine σ pass writer pass.jobs Untouched (.start device) rfl hstep

theorem liesBelow_of_mem_calls {pass : Pass engine} {jobs : List Job} {plans : List Plan}
    (hplans : List.Forall₂ (fun job plan => pass.plan job = .ok plan) jobs plans) :
    ∀ call ∈ plans.flatMap fun plan => plan.calls pass.options.dryRun,
      call.1.LiesBelow pass.output := by
  induction hplans with
  | nil => simp
  | cons hplan _ ih =>
      intro call hcall
      rw [List.flatMap_cons, List.mem_append] at hcall
      rcases hcall with hfirst | hlater
      · rw [Plan.path_of_mem_calls hfirst]
        exact liesBelow_of_plan hplan
      · exact ih call hlater

/-- What a pass leaves on a disk.  A dry run leaves it as it was, whether it fails or not.
When a pass succeeds, the path of each record that says that a file has been rendered
leads to a file with the body of the last such record with this path, and everything above
it is a directory.  All places to which no such path leads have the files that they had
before, and no others. -/
theorem run_onDisk (pass : Pass engine) {disk : Disk} (htree : disk.IsTree) :
    (pass.options.dryRun = true → (pass.run .onDisk disk).2.device = disk) ∧
      ∀ final, pass.run .onDisk disk = (.ok (), final) →
        ∃ calls, pass.plannedCalls pass.jobs = .ok calls ∧
          calls.map Prod.fst =
            (final.records.filter fun record => record.outcome = .rendered).map Record.path ∧
          (∀ record ∈ final.records, record.outcome = .rendered →
            ∃ before body after place, calls = before ++ (record.path, body) :: after ∧
              record.path ∉ after.map Prod.fst ∧
              final.device.resolve record.path = .ok place ∧
              final.device.node? place = some (.file body.toUTF8) ∧
              ∀ above, above <+: place → above ≠ place →
                final.device.hasDirectory above = true) ∧
          ∀ place,
            (∀ record ∈ final.records, record.outcome = .rendered →
              final.device.resolve record.path ≠ .ok place) →
            ∀ content, final.device.node? place = some (.file content) ↔
              disk.node? place = some (.file content) := by
  refine ⟨fun hdry => device_of_dryRun hdry .onDisk disk, ?_⟩
  intro final hrun
  obtain ⟨plans, hplans, hrecords, hwritten⟩ := exists_plans_of_runJobs hrun
  have hpaths := paths_calls_of_plans hplans
  change final.records = [] ++ _ at hrecords
  rw [← List.nil_append (List.zipWith _ _ _), ← hrecords] at hpaths
  have hmem : ∀ path, path ∈ (plans.flatMap fun plan =>
        plan.calls pass.options.dryRun).map Prod.fst ↔
      ∃ record ∈ final.records, record.outcome = .rendered ∧ record.path = path := by
    intro path
    rw [hpaths]
    simp [and_assoc]
  obtain ⟨hkeeps, hlast⟩ := Writer.writeAll_onDisk (liesBelow_of_mem_calls hplans) hwritten
  refine ⟨_, plannedCalls_of_plans hplans, hpaths, ?_, ?_⟩
  · intro record hrecord hrendered
    obtain ⟨before, body, after, place, hsplit, hafter, hresolve, hnode⟩ :=
      hlast record.path ((hmem _).mpr ⟨record, hrecord, hrendered, rfl⟩)
    refine ⟨before, body, after, place, hsplit, hafter, hresolve, hnode, ?_⟩
    intro above habove hne
    exact (hkeeps.isTree htree).hasDirectory_above (by rw [hnode]; rfl) habove hne
  · intro place hplace content
    refine hkeeps.file_iff place ?_ content
    rintro ⟨path, hpath, hresolve⟩
    obtain ⟨record, hrecord, hrendered, rfl⟩ := (hmem path).mp hpath
    exact hplace record hrecord hrendered hresolve

/-! ## A target that is rendered twice -/

def sharedManifest : Manifest :=
  ⟨"shared", "", [⟨"", "first", [], "api", "all.go", .apiOnce⟩,
    ⟨"", "second", [], "api", "all.go", .apiOnce⟩]⟩

/-- A disk with a file in the output directory that is no target. -/
def sharedDisk : Disk :=
  ⟨[(["first"], .file "one".toUTF8), (["second"], .file "two".toUTF8), (["home"], .directory),
    (["home", "out"], .directory), (["home", "out", "old.go"], .file "kept".toUTF8)], ["home"]⟩

def sharedPass (set : CompiledSet) : Pass :=
  ⟨set, petDocument, ⟨"out"⟩, .none⟩

theorem exists_sharedRun :
    ∃ set, CompiledSet.load sharedDisk ⟨"/"⟩ sharedManifest = .ok set ∧
      ((sharedPass set).run .onDisk sharedDisk).1 = .ok () ∧
      (sharedPass set).plannedCalls (sharedPass set).jobs =
        .ok [(⟨"out/api/all.go"⟩, "one"), (⟨"out/api/all.go"⟩, "two")] ∧
      ((sharedPass set).run .onDisk sharedDisk).2.device.resolve ⟨"out/api/all.go"⟩ =
        .ok ["home", "out", "api", "all.go"] := by
  have hrun : ((CompiledSet.load sharedDisk ⟨"/"⟩ sharedManifest).toOption.map fun set =>
      let result := (sharedPass set).run .onDisk sharedDisk
      (result.1.toOption, ((sharedPass set).plannedCalls (sharedPass set).jobs).toOption,
        (result.2.device.resolve ⟨"out/api/all.go"⟩).toOption)) =
      some (some (), some [(⟨"out/api/all.go"⟩, "one"), (⟨"out/api/all.go"⟩, "two")],
        some ["home", "out", "api", "all.go"]) := by
    decide +kernel
  obtain ⟨set, hset, hresult⟩ := Option.map_eq_some_iff.mp hrun
  obtain ⟨hok, hrest⟩ := Prod.mk.inj hresult
  obtain ⟨hcalls, hresolve⟩ := Prod.mk.inj hrest
  exact ⟨set, Traversal.eq_ok_of_toOption hset, Traversal.eq_ok_of_toOption hok,
    Traversal.eq_ok_of_toOption hcalls, Traversal.eq_ok_of_toOption hresolve⟩

theorem run_onDisk_shared :
    ∃ set, CompiledSet.load sharedDisk ⟨"/"⟩ sharedManifest = .ok set ∧
      ∃ final, (sharedPass set).run .onDisk sharedDisk = (.ok (), final) ∧
        final.device.node? ["home", "out", "api", "all.go"] = some (.file "two".toUTF8) ∧
        final.device.hasDirectory ["home", "out", "api"] = true ∧
        final.device.node? ["home", "out", "old.go"] = some (.file "kept".toUTF8) := by
  obtain ⟨set, hload, hok, hplanned, hplace⟩ := exists_sharedRun
  have hfinal : (sharedPass set).run .onDisk sharedDisk =
      (.ok (), ((sharedPass set).run .onDisk sharedDisk).2) := Prod.ext hok rfl
  refine ⟨set, hload, _, hfinal, ?_⟩
  have htree : sharedDisk.IsTree := by decide
  obtain ⟨calls, hcalls, hpaths, hwritten, hkept⟩ := (run_onDisk (sharedPass set) htree).2 _ hfinal
  obtain rfl := Except.ok.inj (hplanned.symm.trans hcalls)
  have hrendered : ∀ path, path = ⟨"out/api/all.go"⟩ ↔
      ∃ record ∈ ((sharedPass set).run .onDisk sharedDisk).2.records,
        record.outcome = .rendered ∧ record.path = path := by
    intro path
    have hmem : path ∈ _ ↔ path ∈ _ := iff_of_eq (congrArg (path ∈ ·) hpaths)
    simpa [and_assoc] using hmem
  obtain ⟨record, hrecord, houtcome, hpath⟩ := (hrendered _).mp rfl
  obtain ⟨before, body, after, place, hsplit, hafter, hfound, hnode, habove⟩ :=
    hwritten record hrecord houtcome
  rw [hpath] at hsplit hafter hfound
  obtain rfl := Except.ok.inj (hplace.symm.trans hfound)
  have hbody : body = "two" := by
    rcases before with _ | ⟨first, _ | ⟨second, more⟩⟩
    · obtain rfl : [(⟨"out/api/all.go"⟩, "two")] = after := (List.cons.inj hsplit).2
      exact absurd List.mem_cons_self hafter
    · exact (Prod.mk.inj (List.cons.inj (List.cons.inj hsplit).2).1).2.symm
    · simp at hsplit
  refine ⟨by rw [hnode, hbody], habove _ (by decide) (by decide), ?_⟩
  refine (hkept ["home", "out", "old.go"] ?_ _).mpr rfl
  intro other hother hotherOutcome hreaches
  rw [(hrendered other.path).mpr ⟨other, hother, hotherOutcome, rfl⟩, hplace] at hreaches
  exact absurd (Except.ok.inj hreaches) (by decide)

end Pass

end Stencil
