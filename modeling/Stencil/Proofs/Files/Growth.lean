import Mathlib.Data.List.Induction
import Mathlib.Data.Set.Basic
import Stencil.Proofs.Files.Places

/-!
# How a disk grows

Making directories and writing files removes nothing.  A disk afterwards still has all
its directories, and all its files but those at the places that were written; so what a
path led to before, it leads to afterwards.
-/

namespace Stencil.Disk

/-! ## Trees -/

/-- Every node but the root lies in a directory. -/
def IsTree (disk : Disk) : Prop :=
  ∀ place name, (disk.node? (place ++ [name])).isSome = true → disk.hasDirectory place = true

theorem isTree_iff (disk : Disk) :
    disk.IsTree ↔ ∀ entry ∈ disk.nodes, disk.hasDirectory entry.1.dropLast = true := by
  have hpresent : ∀ place name, (disk.node? (place ++ [name])).isSome = true ↔
      ∃ entry ∈ disk.nodes, entry.1 = place ++ [name] := by
    intro place name
    rw [node?_of_ne_nil _ (by simp), Option.isSome_map, List.find?_isSome]
    simp only [beq_iff_eq]
  constructor
  · rintro htree ⟨place, node⟩ hentry
    rcases List.eq_nil_or_concat' place with rfl | ⟨above, name, rfl⟩
    · rfl
    · rw [List.dropLast_concat]
      exact htree above name ((hpresent above name).mpr ⟨_, hentry, rfl⟩)
  · intro hentries place name hplace
    obtain ⟨entry, hentry, hkey⟩ := (hpresent place name).mp hplace
    simpa [hkey] using hentries entry hentry

instance (disk : Disk) : Decidable disk.IsTree :=
  decidable_of_iff _ (isTree_iff disk).symm

/-- All that is above a node is a directory. -/
theorem IsTree.hasDirectory_above {disk : Disk} (htree : disk.IsTree) {place above : Place}
    (hplace : (disk.node? place).isSome = true) (habove : above <+: place)
    (hne : above ≠ place) : disk.hasDirectory above = true := by
  induction place using List.reverseRecOn with
  | nil => exact absurd (List.prefix_nil.mp habove) hne
  | append_singleton parent name ih =>
      have hparent := htree parent name hplace
      have hprefix := (List.prefix_concat_iff.mp habove).resolve_left hne
      by_cases hlast : above = parent
      · rwa [hlast]
      · refine ih ?_ hprefix hlast
        rw [hasDirectory_eq_true_iff.mp hparent]
        rfl

/-! ## What is kept -/

/-- What a disk keeps when no files are written but those at some places. -/
structure Keeps (written : Set Place) (before after : Disk) : Prop where
  workingDirectory : after.workingDirectory = before.workingDirectory
  directory : ∀ place, before.hasDirectory place = true → after.hasDirectory place = true
  present : ∀ place, (before.node? place).isSome = true → (after.node? place).isSome = true
  file_iff : ∀ place ∉ written, ∀ content,
    after.node? place = some (.file content) ↔ before.node? place = some (.file content)
  isTree : before.IsTree → after.IsTree

namespace Keeps

variable {written more : Set Place} {before between after : Disk}

theorem refl (written : Set Place) (disk : Disk) : Keeps written disk disk :=
  ⟨rfl, fun _ => id, fun _ => id, fun _ _ _ => Iff.rfl, id⟩

theorem mono (hmore : written ⊆ more) (hkeeps : Keeps written before after) :
    Keeps more before after where
  workingDirectory := hkeeps.workingDirectory
  directory := hkeeps.directory
  present := hkeeps.present
  file_iff place hplace := hkeeps.file_iff place fun hmem => hplace (hmore hmem)
  isTree := hkeeps.isTree

theorem trans (hfirst : Keeps written before between) (hsecond : Keeps written between after) :
    Keeps written before after where
  workingDirectory := hsecond.workingDirectory.trans hfirst.workingDirectory
  directory place hplace := hsecond.directory place (hfirst.directory place hplace)
  present place hplace := hsecond.present place (hfirst.present place hplace)
  file_iff place hplace content :=
    (hsecond.file_iff place hplace content).trans (hfirst.file_iff place hplace content)
  isTree htree := hsecond.isTree (hfirst.isTree htree)

/-- The one change there is: something is put into a directory where no directory was.
When the place does not count as written, neither the old nor the new node is a file. -/
theorem insert {disk : Disk} {parent : Place} {name : String} {node : Node}
    (hparent : disk.hasDirectory parent = true)
    (htarget : disk.hasDirectory (parent ++ [name]) = false)
    (hwritten : parent ++ [name] ∉ written → ∀ content,
      disk.node? (parent ++ [name]) ≠ some (.file content) ∧ node ≠ .file content) :
    Keeps written disk (disk.insert (parent ++ [name]) node) := by
  have htargetNe : parent ++ [name] ≠ [] := by simp
  have hdirectory : ∀ place, disk.hasDirectory place = true →
      (disk.insert (parent ++ [name]) node).hasDirectory place = true := by
    intro place hplace
    have hne : place ≠ parent ++ [name] := by
      rintro rfl
      exact absurd hplace (by simp [htarget])
    rwa [hasDirectory, node?_insert_of_ne disk hne]
  refine ⟨workingDirectory_insert .., hdirectory, ?_, ?_, ?_⟩
  · intro place hplace
    by_cases hne : place = parent ++ [name]
    · rw [hne, node?_insert_self disk htargetNe]
      rfl
    · rwa [node?_insert_of_ne disk hne]
  · intro place hplace content
    by_cases hne : place = parent ++ [name]
    · subst hne
      obtain ⟨hold, hnew⟩ := hwritten hplace content
      rw [node?_insert_self disk htargetNe]
      simp [hold, hnew]
    · rw [node?_insert_of_ne disk hne]
  · intro htree place inner hplace
    by_cases hne : place ++ [inner] = parent ++ [name]
    · obtain ⟨rfl, -⟩ := List.append_inj' hne rfl
      exact hdirectory place hparent
    · rw [node?_insert_of_ne disk hne] at hplace
      exact hdirectory place (htree place inner hplace)

/-! ## Following paths -/

theorem step_eq_ok (hkeeps : Keeps written before after) {place next : Place} {segment : String}
    (hstep : before.step place segment = .ok next) : after.step place segment = .ok next := by
  obtain ⟨hplace, hnext, hname⟩ := step_eq_ok_iff.mp hstep
  refine step_eq_ok_iff.mpr ⟨hkeeps.directory place hplace, hnext, ?_⟩
  exact hname.imp_right (Or.imp_right (Or.imp_right (And.imp_right (hkeeps.present next))))

/-- A walk through directories is not disturbed by new files. -/
theorem foldlM_eq_ok (hkeeps : Keeps written before after) {place next : Place}
    {segments : List String} (hsteps : segments.foldlM before.step place = .ok next) :
    segments.foldlM after.step place = .ok next := by
  induction segments generalizing place with
  | nil => exact hsteps
  | cons segment rest ih =>
      rw [List.foldlM_cons] at hsteps ⊢
      obtain ⟨middle, hstep, hrest⟩ := Traversal.bind_eq_ok_iff.mp hsteps
      exact Traversal.bind_eq_ok_iff.mpr ⟨middle, hkeeps.step_eq_ok hstep, ih hrest⟩

theorem start_eq (hkeeps : Keeps written before after) (path : Path) :
    after.start path = before.start path := by
  rw [start, start, hkeeps.workingDirectory]

/-- A path leads to where it led before. -/
theorem resolve_eq_ok (hkeeps : Keeps written before after) {path : Path} {place : Place}
    (hresolve : before.resolve path = .ok place) : after.resolve path = .ok place := by
  obtain ⟨origin, hstart, hsteps⟩ := Traversal.bind_eq_ok_iff.mp hresolve
  rw [resolve, hkeeps.start_eq]
  exact Traversal.bind_eq_ok_iff.mpr ⟨origin, hstart, hkeeps.foldlM_eq_ok hsteps⟩

end Keeps

/-! ## Making directories -/

theorem keeps_of_makeDirectory {disk after : Disk} {path : Path}
    (hmade : disk.makeDirectory path = .ok after) : Keeps ∅ disk after := by
  obtain ⟨⟨place, segments⟩, -, hmade⟩ := Traversal.bind_eq_ok_iff.mp hmade
  cases hlast : lastName? segments with
  | none => simp [hlast] at hmade
  | some split =>
      obtain ⟨above, name, slash⟩ := split
      simp only [hlast] at hmade
      obtain ⟨parent, -, hmade⟩ := Traversal.bind_eq_ok_iff.mp hmade
      split at hmade
      · split at hmade <;> cases hmade
      obtain ⟨target, hbelow, hmade⟩ := Traversal.bind_eq_ok_iff.mp hmade
      obtain ⟨hparent, -, rfl⟩ := below_eq_ok_iff.mp hbelow
      split at hmade
      · cases hmade
      rename_i habsent
      obtain rfl := Except.ok.inj hmade
      have hnone : disk.node? (parent ++ [name]) = none := by simpa using habsent
      refine .insert hparent ?_ ?_
      · rw [hasDirectory, hnone]
        rfl
      · intro _ content
        simp [hnone]

/-- Making directories keeps everything, whether it succeeds or not. -/
theorem keeps_makeDirectoriesFrom (disk : Disk) (paths : List Path) :
    Keeps ∅ disk (disk.makeDirectoriesFrom paths).2 := by
  induction paths generalizing disk with
  | nil => exact .refl ∅ disk
  | cons path above ih =>
      rw [makeDirectoriesFrom]
      split
      · exact .refl ∅ disk
      split
      · rename_i made hmade
        exact keeps_of_makeDirectory hmade
      split
      · have habove := ih disk
        revert habove
        rcases disk.makeDirectoriesFrom above with ⟨fault | _, higher⟩
        · exact id
        · intro habove
          simp only
          split
          · rename_i made hmade
            exact habove.trans (keeps_of_makeDirectory hmade)
          · exact habove
      · exact .refl ∅ disk

/-- Making directories writes no file, whether or not it succeeds. -/
theorem keeps_makeDirectories (disk : Disk) (path : Path) :
    Keeps ∅ disk (disk.makeDirectories path).2 :=
  keeps_makeDirectoriesFrom disk _

/-! ## Writing a file -/

theorem eq_append_of_lastName? {segments above : List String} {name : String}
    (hlast : lastName? segments = some (above, name, false)) :
    segments = above ++ [name] ∧ name ≠ "" := by
  simp only [lastName?] at hlast
  cases hreverse : segments.reverse with
  | nil => simp [hreverse] at hlast
  | cons last rest =>
      by_cases hempty : last = ""
      · simp only [hreverse, hempty] at hlast
        split at hlast <;> simp at hlast
      · obtain ⟨rfl, rfl⟩ : rest.reverse = above ∧ last = name := by
          simpa [hreverse, hempty] using hlast
        refine ⟨?_, hempty⟩
        rw [← List.reverse_reverse segments, hreverse, List.reverse_cons]

/-- A file is written into a directory, and not over a directory. -/
theorem cases_of_writeBytes {disk after : Disk} {path : Path} {content : ByteArray}
    (hwrite : disk.writeBytes path content = .ok after) :
    ∃ origin above parent name, disk.start path = .ok (origin, above ++ [name]) ∧
      above.foldlM disk.step origin = .ok parent ∧ follow parent name = parent ++ [name] ∧
      name.utf8ByteSize ≤ maxName ∧ disk.hasDirectory parent = true ∧
      disk.hasDirectory (parent ++ [name]) = false ∧
      after = disk.insert (parent ++ [name]) (.file content) := by
  obtain ⟨⟨origin, segments⟩, hstart, hwrite⟩ := Traversal.bind_eq_ok_iff.mp hwrite
  cases hlast : lastName? segments with
  | none => simp [hlast] at hwrite
  | some split =>
      obtain ⟨above, name, slash⟩ := split
      simp only [hlast] at hwrite
      obtain ⟨parent, hsteps, hwrite⟩ := Traversal.bind_eq_ok_iff.mp hwrite
      split at hwrite
      · cases hwrite
      split at hwrite
      · cases hwrite
      rename_i hname
      obtain ⟨target, hbelow, hput⟩ := Traversal.bind_eq_ok_iff.mp hwrite
      obtain ⟨hparent, hsize, rfl⟩ := below_eq_ok_iff.mp hbelow
      split at hput
      · cases hput
      rename_i htarget
      obtain ⟨rfl, hcurrent, hup⟩ : slash = false ∧ name ≠ "." ∧ name ≠ ".." := by
        simpa using hname
      obtain ⟨rfl, hempty⟩ := eq_append_of_lastName? hlast
      exact ⟨origin, above, parent, name, hstart, hsteps, by simp [follow, hempty, hcurrent, hup],
        hsize, hparent, by simpa using htarget, (Except.ok.inj hput).symm⟩

/-- The path of a file that is written leads to it from then on, and nothing else is
written. -/
theorem exists_place_of_writeBytes {disk after : Disk} {path : Path} {content : ByteArray}
    (hwrite : disk.writeBytes path content = .ok after) :
    ∃ place, Keeps {place} disk after ∧ after.resolve path = .ok place ∧
      after.node? place = some (.file content) := by
  obtain ⟨origin, above, parent, name, hstart, hsteps, hfollow, hsize, hparent, htarget, rfl⟩ :=
    cases_of_writeBytes hwrite
  have hkeeps : Keeps {parent ++ [name]} disk (disk.insert (parent ++ [name]) (.file content)) :=
    .insert hparent htarget fun hplace => absurd rfl hplace
  have hwritten := @node?_insert_self disk (parent ++ [name]) (by simp) (.file content)
  have hstep : (disk.insert (parent ++ [name]) (.file content)).step parent name =
      .ok (parent ++ [name]) :=
    step_eq_ok_iff.mpr ⟨hkeeps.directory parent hparent, hfollow.symm,
      .inr (.inr (.inr ⟨hsize, by rw [hwritten]; rfl⟩))⟩
  have hfollowed : (above ++ [name]).foldlM
      (disk.insert (parent ++ [name]) (.file content)).step origin = .ok (parent ++ [name]) := by
    rw [List.foldlM_append]
    refine Traversal.bind_eq_ok_iff.mpr ⟨parent, hkeeps.foldlM_eq_ok hsteps, ?_⟩
    rw [List.foldlM_cons, hstep]
    rfl
  refine ⟨parent ++ [name], hkeeps, ?_, hwritten⟩
  rw [resolve, hkeeps.start_eq]
  exact Traversal.bind_eq_ok_iff.mpr ⟨(origin, above ++ [name]), hstart, hfollowed⟩

end Stencil.Disk
