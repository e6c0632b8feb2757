import Stencil.Files.Disk
import Stencil.Proofs.Path.Components
import Stencil.Proofs.Traversal

/-!
# Places that paths name

A disk only decides whether a path can be followed.  Where it leads is decided by its
segments, because there are no links.  So plain names below a directory lead to the
place of the directory and the same names after it, and different names to different
places.
-/

namespace Stencil.Disk

/-! ## Nodes -/

theorem node?_of_ne_nil (disk : Disk) {place : Place} (hplace : place ≠ []) :
    disk.node? place = (disk.nodes.find? fun entry => entry.1 == place).map Prod.snd := by
  cases place with
  | nil => exact absurd rfl hplace
  | cons first rest => rfl

theorem hasDirectory_eq_true_iff {disk : Disk} {place : Place} :
    disk.hasDirectory place = true ↔ disk.node? place = some .directory := by
  rw [hasDirectory]
  rcases disk.node? place with _ | content | _ <;> simp [Node.isDirectory]

@[simp]
theorem workingDirectory_insert (disk : Disk) (place : Place) (node : Node) :
    (disk.insert place node).workingDirectory = disk.workingDirectory := by
  unfold insert
  split <;> rfl

/-- Putting a node over another one changes no place at which a node is listed. -/
private theorem listed_comp_replace (place other : Place) (node : Node) :
    ((fun entry : Place × Node => entry.1 == other) ∘
        fun entry => if entry.1 == place then (place, node) else entry) =
      fun entry => entry.1 == other := by
  funext entry
  by_cases hentry : entry.1 = place <;> simp [hentry]

/-- A node is found at the place where it was put. -/
theorem node?_insert_self (disk : Disk) {place : Place} (hplace : place ≠ []) (node : Node) :
    (disk.insert place node).node? place = some node := by
  rw [node?_of_ne_nil _ hplace]
  unfold insert
  split
  · rename_i hpresent
    have hlisted : (disk.nodes.find? fun entry => entry.1 == place).isSome = true := by
      rwa [List.find?_isSome, ← List.any_eq_true]
    obtain ⟨found, hfound⟩ := Option.isSome_iff_exists.mp hlisted
    have hplaced : found.1 = place := by simpa using List.find?_some hfound
    rw [List.find?_map, listed_comp_replace, hfound]
    simp [hplaced]
  · rename_i habsent
    have hnone : disk.nodes.find? (fun entry => entry.1 == place) = none := by
      rwa [List.find?_eq_none, ← List.any_eq_false, ← Bool.not_eq_true]
    simp [List.find?_append, hnone]

/-- Putting a node somewhere changes no other place. -/
theorem node?_insert_of_ne (disk : Disk) {place other : Place} (hother : other ≠ place)
    (node : Node) : (disk.insert place node).node? other = disk.node? other := by
  by_cases hroot : other = []
  · rw [hroot]
    rfl
  rw [node?_of_ne_nil _ hroot, node?_of_ne_nil _ hroot]
  unfold insert
  split
  · rw [List.find?_map, listed_comp_replace, Option.map_map]
    cases hfound : disk.nodes.find? (fun entry => entry.1 == other) with
    | none => rfl
    | some found =>
        have hplaced : found.1 = other := by simpa using List.find?_some hfound
        simp [hplaced, hother]
  · simp [List.find?_append, Ne.symm hother]

/-! ## Steps along a path -/

def follow (place : Place) (segment : String) : Place :=
  if segment = "" ∨ segment = "." then place
  else if segment = ".." then place.dropLast
  else place ++ [segment]

theorem follow_of_idle (place : Place) {segment : String}
    (hsegment : Path.laterComponent? segment = none) : follow place segment = place := by
  unfold Path.laterComponent? at hsegment
  split at hsegment
  · rename_i hidle
    exact if_pos hidle
  · split at hsegment <;> cases hsegment

theorem follow_of_normal (place : Place) {segment name : String}
    (hsegment : Path.laterComponent? segment = some (.normal name)) :
    follow place segment = place ++ [name] := by
  unfold Path.laterComponent? at hsegment
  split at hsegment
  · cases hsegment
  rename_i hidle
  split at hsegment
  · cases hsegment
  rename_i hparent
  obtain rfl : segment = name := by simpa using hsegment
  rw [follow, if_neg hidle, if_neg hparent]

/-- Segments that are names or idle lead to the place of the names. -/
theorem foldl_follow (place : Place) {segments names : List String}
    (hsegments : segments.filterMap Path.laterComponent? = names.map .normal) :
    segments.foldl follow place = place ++ names := by
  induction segments generalizing place names with
  | nil =>
      obtain rfl : names = [] := by simpa using hsegments.symm
      exact (List.append_nil place).symm
  | cons segment rest ih =>
      rw [List.foldl_cons]
      cases hfirst : Path.laterComponent? segment with
      | none =>
          rw [List.filterMap_cons_none hfirst] at hsegments
          rw [follow_of_idle place hfirst, ih place hsegments]
      | some component =>
          rw [List.filterMap_cons_some hfirst] at hsegments
          obtain ⟨name, others, rfl, rfl, hothers⟩ := List.map_eq_cons_iff.mp hsegments.symm
          rw [follow_of_normal place hfirst, ih _ hothers.symm, List.append_assoc,
            List.singleton_append]

theorem below_eq_ok_iff {disk : Disk} {place next : Place} {name : String} :
    disk.below place name = .ok next ↔
      disk.hasDirectory place = true ∧ name.utf8ByteSize ≤ maxName ∧ next = place ++ [name] := by
  unfold below
  cases disk.hasDirectory place with
  | false => simp
  | true =>
      by_cases hsize : name.utf8ByteSize > maxName
      · simp [hsize, Nat.not_le_of_lt hsize]
      · simp [hsize, Nat.le_of_not_lt hsize, @eq_comm _ next]

/-- A step leads from a directory to where the segment says; to follow a name, something
must have it. -/
theorem step_eq_ok_iff {disk : Disk} {place next : Place} {segment : String} :
    disk.step place segment = .ok next ↔
      disk.hasDirectory place = true ∧ next = follow place segment ∧
        (segment = "" ∨ segment = "." ∨ segment = ".." ∨
          segment.utf8ByteSize ≤ maxName ∧ (disk.node? next).isSome = true) := by
  unfold step follow
  cases hplace : disk.hasDirectory place with
  | false => simp
  | true =>
      rw [if_neg (by decide)]
      by_cases hidle : segment = "" ∨ segment = "."
      · rw [if_pos hidle, if_pos hidle, Except.ok.injEq]
        rcases hidle with rfl | rfl <;> simp [@eq_comm _ next]
      rw [if_neg hidle, if_neg hidle]
      obtain ⟨hempty, hcurrent⟩ := not_or.mp hidle
      by_cases hparent : segment = ".."
      · simp [hparent, @eq_comm _ next]
      simp only [hempty, hcurrent, hparent, if_false, false_or, true_and,
        Traversal.bind_eq_ok_iff, below_eq_ok_iff, hplace]
      constructor
      · rintro ⟨target, ⟨hsize, rfl⟩, htarget⟩
        split at htarget
        · rename_i hpresent
          obtain rfl := Except.ok.inj htarget
          exact ⟨rfl, hsize, hpresent⟩
        · cases htarget
      · rintro ⟨rfl, hsize, hpresent⟩
        exact ⟨_, ⟨hsize, rfl⟩, by rw [if_pos hpresent]⟩

/-- A walk through directories that succeeds ends where its segments lead. -/
theorem foldl_follow_of_foldlM {disk : Disk} {place next : Place} {segments : List String}
    (hsteps : segments.foldlM disk.step place = .ok next) :
    next = segments.foldl follow place := by
  induction segments generalizing place with
  | nil => exact (Except.ok.inj hsteps).symm
  | cons segment rest ih =>
      rw [List.foldlM_cons] at hsteps
      obtain ⟨middle, hstep, hrest⟩ := Traversal.bind_eq_ok_iff.mp hsteps
      obtain ⟨-, rfl, -⟩ := step_eq_ok_iff.mp hstep
      exact ih hrest

/-! ## Whole paths -/

theorem start_eq_ok {disk : Disk} {path : Path} {place : Place} {segments : List String}
    (hstart : disk.start path = .ok (place, segments)) :
    place = (if path.isAbsolute then [] else disk.workingDirectory) ∧
      segments = path.segments.drop (if path.isAbsolute then 1 else 0) := by
  unfold start at hstart
  split at hstart
  · cases hstart
  split at hstart
  · cases hstart
  split at hstart
  · cases hstart
  split at hstart
  · rename_i habsolute
    simpa [habsolute, eq_comm] using hstart
  · rename_i hrelative
    simpa [hrelative, eq_comm] using hstart

/-- A path that can be followed leads to where its segments say. -/
theorem place_of_resolve {disk : Disk} {path : Path} {place : Place}
    (hresolve : disk.resolve path = .ok place) :
    place = (path.segments.drop (if path.isAbsolute then 1 else 0)).foldl follow
      (if path.isAbsolute then [] else disk.workingDirectory) := by
  obtain ⟨⟨origin, segments⟩, hstart, hsteps⟩ := Traversal.bind_eq_ok_iff.mp hresolve
  obtain ⟨rfl, rfl⟩ := start_eq_ok hstart
  exact foldl_follow_of_foldlM hsteps

/-- All places for relative paths below a directory continue one place, that of the
directory, when they only go down. -/
theorem exists_place_of_resolve_join (disk : Disk) (directory : Path) :
    ∃ base, (∀ place, disk.resolve directory = .ok place → place = base) ∧
      ∀ path names, path.isAbsolute = false →
        path.segments.filterMap Path.laterComponent? = names.map .normal →
        ∀ place, disk.resolve (directory.join path) = .ok place → place = base ++ names := by
  obtain ⟨front, idle, hsegments, hidle, hfront, hjoin⟩ := Path.exists_segments_join directory
  have hlong : (if directory.isAbsolute then 1 else 0) ≤ front.length := by
    split
    · rename_i habsolute
      refine List.length_pos_iff.mpr fun hnil => ?_
      simp [Path.isAbsolute, hfront hnil] at habsolute
    · exact Nat.zero_le _
  refine ⟨(front.drop (if directory.isAbsolute then 1 else 0)).foldl follow
    (if directory.isAbsolute then [] else disk.workingDirectory), ?_, ?_⟩
  · intro place hresolve
    rw [place_of_resolve hresolve, hsegments, List.drop_append_of_le_length hlong,
      List.foldl_append, @foldl_follow _ idle [] hidle, List.append_nil]
  · intro path names hrelative hnames place hresolve
    rw [place_of_resolve hresolve, Path.isAbsolute_join hrelative, hjoin path hrelative,
      List.drop_append_of_le_length hlong, List.foldl_append, foldl_follow _ hnames]

/-- All places for plain names below a directory continue one place. -/
theorem exists_place_of_resolve_join_ofNames (disk : Disk) (directory : Path) :
    ∃ base, ∀ names, names ≠ [] → (∀ name ∈ names, Path.IsPlain name) →
      ∀ place, disk.resolve (directory.join (.ofNames names)) = .ok place →
        place = base ++ names := by
  obtain ⟨base, -, hbase⟩ := disk.exists_place_of_resolve_join directory
  refine ⟨base, ?_⟩
  intro names hnames hplain
  apply hbase (.ofNames names) names (Path.isAbsolute_ofNames hnames hplain)
  rw [Path.segments_ofNames_of_isPlain hnames hplain,
    Path.filterMap_laterComponent?_of_isPlain hplain]

end Stencil.Disk
