import Mathlib
import Stencil.Proofs.Path.Components
import Stencil.Proofs.Text.Order
import Stencil.Proofs.Traversal
import Stencil.Repository

/-!
# Scanning a directory

A scan looks at the directories of the sets one after the other, in the order of their
names.  Each step adds the set of one directory, or ends the scan because its manifest
cannot be loaded or its identifier is taken.  So the outcome depends on what the entries of
the root are, but not on the order in which they are listed.
-/

namespace Stencil

def FileTree.relisted (tree : FileTree) (directory : Path)
    (entries : List (String × EntryKind)) : FileTree :=
  { tree with list := Function.update tree.list directory (.ok entries) }

/-- A manifest that is loaded keeps the rules. -/
theorem Manifest.violation?_of_load {tree : FileTree} {directory : Path} {manifest : Manifest}
    (hload : load tree directory = .ok manifest) : manifest.violation? = none := by
  unfold load at hload
  split at hload
  · cases hload
  · split at hload
    · cases hload
    · obtain ⟨parsed, -, hchecked⟩ := Traversal.bind_eq_ok_iff.mp hload
      unfold checked at hchecked
      split at hchecked
      · rename_i hnone
        obtain rfl := Except.ok.inj hchecked
        exact hnone
      · cases hchecked

namespace Repository

variable {tree : FileTree}

/-! ## One directory -/

/-- The error that the sets of two directories have the same identifier. -/
def repeatedId (id : String) (first second : Path) : Error :=
  .config ("Duplicate template set id '" ++ id ++ "' in " ++ first.text ++ " and " ++ second.text)

/-- A directory is taken up when its manifest loads and has a new identifier. -/
theorem insert_eq_ok_iff {repository next : Repository} {directory : Path} :
    insert tree repository directory = .ok next ↔
      ∃ manifest, Manifest.load tree directory = .ok manifest ∧
        repository.find? manifest.id = none ∧
        next = { repository with sets := repository.sets ++ [⟨directory, manifest⟩] } := by
  rw [insert, Traversal.bind_eq_ok_iff]
  refine exists_congr fun manifest => and_congr_right fun _ => ?_
  cases repository.find? manifest.id <;> simp [eq_comm]

theorem insert_eq_error_iff {repository : Repository} {directory : Path} {fault : Error} :
    insert tree repository directory = .error fault ↔
      Manifest.load tree directory = .error fault ∨
      ∃ manifest present, Manifest.load tree directory = .ok manifest ∧
        repository.find? manifest.id = some present ∧
        fault = repeatedId manifest.id present.root directory := by
  rw [insert, Traversal.bind_eq_error_iff]
  refine or_congr_right (exists_congr fun manifest => ?_)
  cases repository.find? manifest.id <;> simp [repeatedId, eq_comm]

structure Catalogues (tree : FileTree) (directories : List Path) (sets : List TemplateSet) :
    Prop where
  roots_eq : sets.map TemplateSet.root = directories
  load_eq : ∀ set ∈ sets, Manifest.load tree set.root = .ok set.manifest
  nodup_ids : (sets.map fun set => set.manifest.id).Nodup

/-- Why a directory ends a scan that has found some sets. -/
inductive Blocks (tree : FileTree) (sets : List TemplateSet) (directory : Path) : Error → Prop where
  | unloadable {fault : Error} (hload : Manifest.load tree directory = .error fault) :
      Blocks tree sets directory fault
  | taken {manifest : Manifest} {present : TemplateSet}
      (hload : Manifest.load tree directory = .ok manifest) (hpresent : present ∈ sets)
      (hid : present.manifest.id = manifest.id) :
      Blocks tree sets directory (repeatedId manifest.id present.root directory)

theorem id_of_find? {repository : Repository} {id : String} {set : TemplateSet}
    (hfind : repository.find? id = some set) : set ∈ repository.sets ∧ set.manifest.id = id :=
  ⟨List.mem_of_find?_eq_some hfind, by simpa using List.find?_some hfind⟩

theorem blocks_of_insert {repository : Repository} {directory : Path} {fault : Error}
    (hinsert : insert tree repository directory = .error fault) :
    Blocks tree repository.sets directory fault := by
  rcases insert_eq_error_iff.mp hinsert with hload | ⟨manifest, present, hload, hfind, rfl⟩
  · exact .unloadable hload
  · obtain ⟨hpresent, hid⟩ := id_of_find? hfind
    exact .taken hload hpresent hid

theorem catalogues_of_insert {repository next : Repository} {directories : List Path}
    {directory : Path} (hcatalogues : Catalogues tree directories repository.sets)
    (hinsert : insert tree repository directory = .ok next) :
    Catalogues tree (directories ++ [directory]) next.sets ∧ next.root = repository.root := by
  obtain ⟨manifest, hload, hfind, rfl⟩ := insert_eq_ok_iff.mp hinsert
  have hfresh : manifest.id ∉ repository.sets.map fun set => set.manifest.id := by
    intro hmem
    obtain ⟨set, hset, hid⟩ := List.mem_map.mp hmem
    have hother := List.find?_eq_none.mp hfind set hset
    simp [hid] at hother
  refine ⟨⟨?_, ?_, ?_⟩, rfl⟩
  · rw [List.map_append, hcatalogues.roots_eq]
    rfl
  · intro set hset
    rcases List.mem_append.mp hset with hold | hnew
    · exact hcatalogues.load_eq set hold
    · obtain rfl := List.mem_singleton.mp hnew
      exact hload
  · rw [List.map_append]
    exact hcatalogues.nodup_ids.append (List.nodup_singleton _) (by simpa using hfresh)

/-! ## All directories -/

theorem catalogues_nil (tree : FileTree) (root : Path) :
    Catalogues tree [] (Repository.mk root []).sets :=
  ⟨rfl, by simp, List.nodup_nil⟩

/-- The scan takes up one directory after the other. -/
theorem catalogues_of_foldlM {repository final : Repository} {directories later : List Path}
    (hcatalogues : Catalogues tree directories repository.sets)
    (hfold : later.foldlM (insert tree) repository = .ok final) :
    Catalogues tree (directories ++ later) final.sets ∧ final.root = repository.root := by
  induction later generalizing repository directories with
  | nil =>
      obtain rfl := Except.ok.inj hfold
      exact ⟨by simpa using hcatalogues, rfl⟩
  | cons directory rest ih =>
      rw [List.foldlM_cons] at hfold
      obtain ⟨next, hnext, hrest⟩ := Traversal.bind_eq_ok_iff.mp hfold
      obtain ⟨hnextCatalogues, hroot⟩ := catalogues_of_insert hcatalogues hnext
      obtain ⟨hfinal, hfinalRoot⟩ := ih hnextCatalogues hrest
      exact ⟨by simpa using hfinal, hfinalRoot.trans hroot⟩

/-- All sets that a scan finds are loaded from their directories. -/
theorem exists_catalogues_of_scan {root : Path} {repository : Repository}
    (hscan : scan tree root = .ok repository) :
    ∃ directories, Catalogues tree directories repository.sets := by
  rw [scan] at hscan
  split at hscan
  · obtain ⟨hcatalogues, -⟩ := catalogues_of_insert (catalogues_nil tree root) hscan
    exact ⟨_, hcatalogues⟩
  · split at hscan
    · obtain ⟨hcatalogues, -⟩ := catalogues_of_foldlM (catalogues_nil tree root) hscan
      exact ⟨_, hcatalogues⟩
    · cases hscan

/-- A scan that fails is ended by a directory after others whose sets it has found. -/
def FirstBlocked (tree : FileTree) (directories : List Path) (fault : Error) : Prop :=
  ∃ before directory after sets, directories = before ++ directory :: after ∧
    Catalogues tree before sets ∧ Blocks tree sets directory fault

/-- A scan that fails does so at the first directory that is blocked. -/
theorem firstBlocked_of_foldlM {root : Path} {directories : List Path} {fault : Error}
    (hfold : directories.foldlM (insert tree) ⟨root, []⟩ = .error fault) :
    FirstBlocked tree directories fault := by
  obtain ⟨before, directory, after, reached, rfl, hbefore, hinsert⟩ :=
    Traversal.exists_failure_of_foldlM hfold
  obtain ⟨hcatalogues, -⟩ := catalogues_of_foldlM (catalogues_nil tree root) hbefore
  exact ⟨before, directory, after, reached.sets, rfl, hcatalogues, blocks_of_insert hinsert⟩

/-! ## Looking sets up -/

/-- What a repository says of its sets: where they are, that their manifests keep the rules,
and that each is listed once under an identifier of its own, in the order of the bytes of the
identifiers. -/
structure IsCatalogue (tree : FileTree) (root : Path) (directories : List Path)
    (repository : Repository) : Prop where
  root_eq : repository.root = root
  roots_perm : (repository.list.map TemplateSet.root).Perm directories
  load_eq : ∀ set ∈ repository.list, Manifest.load tree set.root = .ok set.manifest
  violation?_eq : ∀ set ∈ repository.list, set.manifest.violation? = none
  increasing : repository.list.Pairwise fun left right =>
    Text.bytes left.manifest.id < Text.bytes right.manifest.id
  get_eq_ok_iff : ∀ id set, repository.get id = .ok set ↔
    set ∈ repository.list ∧ set.manifest.id = id

theorem mem_list {repository : Repository} {set : TemplateSet} :
    set ∈ repository.list ↔ set ∈ repository.sets :=
  List.mem_mergeSort

theorem find?_eq_some_iff {repository : Repository} {id : String} {set : TemplateSet}
    (hnodup : (repository.sets.map fun set => set.manifest.id).Nodup) :
    repository.find? id = some set ↔ set ∈ repository.sets ∧ set.manifest.id = id := by
  constructor
  · exact id_of_find?
  · rintro ⟨hset, rfl⟩
    cases hfind : repository.find? set.manifest.id with
    | none =>
        have hother := List.find?_eq_none.mp hfind set hset
        simp at hother
    | some found =>
        obtain ⟨hfound, hid⟩ := id_of_find? hfind
        rw [List.inj_on_of_nodup_map hnodup hfound hset hid]

theorem get_eq_ok_iff_find? {repository : Repository} {id : String} {set : TemplateSet} :
    repository.get id = .ok set ↔ repository.find? id = some set := by
  rw [get]
  cases repository.find? id <;> simp

theorem isCatalogue_of_catalogues {repository : Repository} {directories : List Path}
    (hcatalogues : Catalogues tree directories repository.sets) :
    IsCatalogue tree repository.root directories repository where
  root_eq := rfl
  roots_perm := by
    rw [← hcatalogues.roots_eq]
    exact (List.mergeSort_perm _ _).map _
  load_eq := by
    intro set hset
    exact hcatalogues.load_eq set (mem_list.mp hset)
  violation?_eq := by
    intro set hset
    exact Manifest.violation?_of_load (hcatalogues.load_eq set (mem_list.mp hset))
  increasing := by
    simp only [Text.bytes_lt_bytes_iff]
    apply @Text.pairwise_lt_mergeSort _ (fun set : TemplateSet => set.manifest.id)
    · intro left right
      rw [Bool.not_eq_true', decide_eq_false_iff_not, not_lt]
    · exact hcatalogues.nodup_ids
  get_eq_ok_iff := by
    intro id set
    rw [get_eq_ok_iff_find?, find?_eq_some_iff hcatalogues.nodup_ids, mem_list]

/-! ## The directories of the sets -/

/-- The directories of the sets in a root with some entries: the root alone when it holds a
manifest; otherwise the directories among its entries that hold one, each once, in the order
of the bytes of their names. -/
inductive SetDirectories (tree : FileTree) (root : Path) (entries : List (String × EntryKind)) :
    List Path → Prop where
  | root (hroot : (Manifest.find? tree root).isSome = true) :
      SetDirectories tree root entries [root]
  | below {names : List String} (hroot : (Manifest.find? tree root).isSome = false)
      (hordered : names.Pairwise fun left right => Text.bytes left < Text.bytes right)
      (hnames : ∀ name, name ∈ names ↔ (name, .directory) ∈ entries ∧
        (Manifest.find? tree (root.join ⟨name⟩)).isSome = true) :
      SetDirectories tree root entries (names.map fun name => root.join ⟨name⟩)

/-- The directories of sets are different places. -/
theorem SetDirectories.nodup_components {root : Path} {entries : List (String × EntryKind)}
    (hplain : ∀ entry ∈ entries, Path.IsPlain entry.1) {directories : List Path}
    (hdirectories : SetDirectories tree root entries directories) :
    (directories.map Path.components).Nodup := by
  cases hdirectories with
  | root _ => simp
  | @below names _ hordered hnames =>
      have hcomponents : ∀ name ∈ names, (root.join ⟨name⟩).components =
          root.components ++ [.normal name] := by
        intro name hname
        exact Path.components_join_of_isPlain root (hplain _ ((hnames name).mp hname).1)
      have hdistinct : names.Nodup := by
        apply hordered.imp
        rintro left _ hlt rfl
        exact List.lt_irrefl _ hlt
      rw [List.map_map]
      apply hdistinct.map_on
      intro left hleft right hright heq
      have hsame : root.components ++ [.normal left] = root.components ++ [.normal right] := by
        rw [← hcomponents left hleft, ← hcomponents right hright]
        exact heq
      simpa using hsame

def directoryNames (entries : List (String × EntryKind)) : List String :=
  ((entries.filter fun entry => entry.2 = .directory).map Prod.fst).mergeSort
    fun left right => !(right < left)

def setNames (tree : FileTree) (root : Path) (entries : List (String × EntryKind)) :
    List String :=
  (directoryNames entries).filter fun name => (Manifest.find? tree (root.join ⟨name⟩)).isSome

section Names

variable {entries : List (String × EntryKind)} (hnodup : (entries.map Prod.fst).Nodup)

theorem mem_directoryNames {name : String} :
    name ∈ directoryNames entries ↔ (name, .directory) ∈ entries := by
  rw [directoryNames, List.mem_mergeSort]
  simp

theorem candidates_eq {root : Path} (hlist : tree.list root = .ok entries) :
    candidates tree root =
      .ok ((setNames tree root entries).map fun name => root.join ⟨name⟩) := by
  rw [candidates, hlist]
  exact congrArg Except.ok List.filter_map

include hnodup

theorem nodup_names_of_entries :
    (((entries.filter fun entry => entry.2 = .directory).map Prod.fst).map id).Nodup := by
  rw [List.map_id]
  exact (List.filter_sublist.map Prod.fst).nodup hnodup

theorem directoryNames_eq_of_perm {others : List (String × EntryKind)}
    (hperm : others.Perm entries) : directoryNames others = directoryNames entries := by
  apply @Text.mergeSort_eq_of_perm _ id
  · intro left right
    rw [Bool.not_eq_true', decide_eq_false_iff_not, not_lt]
    rfl
  · exact (hperm.filter _).map _
  · exact nodup_names_of_entries hnodup

theorem pairwise_directoryNames : (directoryNames entries).Pairwise (· < ·) := by
  apply @Text.pairwise_lt_mergeSort _ id
  · intro left right
    rw [Bool.not_eq_true', decide_eq_false_iff_not, not_lt]
    rfl
  · exact nodup_names_of_entries hnodup

end Names

/-! ## The outcome -/

section Scan

variable {root : Path} {entries : List (String × EntryKind)}
variable (hlist : tree.list root = .ok entries) (hnodup : (entries.map Prod.fst).Nodup)
include hlist hnodup

/-- A scan goes through the directories of the sets. -/
theorem exists_directories_of_scan :
    ∃ directories, SetDirectories tree root entries directories ∧
      scan tree root = directories.foldlM (insert tree) ⟨root, []⟩ := by
  cases hroot : (Manifest.find? tree root).isSome with
  | true =>
      refine ⟨[root], .root hroot, ?_⟩
      rw [scan, if_pos hroot, List.foldlM_cons]
      exact (bind_pure _).symm
  | false =>
      have hordered : (setNames tree root entries).Pairwise fun left right =>
          Text.bytes left < Text.bytes right :=
        ((pairwise_directoryNames hnodup).filter _).imp Text.bytes_lt_bytes_of_lt
      refine ⟨_, .below hroot hordered ?_, ?_⟩
      · intro name
        rw [setNames, List.mem_filter, mem_directoryNames]
      · rw [scan, if_neg (by simp [hroot]), candidates_eq hlist]

/-- In whatever order the entries of the root are listed, the scan is the same. -/
theorem scan_relisted {others : List (String × EntryKind)} (hperm : others.Perm entries) :
    scan (tree.relisted root others) root = scan tree root := by
  have hrelisted : (tree.relisted root others).list root = .ok others :=
    Function.update_self root _ tree.list
  have hcandidates : candidates (tree.relisted root others) root = candidates tree root := by
    rw [candidates_eq hrelisted, candidates_eq hlist, setNames, setNames,
      directoryNames_eq_of_perm hnodup hperm]
    rfl
  rw [scan, scan, hcandidates]
  rfl

/-- Scanning a directory that can be listed has the same outcome in whatever order its
entries are listed.  When it succeeds, it has found the sets of all set directories, which
are different places; otherwise the first directory that cannot be added gives the error. -/
theorem scan_outcome (hplain : ∀ entry ∈ entries, Path.IsPlain entry.1) :
    (∀ others, others.Perm entries → scan (tree.relisted root others) root = scan tree root) ∧
    ∃ directories, SetDirectories tree root entries directories ∧
      (directories.map Path.components).Nodup ∧
      (∀ repository, scan tree root = .ok repository →
        IsCatalogue tree root directories repository) ∧
      ∀ fault, scan tree root = .error fault → FirstBlocked tree directories fault := by
  refine ⟨fun others hperm => scan_relisted hlist hnodup hperm, ?_⟩
  obtain ⟨directories, hdirectories, hscan⟩ := exists_directories_of_scan hlist hnodup
  refine ⟨directories, hdirectories, hdirectories.nodup_components hplain, ?_, ?_⟩
  · intro repository hok
    rw [hscan] at hok
    obtain ⟨hcatalogues, rfl⟩ := catalogues_of_foldlM (catalogues_nil tree root) hok
    exact isCatalogue_of_catalogues hcatalogues
  · intro fault herror
    rw [hscan] at herror
    exact firstBlocked_of_foldlM herror

end Scan

/-! ## A root with two sets of one identifier -/

def manifestText (id : String) : String :=
  "\x7b\"id\": \"" ++ id ++ "\", \"files\": [\x7b\"sourceTemplate\": \"model\", " ++
    "\"targetFileName\": \"all\", \"type\": \"api_once\"\x7d]\x7d"

/-- Two directories of sets with one identifier, a third whose manifest is no manifest, one
without a manifest, and a link to a set. -/
def twinDisk : LinkedDisk :=
  ⟨⟨[(["e"], .directory), (["e", "manifest.json"], .file "[]".toUTF8),
      (["b"], .directory), (["b", "manifest.json"], .file (manifestText "pets").toUTF8),
      (["a"], .directory), (["a", "manifest.json"], .file (manifestText "pets").toUTF8),
      (["c"], .directory), (["c", "manifest.json"], .file (manifestText "cars").toUTF8),
      (["d"], .directory)], []⟩, [["c"]]⟩

def twinEntries : List (String × EntryKind) :=
  [("e", .directory), ("b", .directory), ("a", .directory), ("c", .link), ("d", .directory)]

theorem list_twinDisk : twinDisk.tree.list ⟨"/"⟩ = .ok twinEntries := by
  apply Traversal.eq_ok_of_toOption
  decide +kernel

theorem scan_twinDisk :
    scan twinDisk ⟨"/"⟩ = .error (repeatedId "pets" ⟨"/a"⟩ ⟨"/b"⟩) := by
  have hnames : setNames twinDisk ⟨"/"⟩ twinEntries = ["a", "b", "e"] := by
    have hdirectories : directoryNames twinEntries = ["a", "b", "d", "e"] := by cbv
    rw [setNames, hdirectories]
    decide +kernel
  have hroot : (Manifest.find? twinDisk ⟨"/"⟩).isSome = false := by
    decide +kernel
  rw [scan, hroot, if_neg Bool.false_ne_true, candidates_eq list_twinDisk, hnames]
  apply Traversal.eq_error_of_map (g := fun _ => ())
  decide +kernel

theorem scan_outcome_twins :
    twinDisk.tree.list ⟨"/"⟩ = .ok twinEntries ∧
      scan (twinDisk.tree.relisted ⟨"/"⟩ twinEntries.reverse) ⟨"/"⟩ = scan twinDisk ⟨"/"⟩ ∧
      ∃ directories, SetDirectories twinDisk ⟨"/"⟩ twinEntries directories ∧
        FirstBlocked twinDisk directories (repeatedId "pets" ⟨"/a"⟩ ⟨"/b"⟩) := by
  obtain ⟨hrelisted, directories, hdirectories, -, -, herror⟩ :=
    scan_outcome list_twinDisk (by decide) (by decide)
  exact ⟨list_twinDisk, hrelisted _ twinEntries.reverse_perm, directories, hdirectories,
    herror _ scan_twinDisk⟩

end Repository

end Stencil
