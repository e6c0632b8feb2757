import Mathlib
import Stencil.Proofs.Manifest.Templates
import Stencil.Proofs.Path.Inside
import Stencil.Proofs.Repository.Scan

/-!
# What loading a set reads

Loading reads the templates of a manifest one after the other, each from its path below the
directory of the set, and ends at the first that cannot be read.  Which paths it opens does
not show in its outcome.  So loading is written once more for any way of reading files: on
a disk it is loading as it was, and a way of reading that keeps a log tells what is opened.
-/

namespace Stencil

/-- A manifest that keeps the rules, as that of any set in a scanned repository does. -/
inductive Manifest.Accepted (manifest : Manifest) : Prop where
  | checked (hrules : manifest.violation? = none)
  | scanned {tree : FileTree} {root : Path} {repository : Repository} {set : TemplateSet}
      (hscan : Repository.scan tree root = .ok repository) (hset : set ∈ repository.sets)
      (hmanifest : set.manifest = manifest)

theorem Manifest.Accepted.violation?_eq {manifest : Manifest} (haccepted : manifest.Accepted) :
    manifest.violation? = none := by
  cases haccepted with
  | checked hrules => exact hrules
  | scanned hscan hset hmanifest =>
      obtain ⟨directories, hcatalogues⟩ := Repository.exists_catalogues_of_scan hscan
      rw [← hmanifest]
      exact Manifest.violation?_of_load (hcatalogues.load_eq _ hset)

namespace CompiledSet

/-! ## Loading with any way of reading -/

/-- The error that a template below a directory cannot be read. -/
def unreadable (directory : Path) (name : String) (fault : DiskFault) : Error :=
  .template ("Failed to read template '" ++ name ++ "' at " ++ (directory.join ⟨name⟩).text ++
    ": " ++ fault.message)

section Reader

variable {engine : Engine} {m : Type → Type} [Monad m]

/-- The text of a template below a directory, with its files read in some way. -/
def readTemplateBy (read : Path → m (Except DiskFault String)) (directory : Path)
    (name : String) : ExceptT Error m (String × String) :=
  ExceptT.mk do
    match ← read (directory.join ⟨name⟩) with
    | .ok text => return .ok (name, text)
    | .error fault => return .error (unreadable directory name fault)

def loadBy (read : Path → m (Except DiskFault String)) (directory : Path)
    (manifest : Manifest) : ExceptT Error m (CompiledSet engine) := do
  let texts ← manifest.templates.mapM (readTemplateBy read directory)
  ExceptT.mk (return compile manifest texts)

end Reader

variable {engine : Engine}

theorem mapM_exceptT_id {α β : Type} (f : α → Except Error β) (items : List α) :
    @List.mapM (ExceptT Error Id) _ _ _ f items = items.mapM f := by
  induction items with
  | nil => rfl
  | cons item rest ih =>
      rw [List.mapM_cons, Traversal.mapM_cons_eq, ih]
      cases f item with
      | error fault => rfl
      | ok result => cases rest.mapM f <;> rfl

/-- Files read plainly from a disk are what loading reads. -/
theorem loadBy_readText (disk : Disk) (directory : Path) (manifest : Manifest) :
    loadBy (m := Id) disk.readText directory manifest =
      (load disk directory manifest : Except Error (CompiledSet engine)) := by
  have hread : readTemplateBy (m := Id) disk.readText directory = readTemplate disk directory :=
    rfl
  rw [loadBy, load, hread, mapM_exceptT_id]
  cases manifest.templates.mapM (readTemplate disk directory) <;> rfl

/-- Reading with a log of the paths that are opened. -/
def logging (answer : Path → Except DiskFault String) (path : Path) :
    StateM (List Path) (Except DiskFault String) := do
  modify (· ++ [path])
  return answer path

def runLogged {α : Type} (action : ExceptT Error (StateM (List Path)) α) (log : List Path) :
    Except Error α × List Path :=
  (action.run.run log).run

/-- What loading comes to and the paths that it opens, in order. -/
def logged (answer : Path → Except DiskFault String) (directory : Path) (manifest : Manifest) :
    Except Error (CompiledSet engine) × List Path :=
  runLogged (loadBy (logging answer) directory manifest) []

section Logged

variable {α β : Type} {answer : Path → Except DiskFault String} {directory : Path}

theorem runLogged_bind_of_ok {action : ExceptT Error (StateM (List Path)) α}
    {next : α → ExceptT Error (StateM (List Path)) β} {log after : List Path} {value : α}
    (hrun : runLogged action log = (.ok value, after)) :
    runLogged (action >>= next) log = runLogged (next value) after := by
  have hstate : action.run.run log = pure (.ok value, after) := hrun
  simp [runLogged, hstate]

theorem runLogged_bind_of_error {action : ExceptT Error (StateM (List Path)) α}
    {next : α → ExceptT Error (StateM (List Path)) β} {log after : List Path} {fault : Error}
    (hrun : runLogged action log = (.error fault, after)) :
    runLogged (action >>= next) log = (.error fault, after) := by
  have hstate : action.run.run log = pure (.error fault, after) := hrun
  simp [runLogged, hstate]

/-! ## One template -/

theorem runLogged_readTemplateBy_of_ok {name text : String} (log : List Path)
    (htext : answer (directory.join ⟨name⟩) = .ok text) :
    runLogged (readTemplateBy (logging answer) directory name) log =
      (.ok (name, text), log ++ [directory.join ⟨name⟩]) := by
  simp [runLogged, readTemplateBy, logging, htext]

theorem runLogged_readTemplateBy_of_error {name : String} {fault : DiskFault} (log : List Path)
    (hfault : answer (directory.join ⟨name⟩) = .error fault) :
    runLogged (readTemplateBy (logging answer) directory name) log =
      (.error (unreadable directory name fault), log ++ [directory.join ⟨name⟩]) := by
  simp [runLogged, readTemplateBy, logging, hfault]

/-! ## All templates -/

/-- How reading templates in order goes: either all are read, or those up to the first that
cannot be read. -/
inductive Reading (answer : Path → Except DiskFault String) (directory : Path)
    (names : List String) : Except Error (List (String × String)) → List Path → Prop where
  | all {texts : List (String × String)} (hnames : texts.map Prod.fst = names)
      (htexts : ∀ entry ∈ texts, answer (directory.join ⟨entry.1⟩) = .ok entry.2) :
      Reading answer directory names (.ok texts) (names.map fun name => directory.join ⟨name⟩)
  | upTo {before after : List String} {name : String} {fault : DiskFault}
      (hnames : names = before ++ name :: after)
      (hbefore : ∀ earlier ∈ before, ∃ text, answer (directory.join ⟨earlier⟩) = .ok text)
      (hfault : answer (directory.join ⟨name⟩) = .error fault) :
      Reading answer directory names (.error (unreadable directory name fault))
        ((before ++ [name]).map fun name => directory.join ⟨name⟩)

theorem Reading.cons {name text : String} {names : List String}
    {texts : Except Error (List (String × String))} {opened : List Path}
    (htext : answer (directory.join ⟨name⟩) = .ok text)
    (hrest : Reading answer directory names texts opened) :
    Reading answer directory (name :: names) (texts.map ((name, text) :: ·))
      (directory.join ⟨name⟩ :: opened) := by
  cases hrest with
  | @all texts hnames htexts =>
      apply Reading.all
      · rw [List.map_cons, hnames]
      · simpa [htext] using htexts
  | @upTo before after failing fault hnames hbefore hfault =>
      refine @Reading.upTo _ _ _ (name :: before) after failing fault ?_ ?_ ?_
      · rw [hnames, List.cons_append]
      · simpa [htext] using hbefore
      · exact hfault

/-- Reading templates one after the other opens the first ones, up to the first that cannot be
read, and logs just those. -/
theorem exists_reading_of_mapM (names : List String) (log : List Path) :
    ∃ texts opened, Reading answer directory names texts opened ∧
      runLogged (names.mapM (readTemplateBy (logging answer) directory)) log =
        (texts, log ++ opened) := by
  -- The other templates are read with the path of the first in the log, so the log is free.
  induction names generalizing log with
  | nil =>
      exact ⟨.ok [], [], .all rfl (by simp), by simp [runLogged]⟩
  | cons name rest ih =>
      rw [List.mapM_cons]
      cases hanswer : answer (directory.join ⟨name⟩) with
      | error fault =>
          refine ⟨_, _, @Reading.upTo _ _ _ [] rest name fault rfl (by simp) hanswer, ?_⟩
          exact runLogged_bind_of_error (runLogged_readTemplateBy_of_error log hanswer)
      | ok text =>
          obtain ⟨texts, opened, hreading, hrun⟩ := ih (log ++ [directory.join ⟨name⟩])
          refine ⟨_, _, hreading.cons hanswer, ?_⟩
          rw [runLogged_bind_of_ok (runLogged_readTemplateBy_of_ok log hanswer)]
          cases texts with
          | ok texts =>
              rw [runLogged_bind_of_ok hrun]
              simp [runLogged, Except.map]
          | error fault =>
              rw [runLogged_bind_of_error hrun]
              simp [Except.map]

theorem mapM_readTemplate_of_reading {disk : Disk} {names : List String}
    {texts : Except Error (List (String × String))} {opened : List Path}
    (hreading : Reading disk.readText directory names texts opened) :
    names.mapM (readTemplate disk directory) = texts := by
  cases hreading with
  | @all texts hnames htexts =>
      rw [← hnames, Traversal.mapM_eq_ok_iff, List.forall₂_map_left_iff, List.forall₂_same]
      intro entry hentry
      simp [readTemplate_eq, htexts entry hentry]
  | @upTo before after name fault hnames hbefore hfault =>
      rw [hnames]
      apply Traversal.mapM_eq_error_of_first
      · intro earlier hearlier
        obtain ⟨text, htext⟩ := hbefore earlier hearlier
        exact ⟨(earlier, text), by simp [readTemplate_eq, htext]⟩
      · simp [readTemplate_eq, hfault, unreadable]

/-- Loading reads the templates of the manifest and compiles their texts. -/
theorem exists_reading_of_logged (answer : Path → Except DiskFault String) (directory : Path)
    (manifest : Manifest) :
    ∃ texts opened, (logged answer directory manifest : Except Error (CompiledSet engine) × _) =
        (texts >>= compile manifest, opened) ∧
      Reading answer directory manifest.templates texts opened := by
  obtain ⟨texts, opened, hreading, hrun⟩ :=
    @exists_reading_of_mapM answer directory manifest.templates []
  refine ⟨texts, opened, ?_, hreading⟩
  cases texts with
  | ok texts =>
      rw [logged, loadBy, runLogged_bind_of_ok hrun]
      rfl
  | error fault =>
      rw [logged, loadBy, runLogged_bind_of_error hrun]
      rfl

/-- Logging the reads changes nothing of what is loaded. -/
theorem fst_logged (disk : Disk) (directory : Path) (manifest : Manifest) :
    (logged disk.readText directory manifest).1 =
      (load disk directory manifest : Except Error (CompiledSet engine)) := by
  obtain ⟨texts, opened, hlogged, hreading⟩ :=
    exists_reading_of_logged disk.readText directory manifest
  rw [hlogged, ← mapM_readTemplate_of_reading hreading]
  rfl

/-- The paths that are opened are those of the first names. -/
theorem Reading.exists_prefix {names : List String}
    {texts : Except Error (List (String × String))} {opened : List Path}
    (hreading : Reading answer directory names texts opened) :
    ∃ first, first <+: names ∧ opened = first.map fun name => directory.join ⟨name⟩ := by
  cases hreading with
  | all hnames htexts => exact ⟨names, List.prefix_rfl, rfl⟩
  | @upTo before after name fault hnames hbefore hfault =>
      exact ⟨before ++ [name], ⟨after, by simp [hnames]⟩, rfl⟩

end Logged

/-! ## Where the templates of a set are -/

/-- A template is below a directory: its path is that of the directory with names added, and
so is the place to which it leads. -/
structure IsBelow (directory : Path) (name : String) : Prop where
  relative : (Path.mk name).isAbsolute = false
  parent_notMem : .parent ∉ (Path.mk name).components
  components_eq : directory.text ≠ "" → (directory.join ⟨name⟩).components =
    directory.components ++ (Path.mk name).names.map .normal
  /-- The empty path leaves the name as it is, so that a dot in front of it remains. -/
  components_eq_of_empty : directory.text = "" → ∃ front, (front = [] ∨ front = [.current]) ∧
    (directory.join ⟨name⟩).components = front ++ (Path.mk name).names.map .normal
  place_eq : ∀ (disk : Disk) (base place : Place), disk.resolve directory = .ok base →
    disk.resolve (directory.join ⟨name⟩) = .ok place → place = base ++ (Path.mk name).names

theorem isBelow_of_staysInside (directory : Path) {name : String}
    (hinside : (Path.mk name).staysInside = true) : IsBelow directory name where
  relative := Path.isAbsolute_of_staysInside hinside
  parent_notMem := (Path.staysInside_iff.mp hinside).2
  components_eq := Path.components_join_of_staysInside hinside
  components_eq_of_empty := by
    intro hempty
    rw [Path.join_of_empty (Path.isAbsolute_of_staysInside hinside) hempty]
    exact Path.components_of_staysInside hinside
  place_eq := by
    intro disk base place hbase hresolve
    exact Path.place_of_resolve_join_of_staysInside hinside hbase hresolve

section Accepted

variable {manifest : Manifest} (haccepted : manifest.Accepted)
include haccepted

/-- Each reference of an accepted manifest leads below the directory. -/
theorem isBelow_of_accepted (directory : Path) {name : String}
    (hname : name ∈ manifest.references) : IsBelow directory name :=
  isBelow_of_staysInside directory
    (Manifest.staysInside_of_mem_references haccepted.violation?_eq hname)

/-- Different templates have different paths. -/
theorem nodup_paths_of_accepted (directory : Path) :
    (manifest.templates.map fun name => directory.join ⟨name⟩).Nodup := by
  apply manifest.nodup_templates.map_on
  intro left hleft right hright heq
  have hsame := Path.eq_of_join_eq
    (isBelow_of_accepted haccepted directory (Manifest.mem_templates.mp hleft)).relative
    (isBelow_of_accepted haccepted directory (Manifest.mem_templates.mp hright)).relative heq
  exact congrArg Path.text hsame

/-- Loading a set opens the templates to which its manifest refers in the order in which
they come first, each once, up to the first that cannot be read; and all of them are below
the directory of the set. -/
theorem load_reads (directory : Path) :
    (∀ disk : Disk, loadBy (m := Id) disk.readText directory manifest =
        (load disk directory manifest : Except Error (CompiledSet engine)) ∧
      (logged disk.readText directory manifest).1 =
        (load disk directory manifest : Except Error (CompiledSet engine))) ∧
    (∀ name, name ∈ manifest.templates ↔ name ∈ manifest.references) ∧
    (manifest.templates.Pairwise fun left right =>
      manifest.references.idxOf left < manifest.references.idxOf right) ∧
    ∀ answer, ∃ texts opened,
      (logged answer directory manifest : Except Error (CompiledSet engine) × _) =
        (texts >>= compile manifest, opened) ∧
      Reading answer directory manifest.templates texts opened ∧
      opened.Nodup ∧
      ∀ path ∈ opened, ∃ name ∈ manifest.references, path = directory.join ⟨name⟩ ∧
        IsBelow directory name := by
  refine ⟨?_, fun name => Manifest.mem_templates, manifest.pairwise_templates, ?_⟩
  · intro disk
    exact ⟨loadBy_readText disk directory manifest, fst_logged disk directory manifest⟩
  intro answer
  obtain ⟨texts, opened, hlogged, hreading⟩ := exists_reading_of_logged answer directory manifest
  obtain ⟨first, hfirst, rfl⟩ := hreading.exists_prefix
  refine ⟨texts, _, hlogged, hreading, ?_, ?_⟩
  · exact (hfirst.sublist.map _).nodup (nodup_paths_of_accepted haccepted directory)
  · intro path hpath
    obtain ⟨name, hname, rfl⟩ := List.mem_map.mp hpath
    have hreference : name ∈ manifest.references := Manifest.mem_templates.mp (hfirst.subset hname)
    exact ⟨name, hreference, rfl, isBelow_of_accepted haccepted directory hreference⟩

end Accepted

/-! ## A set with a missing template -/

/-- Two files with a snippet in common, which they write in different ways. -/
def shelfManifest : Manifest :=
  ⟨"shelf", "", [⟨"", "go//model", ["./head", "head"], "", "model", .supportOnce⟩,
    ⟨"", "gone", ["head"], "", "gone", .supportOnce⟩,
    ⟨"", "late", [], "", "late", .supportOnce⟩]⟩

def shelfDisk : Disk :=
  ⟨[(["shelf"], .directory), (["shelf", "head"], .file "head".toUTF8),
      (["shelf", "go"], .directory), (["shelf", "go", "model"], .file "model".toUTF8),
      (["shelf", "late"], .file "late".toUTF8)], []⟩

/-- What loading comes to and what it opens. -/
def shelfLog : Except Error CompiledSet × List Path :=
  logged shelfDisk.readText ⟨"/shelf"⟩ shelfManifest

theorem load_reads_shelf :
    shelfManifest.Accepted ∧
      (load shelfDisk ⟨"/shelf"⟩ shelfManifest : Except Error CompiledSet) =
        .error (unreadable ⟨"/shelf"⟩ "gone" .notFound) ∧
      shelfLog.2 = [⟨"/shelf/./head"⟩, ⟨"/shelf/head"⟩, ⟨"/shelf/go//model"⟩, ⟨"/shelf/gone"⟩] ∧
      ∀ path ∈ shelfLog.2,
        ∃ name ∈ shelfManifest.references, path = Path.join ⟨"/shelf"⟩ ⟨name⟩ ∧
          IsBelow ⟨"/shelf"⟩ name := by
  have haccepted : shelfManifest.Accepted := .checked (by decide +kernel)
  obtain ⟨hload, -, -, hreads⟩ := load_reads haccepted ⟨"/shelf"⟩
  obtain ⟨texts, opened, hlogged, -, -, hbelow⟩ := hreads shelfDisk.readText
  refine ⟨haccepted, ?_, ?_, ?_⟩
  · rw [← (hload shelfDisk).2]
    apply Traversal.eq_error_of_map (g := fun _ => ())
    decide +kernel
  · decide +kernel
  · rw [shelfLog, hlogged]
    exact hbelow

end CompiledSet

end Stencil
