import Mathlib.Data.List.Nodup
import Stencil.Manifest.Rules
import Stencil.Proofs.Checks

/-!
# Rules of a manifest

The rules of a manifest are listed here as checks in the order in which they are looked at:
those of the set first, then those of each file in turn.  A manifest keeps them when every
check passes, and otherwise it is reported for the first one that fails.
-/

namespace Stencil

open Text

/-- Whether a path has no components but names and dots. -/
def IsInside (path : String) : Prop :=
  ∀ component ∈ (Path.mk path).components,
    component = .current ∨ ∃ name, component = .normal name

/-- The check of paths takes those that are inside. -/
theorem isInside_iff {path : String} : IsInside path ↔ (Path.mk path).staysInside = true := by
  rw [IsInside, Path.staysInside, List.all_eq_true]
  apply forall₂_congr
  intro component _
  cases component <;> simp

namespace Manifest

/-- Whether a text is made of letters, digits, dots, underscores and hyphens and starts with a
letter or digit. -/
def IsIdentifier (id : String) : Prop :=
  (∃ first rest, id.toList = first :: rest ∧ first.isAlphanum = true) ∧
    ∀ char ∈ id.toList, char.isAlphanum = true ∨ char ∈ ['.', '_', '-']

/-- What is asked of a manifest beyond its shape. -/
structure KeepsRules (manifest : Manifest) : Prop where
  identifier : IsIdentifier manifest.id
  nonempty : manifest.files ≠ []
  texts : ∀ file ∈ manifest.files, trimmed file.source ≠ "" ∧ trimmed file.targetName ≠ "" ∧
    ∀ snippet ∈ file.snippets, trimmed snippet ≠ ""
  inside : ∀ file ∈ manifest.files, IsInside file.source ∧
    ∀ snippet ∈ file.snippets, IsInside snippet
  distinct : (manifest.files.map fun file =>
    (file.source, file.targetDirectory, file.targetName)).Nodup

def fileChecks (earlier : List FileSpec) (index : ℕ) (file : FileSpec) :
    List (Check Violation) :=
  [.need (trimmed file.source ≠ "") (.file index .emptySource),
    .need (trimmed file.targetName ≠ "") (.file index .emptyTargetName)] ++
  (file.snippets.map fun snippet =>
    .need (trimmed snippet ≠ "") (.file index (.emptySnippet snippet))) ++
  ((file.source :: file.snippets).map fun path =>
    .need (IsInside path) (.file index (.outside path))) ++
  [.need (∀ other ∈ earlier, (other.source, other.targetDirectory, other.targetName) ≠
      (file.source, file.targetDirectory, file.targetName))
    (.file index (.duplicate file.source))]

def checks (manifest : Manifest) : List (Check Violation) :=
  [.need (manifest.id ≠ "") .emptyId,
    .need (IsIdentifier manifest.id) (.badId manifest.id),
    .need (manifest.files ≠ []) (.noFiles manifest.id)] ++
  manifest.files.zipIdx.flatMap fun (file, index) =>
    fileChecks (manifest.files.take index) index file

/-! ## The search for a violation -/

theorem isIdentifier_iff {id : String} : IsIdentifier id ↔ isId id = true := by
  have hchar : ∀ char : Char,
      isIdChar char = true ↔ char.isAlphanum = true ∨ char ∈ ['.', '_', '-'] := by
    intro char
    simp [isIdChar, or_assoc]
  rw [IsIdentifier, isId]
  cases id.toList with
  | nil => simp
  | cons first rest =>
      simp only [Bool.and_eq_true, List.all_eq_true, hchar, List.forall_mem_cons]
      constructor
      · rintro ⟨⟨_, _, hsplit, hfirst⟩, -, hrest⟩
        rw [(List.cons.inj hsplit).1]
        exact ⟨hfirst, hrest⟩
      · rintro ⟨hfirst, hrest⟩
        exact ⟨⟨first, rest, rfl, hfirst⟩, .inl hfirst, hrest⟩

theorem trimmed_ne_empty_iff {text : String} :
    trimmed text ≠ "" ↔ (trimmed text).isEmpty = false := by
  rw [ne_eq, ← String.isEmpty_iff, Bool.not_eq_true]

/-- The rules of one file are looked at one after the other. -/
private theorem map_violation?_eq (index : ℕ) (seen : List (String × String × String))
    (file : FileSpec) :
    (file.violation? seen).map (Violation.file index) =
      ((((if (trimmed file.source).isEmpty then some (.file index .emptySource) else none).or
            (if (trimmed file.targetName).isEmpty then some (.file index .emptyTargetName)
              else none)).or
          ((file.snippets.find? fun snippet => (trimmed snippet).isEmpty).map fun snippet =>
            .file index (.emptySnippet snippet))).or
        (((file.source :: file.snippets).find? fun path => !(Path.mk path).staysInside).map
          fun path => .file index (.outside path))).or
        (if decide (file.identity ∈ seen) then some (.file index (.duplicate file.source))
          else none) := by
  rw [FileSpec.violation?, FileSpec.ownViolation?]
  cases (trimmed file.source).isEmpty with
  | true => rfl
  | false =>
      cases (trimmed file.targetName).isEmpty with
      | true => rfl
      | false =>
          cases file.snippets.find? fun snippet => (trimmed snippet).isEmpty with
          | some snippet => rfl
          | none =>
              cases (file.source :: file.snippets).find? fun path =>
                  !(Path.mk path).staysInside with
              | some path => rfl
              | none => by_cases hseen : file.identity ∈ seen <;> simp [hseen]

/-- A file is reported for its first check that fails. -/
theorem reports_violation? {earlier : List FileSpec} {seen : List (String × String × String)}
    (hseen : ∀ identity, identity ∈ seen ↔ identity ∈ earlier.map FileSpec.identity)
    (index : ℕ) (file : FileSpec) :
    Check.Reports (fileChecks earlier index file)
      ((file.violation? seen).map (.file index)) := by
  have htext := fun text : String => @trimmed_ne_empty_iff text
  have hinside : ∀ path : String, IsInside path ↔ (!(Path.mk path).staysInside) = false := by
    intro path
    rw [isInside_iff, Bool.not_eq_false']
  have hfresh : (∀ other ∈ earlier, (other.source, other.targetDirectory, other.targetName) ≠
      (file.source, file.targetDirectory, file.targetName)) ↔
      decide (file.identity ∈ seen) = false := by
    rw [decide_eq_false_iff_not, hseen, List.mem_map, not_exists]
    exact forall_congr' fun other => (not_and).symm
  rw [map_violation?_eq]
  exact ((((Check.Reports.need (htext _) _).or (.need (htext _) _)).or (.find? htext _ _)).or
    (.find? hinside _ _)).or (.need hfresh _)

/-- The files from an index on are reported for the first check that fails in any of them. -/
theorem reports_filesViolation? (earlier files : List FileSpec)
    {seen : List (String × String × String)}
    (hseen : ∀ identity, identity ∈ seen ↔ identity ∈ earlier.map FileSpec.identity) :
    Check.Reports
      ((files.zipIdx earlier.length).flatMap fun (file, index) =>
        fileChecks ((earlier ++ files).take index) index file)
      (filesViolation? earlier.length seen files) := by
  -- The files of which one may be repeated are those before, whose identities have been seen.
  induction files generalizing earlier seen with
  | nil => exact .none
  | cons file rest ih =>
      have hsearch : filesViolation? earlier.length seen (file :: rest) =
          ((file.violation? seen).map (.file earlier.length)).or
            (filesViolation? (earlier ++ [file]).length (file.identity :: seen) rest) := by
        rw [filesViolation?, List.length_append, List.length_singleton]
        cases file.violation? seen <;> rfl
      have hnext : ∀ identity, identity ∈ file.identity :: seen ↔
          identity ∈ (earlier ++ [file]).map FileSpec.identity := by
        intro identity
        rw [List.mem_cons, hseen, List.map_append, List.mem_append, or_comm]
        simp
      have hrest := ih (earlier ++ [file]) hnext
      rw [List.append_assoc, List.singleton_append, List.length_append,
        List.length_singleton] at hrest
      simp only [hsearch, List.zipIdx_cons, List.flatMap_cons, List.take_left, List.length_append,
        List.length_singleton]
      exact (reports_violation? hseen earlier.length file).or hrest

/-- A manifest is reported for its first check that fails. -/
theorem reports_checks (manifest : Manifest) :
    Check.Reports manifest.checks manifest.violation? := by
  have hsearch : manifest.violation? =
      (((if manifest.id.isEmpty then some .emptyId else none).or
          (if !isId manifest.id then some (.badId manifest.id) else none)).or
        (if manifest.files.isEmpty then some (.noFiles manifest.id) else none)).or
        (filesViolation? 0 [] manifest.files) := by
    rw [violation?]
    cases manifest.id.isEmpty <;> cases isId manifest.id <;> cases manifest.files.isEmpty <;> rfl
  have hid : manifest.id ≠ "" ↔ manifest.id.isEmpty = false := by
    rw [ne_eq, ← String.isEmpty_iff, Bool.not_eq_true]
  have hidentifier : IsIdentifier manifest.id ↔ (!isId manifest.id) = false := by
    rw [isIdentifier_iff, Bool.not_eq_false']
  have hfiles : manifest.files ≠ [] ↔ manifest.files.isEmpty = false := by
    rw [ne_eq, ← List.isEmpty_iff, Bool.not_eq_true]
  have hrest := reports_filesViolation? [] manifest.files (fun _ => Iff.rfl)
  rw [hsearch]
  exact (((Check.Reports.need hid _).or (.need hidentifier _)).or (.need hfiles _)).or hrest

/-! ## All checks pass when the rules are kept -/

theorem passes_fileChecks {earlier : List FileSpec} {index : ℕ} {file : FileSpec} :
    (∀ check ∈ fileChecks earlier index file, check.Passes) ↔
      (trimmed file.source ≠ "" ∧ trimmed file.targetName ≠ "" ∧
        ∀ snippet ∈ file.snippets, trimmed snippet ≠ "") ∧
      (IsInside file.source ∧ ∀ snippet ∈ file.snippets, IsInside snippet) ∧
      ∀ other ∈ earlier, (other.source, other.targetDirectory, other.targetName) ≠
        (file.source, file.targetDirectory, file.targetName) := by
  simp only [fileChecks, List.forall_mem_append, List.forall_mem_map, List.forall_mem_cons,
    Check.passes_need]
  constructor
  · rintro ⟨⟨⟨⟨hsource, htarget, -⟩, hsnippets⟩, hinside⟩, hfresh, -⟩
    exact ⟨⟨hsource, htarget, hsnippets⟩, hinside, hfresh⟩
  · rintro ⟨⟨hsource, htarget, hsnippets⟩, hinside, hfresh⟩
    exact ⟨⟨⟨⟨hsource, htarget, List.forall_mem_nil _⟩, hsnippets⟩, hinside⟩, hfresh,
      List.forall_mem_nil _⟩

/-- Keys are distinct when none of them occurs at an earlier index. -/
theorem nodup_iff_forall_take {α β : Type} {key : α → β} {items : List α} :
    (items.map key).Nodup ↔
      ∀ entry ∈ items.zipIdx, ∀ other ∈ items.take entry.2, key other ≠ key entry.1 := by
  rw [List.Nodup, List.pairwise_map, List.pairwise_iff_getElem]
  constructor
  · intro hdistinct entry hentry other hother
    obtain ⟨hindex, hitem⟩ :=
      List.getElem?_eq_some_iff.mp (List.mem_zipIdx_iff_getElem?.mp hentry)
    obtain ⟨index, hlt, hearlier⟩ := List.mem_take_iff_getElem.mp hother
    rw [← hearlier, ← hitem]
    exact hdistinct index entry.2 _ hindex (Nat.lt_of_lt_of_le hlt (Nat.min_le_left _ _))
  · intro hfresh first second hfirst hsecond hlt
    apply hfresh (items[second], second)
    · exact List.mem_zipIdx_iff_getElem?.mpr (List.getElem?_eq_getElem hsecond)
    · exact List.mem_take_iff_getElem.mpr ⟨first, Nat.lt_min.mpr ⟨hlt, hfirst⟩, rfl⟩

theorem ne_empty_of_isIdentifier {id : String} (hid : IsIdentifier id) : id ≠ "" := by
  rintro rfl
  obtain ⟨⟨first, rest, hsplit, -⟩, -⟩ := hid
  cases hsplit

/-- All checks of a manifest pass exactly when it keeps the rules. -/
theorem passes_checks {manifest : Manifest} :
    (∀ check ∈ manifest.checks, check.Passes) ↔ manifest.KeepsRules := by
  have hfiles : (∀ check ∈ manifest.files.zipIdx.flatMap fun (file, index) =>
        fileChecks (manifest.files.take index) index file, check.Passes) ↔
      ∀ entry ∈ manifest.files.zipIdx,
        ∀ check ∈ fileChecks (manifest.files.take entry.2) entry.2 entry.1, check.Passes := by
    simp only [List.mem_flatMap]
    exact ⟨fun hall entry hentry check hcheck => hall check ⟨entry, hentry, hcheck⟩,
      fun hall check ⟨entry, hentry, hcheck⟩ => hall entry hentry check hcheck⟩
  simp only [checks, List.forall_mem_append, List.forall_mem_cons, Check.passes_need, hfiles,
    passes_fileChecks]
  have hmember : ∀ file ∈ manifest.files, ∃ entry ∈ manifest.files.zipIdx, entry.1 = file := by
    intro file hfile
    rwa [← List.zipIdx_map_fst 0 manifest.files, List.mem_map] at hfile
  constructor
  · rintro ⟨⟨-, hid, hnonempty, -⟩, hall⟩
    refine ⟨hid, hnonempty, ?_, ?_, ?_⟩
    · intro file hfile
      obtain ⟨entry, hentry, rfl⟩ := hmember file hfile
      exact (hall entry hentry).1
    · intro file hfile
      obtain ⟨entry, hentry, rfl⟩ := hmember file hfile
      exact (hall entry hentry).2.1
    · apply nodup_iff_forall_take.mpr
      intro entry hentry
      exact (hall entry hentry).2.2
  · intro hrules
    refine ⟨⟨ne_empty_of_isIdentifier hrules.identifier, hrules.identifier, hrules.nonempty,
      List.forall_mem_nil _⟩, ?_⟩
    intro entry hentry
    have hfile : entry.1 ∈ manifest.files := List.fst_mem_of_mem_zipIdx hentry
    exact ⟨hrules.texts _ hfile, hrules.inside _ hfile,
      nodup_iff_forall_take.mp hrules.distinct entry hentry⟩

theorem violation?_eq_none_iff {manifest : Manifest} :
    manifest.violation? = none ↔ manifest.KeepsRules :=
  manifest.reports_checks.eq_none_iff.trans passes_checks

/-- A manifest is accepted when it keeps the rules.  Otherwise the message is that of the first
check that fails, where the checks of the set come before those of its files, the files come in
order, and a file is listed twice where it comes later. -/
theorem validation_outcome (manifest : Manifest) :
    (manifest.violation? = none ↔ manifest.KeepsRules) ∧
      ∀ message, manifest.violation?.map Violation.message = some message ↔
        ∃ violation, Check.FirstFailure manifest.checks violation ∧
          violation.message = message := by
  refine ⟨violation?_eq_none_iff, ?_⟩
  intro message
  rw [Option.map_eq_some_iff]
  apply exists_congr
  intro violation
  rw [manifest.reports_checks violation]

/-- The second file has a blank snippet and one that leads out, and is listed before. -/
example :
    ((⟨"set", "", [⟨"", "a", [], "", "b", .apiOnce⟩,
        ⟨"", "a", ["../c", " "], "", "b", .apiOnce⟩, ⟨"", "", [], "", "b", .apiOnce⟩]⟩ :
      Manifest).violation?.map Violation.message) = some "files[1]: empty snippet path ' '" := by
  decide +kernel

end Manifest

end Stencil
