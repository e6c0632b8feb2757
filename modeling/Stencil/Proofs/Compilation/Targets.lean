import Mathlib
import Stencil.Compilation
import Stencil.Proofs.Engine

/-!
# Target templates of a compiled set

A compiled set keeps the expressions for the targets of its files as templates
under names made from the place of the file.  These names are all different, and
come after the names from the manifest, so nothing can take their place: the
target of a file is rendered from the expressions of that very file.
-/

namespace Stencil.CompiledSet

theorem directoryName_injective {left right : ℕ} (heq : directoryName left = directoryName right) :
    left = right := by
  rw [directoryName, directoryName, String.append_left_inj, String.append_right_inj] at heq
  exact Nat.repr_inj.mp heq

theorem fileName_injective {left right : ℕ} (heq : fileName left = fileName right) :
    left = right := by
  rw [fileName, fileName, String.append_left_inj, String.append_right_inj] at heq
  exact Nat.repr_inj.mp heq

theorem directoryName_ne_fileName (left right : ℕ) : directoryName left ≠ fileName right := by
  intro heq
  have hlast := congrArg (fun name : String => name.toList.getLast?) heq
  simp [directoryName, fileName] at hlast

/-- The names of the target templates from an index on are made from this index
or a later one. -/
theorem exists_index_of_mem_targetTexts {index : ℕ} {files : List FileSpec} {name : String}
    (hname : name ∈ (targetTexts index files).map Prod.fst) :
    ∃ place, index ≤ place ∧ (name = directoryName place ∨ name = fileName place) := by
  induction files generalizing index with
  | nil => simp [targetTexts] at hname
  | cons file rest ih =>
      simp only [targetTexts, List.map_cons, List.mem_cons] at hname
      rcases hname with hdirectory | hfile | hrest
      · exact ⟨index, le_rfl, .inl hdirectory⟩
      · exact ⟨index, le_rfl, .inr hfile⟩
      · obtain ⟨place, hplace, hmade⟩ := ih hrest
        exact ⟨place, by omega, hmade⟩

/-- No two target templates have the same name. -/
theorem nodup_targetTexts (index : ℕ) (files : List FileSpec) :
    ((targetTexts index files).map Prod.fst).Nodup := by
  induction files generalizing index with
  | nil => simp [targetTexts]
  | cons file rest ih =>
      have hlater : ∀ {name}, name ∈ (targetTexts (index + 1) rest).map Prod.fst →
          name ≠ directoryName index ∧ name ≠ fileName index := by
        intro name hname
        obtain ⟨place, hplace, rfl | rfl⟩ := exists_index_of_mem_targetTexts hname
        · refine ⟨fun heq => ?_, directoryName_ne_fileName place index⟩
          have := directoryName_injective heq
          omega
        · refine ⟨(directoryName_ne_fileName index place).symm, fun heq => ?_⟩
          have := fileName_injective heq
          omega
      simp only [targetTexts, List.map_cons, List.nodup_cons, List.mem_cons, not_or]
      exact ⟨⟨directoryName_ne_fileName index index, fun hname => (hlater hname).1 rfl⟩,
        fun hname => (hlater hname).2 rfl, ih (index + 1)⟩

/-- The target templates of a file hold its own expressions. -/
theorem mem_targetTexts {start place : ℕ} {files : List FileSpec} {file : FileSpec}
    (hfile : files[place]? = some file) :
    (directoryName (start + place), Target.normalizeExpression file.targetDirectory) ∈
        targetTexts start files ∧
      (fileName (start + place), Target.normalizeExpression file.targetName) ∈
        targetTexts start files := by
  induction files generalizing start place with
  | nil => simp at hfile
  | cons first rest ih =>
      cases place with
      | zero =>
          obtain rfl : first = file := by simpa using hfile
          simp [targetTexts]
      | succ place =>
          have hrest := @ih (start + 1) place (by simpa using hfile)
          rw [show start + 1 + place = start + (place + 1) by omega] at hrest
          simp [targetTexts, hrest]

section Load

variable {engine : Engine} {disk : Disk} {directory : Path} {manifest : Manifest}
  {set : CompiledSet engine}

/-- Compiling keeps the manifest and takes the library that the engine makes. -/
theorem compile_eq_ok_iff {texts : List (String × String)} :
    compile manifest texts = .ok set ↔ set.manifest = manifest ∧
      engine.compile filters (texts ++ targetTexts 0 manifest.files) = .ok set.library := by
  rw [compile]
  cases engine.compile filters (texts ++ targetTexts 0 manifest.files) with
  | error messages => simp
  | ok library =>
      obtain ⟨setManifest, setLibrary⟩ := set
      simp [eq_comm]

variable (hload : load disk directory manifest = .ok set)
include hload

/-- A loaded set is compiled from what is read for the templates of its manifest and from
the target templates. -/
theorem exists_sources_of_load :
    set.manifest = manifest ∧ ∃ texts,
      List.Forall₂ (fun name text => readTemplate disk directory name = .ok text)
        manifest.templates texts ∧
      engine.compile filters (texts ++ targetTexts 0 manifest.files) = .ok set.library := by
  obtain ⟨texts, htexts, hcompiled⟩ := Traversal.bind_eq_ok_iff.mp hload
  obtain ⟨hmanifest, hlibrary⟩ := compile_eq_ok_iff.mp hcompiled
  exact ⟨hmanifest, texts, Traversal.mapM_eq_ok_iff.mp htexts, hlibrary⟩

/-- The target templates come last, so nothing takes their place. -/
theorem exists_texts_of_mem_targetTexts {name text : String}
    (hmem : (name, text) ∈ targetTexts 0 manifest.files) :
    ∃ before after, name ∉ after.map Prod.fst ∧
      engine.compile filters (before ++ (name, text) :: after) = .ok set.library := by
  obtain ⟨-, texts, -, hlibrary⟩ := exists_sources_of_load hload
  obtain ⟨before, after, hsplit⟩ := List.append_of_mem hmem
  refine ⟨texts ++ before, after, ?_, ?_⟩
  · have hnodup := nodup_targetTexts 0 manifest.files
    rw [hsplit, List.map_append, List.map_cons] at hnodup
    exact (List.nodup_cons.mp hnodup.of_append_right).1
  · rw [hsplit, ← List.append_assoc] at hlibrary
    exact hlibrary

end Load

variable {engine : Engine}

theorem renderTarget_eq_ok_iff {set : CompiledSet engine} {index : ℕ} {context : Value.Fields}
    {directory name : String} :
    set.renderTarget index context = .ok (directory, name) ↔
      set.renderPart index (directoryName index) context = .ok directory ∧
        set.renderPart index (fileName index) context = .ok name := by
  simp only [renderTarget, Traversal.bind_eq_ok_iff, Except.ok.injEq, Prod.mk.injEq]
  constructor
  · rintro ⟨_, hdirectory, _, hname, rfl, rfl⟩
    exact ⟨hdirectory, hname⟩
  · rintro ⟨hdirectory, hname⟩
    exact ⟨directory, hdirectory, name, hname, rfl, rfl⟩

/-- The text of an expression, rendered as a template of its own with the given
name among the templates of the set, without blanks at its ends. -/
def expressionText? (set : CompiledSet engine) (name expression : String)
    (context : Value.Fields) : Option String :=
  (engine.renderText set.library name (Target.normalizeExpression expression)
    context).toOption.map Text.trimmed

/-- A target template that holds an expression renders it. -/
theorem renderPart_eq_expressionText? (hkeeps : engine.KeepsTexts) {disk : Disk}
    {directory : Path} {manifest : Manifest} {set : CompiledSet engine}
    (hload : load disk directory manifest = .ok set) {name expression : String}
    (hmem : (name, Target.normalizeExpression expression) ∈ targetTexts 0 manifest.files)
    (index : ℕ) (context : Value.Fields) :
    (set.renderPart index name context).toOption =
      set.expressionText? name expression context := by
  obtain ⟨before, after, hlast, hlibrary⟩ := exists_texts_of_mem_targetTexts hload hmem
  rw [renderPart, expressionText?, hkeeps.render_eq hlibrary hlast]
  cases engine.renderText set.library name (Target.normalizeExpression expression) context <;> rfl

end Stencil.CompiledSet
