import Stencil.Proofs.Compilation.Targets
import Stencil.Proofs.Manifest.Templates
import Stencil.Proofs.Text.Order

/-!
# Names of the templates of a set

The templates of a manifest and the target templates share one library, where a later
template takes the place of an earlier one with the same name.  The target templates come
last, and their names start with a mark.  A template of the manifest is there under its own
name as long as that is not the name of a target template, and it is listed as long as its
name does not start with the mark.
-/

namespace Stencil.CompiledSet

/-- Under a name there is the template with a text, and rendering the name renders it. -/
def Holds (set : CompiledSet) (name text : String) : Prop :=
  ∃ page, Template.Page.ofText name text = .ok page ∧ set.library.page? name = some page ∧
    ∀ context, set.renderBody name context =
      (set.library.renderPage page context).mapError fun fault =>
        .template ("Failed to render template '" ++ name ++ "': " ++ fault.message)

theorem holds_of_page? {set : CompiledSet} {name text : String} {page : Template.Page}
    (hpage : Template.Page.ofText name text = .ok page)
    (hfound : set.library.page? name = some page) : set.Holds name text := by
  refine ⟨page, hpage, hfound, ?_⟩
  intro context
  rw [renderBody]
  simp only [Template.engine, Template.Library.render_of_page? hfound]
  cases set.library.renderPage page context <;> rfl

theorem readTemplate_eq_ok_iff {disk : Disk} {directory : Path} {name other text : String} :
    readTemplate disk directory name = .ok (other, text) ↔
      name = other ∧ disk.readText (directory.join ⟨name⟩) = .ok text := by
  rw [readTemplate_eq]
  cases disk.readText (directory.join ⟨name⟩) <;> simp

/-! ## Names with the mark -/

/-- The templates made for targets are all marked. -/
theorem startsWith_targetMark_of_mem_targetTexts {index : ℕ} {files : List FileSpec}
    {name : String} (hname : name ∈ (targetTexts index files).map Prod.fst) :
    name.startsWith targetMark = true := by
  rw [String.startsWith_string_iff]
  obtain ⟨place, -, rfl | rfl⟩ := exists_index_of_mem_targetTexts hname
  · rw [directoryName, String.append_assoc, String.toList_append]
    exact List.prefix_append _ _
  · rw [fileName, String.append_assoc, String.toList_append]
    exact List.prefix_append _ _

theorem mem_templateNames {set : CompiledSet} {name : String} :
    name ∈ set.templateNames ↔
      name ∈ set.library.names ∧ name.startsWith targetMark = false := by
  rw [templateNames, List.mem_mergeSort, List.mem_filter, Bool.not_eq_true']

/-- The names are listed in order, each once. -/
theorem pairwise_templateNames {set : CompiledSet} (hnodup : set.library.names.Nodup) :
    set.templateNames.Pairwise (· < ·) := by
  apply @Text.pairwise_lt_mergeSort _ id
  · intro left right
    rw [Bool.not_eq_true', decide_eq_false_iff_not, not_lt]
    rfl
  · rw [List.map_id]
    exact hnodup.filter _

/-! ## The templates of a loaded set -/

section Sources

variable {disk : Disk} {directory : Path} {names : List String}
  {sources : List (String × String)}
variable (hsources : List.Forall₂ (fun name source => readTemplate disk directory name = .ok source)
  names sources)
include hsources

theorem map_fst_of_sources : sources.map Prod.fst = names := by
  induction hsources with
  | nil => rfl
  | cons hread _ ih => rw [List.map_cons, ih, (readTemplate_eq_ok_iff.mp hread).1]

theorem readText_of_mem_sources {name text : String} (hsource : (name, text) ∈ sources) :
    disk.readText (directory.join ⟨name⟩) = .ok text := by
  obtain ⟨_, -, hread⟩ := Traversal.exists_item_of_mem hsources hsource
  obtain ⟨rfl, htext⟩ := readTemplate_eq_ok_iff.mp hread
  exact htext

end Sources

section Load

variable {disk : Disk} {directory : Path} {manifest : Manifest} {set : CompiledSet}
variable (hload : load disk directory manifest = .ok set)
include hload

/-- A library has one template under a name, even where texts were given twice. -/
theorem nodup_libraryNames : set.library.names.Nodup := by
  obtain ⟨-, sources, -, hlibrary⟩ := exists_sources_of_load hload
  exact Template.Library.nodup_names_of_ofTexts (Template.ofTexts_of_compile hlibrary)

/-- No template of the manifest has the mark unnoticed: those without it are the listed ones. -/
theorem mem_templateNames_iff {name : String} :
    name ∈ set.templateNames ↔
      name ∈ manifest.references ∧ name.startsWith targetMark = false := by
  obtain ⟨-, sources, hsources, hlibrary⟩ := exists_sources_of_load hload
  have htexts := Template.ofTexts_of_compile hlibrary
  rw [mem_templateNames, Template.Library.mem_names_of_ofTexts htexts, List.map_append,
    List.mem_append, map_fst_of_sources hsources, Manifest.mem_templates]
  apply and_congr_left
  intro hmark
  apply or_iff_left
  intro htarget
  rw [startsWith_targetMark_of_mem_targetTexts htarget] at hmark
  cases hmark

/-- A template of the manifest is there with the text of its file, as no later one has its
name. -/
theorem holds_of_mem_references {name : String} (hname : name ∈ manifest.references)
    (hfree : name ∉ (targetTexts 0 manifest.files).map Prod.fst) :
    ∃ text, disk.readText (directory.join ⟨name⟩) = .ok text ∧ set.Holds name text := by
  obtain ⟨-, sources, hsources, hlibrary⟩ := exists_sources_of_load hload
  have hmem : name ∈ sources.map Prod.fst := by
    rw [map_fst_of_sources hsources]
    exact Manifest.mem_templates.mpr hname
  obtain ⟨⟨other, text⟩, hsource, hother⟩ := List.mem_map.mp hmem
  obtain rfl : other = name := hother
  obtain ⟨before, after, hsplit⟩ := List.append_of_mem hsource
  have hlast : other ∉ (after ++ targetTexts 0 manifest.files).map Prod.fst := by
    have hnodup := manifest.nodup_templates
    rw [← map_fst_of_sources hsources, hsplit, List.map_append, List.map_cons] at hnodup
    rw [List.map_append, List.mem_append, not_or]
    exact ⟨(List.nodup_cons.mp hnodup.of_append_right).1, hfree⟩
  rw [hsplit, List.append_assoc, List.cons_append] at hlibrary
  obtain ⟨page, hpage, hfound⟩ :=
    Template.Library.page?_of_ofTexts (Template.ofTexts_of_compile hlibrary) hlast
  exact ⟨text, readText_of_mem_sources hsources hsource, holds_of_page? hpage hfound⟩

/-- The templates of a loaded set.  Its list of names is sorted and has each template of the
manifest once, unless the name starts with the mark.  Under its name there is a template of
the manifest with the text of its file, unless the name is that of a target template, which
all start with the mark; then there is the target template. -/
theorem templates_of_load :
    set.templateNames.Pairwise (· < ·) ∧
    (∀ name, name ∈ set.templateNames ↔
      name ∈ manifest.references ∧ name.startsWith targetMark = false) ∧
    (∀ name ∈ manifest.references, name ∉ (targetTexts 0 manifest.files).map Prod.fst →
      ∃ text, disk.readText (directory.join ⟨name⟩) = .ok text ∧ set.Holds name text) ∧
    ∀ target ∈ targetTexts 0 manifest.files,
      target.1.startsWith targetMark = true ∧ set.Holds target.1 target.2 := by
  refine ⟨pairwise_templateNames (nodup_libraryNames hload), ?_, ?_, ?_⟩
  · intro name
    exact mem_templateNames_iff hload
  · intro name hname hfree
    exact holds_of_mem_references hload hname hfree
  · intro target htarget
    obtain ⟨before, after, hlast, hlibrary⟩ := exists_texts_of_mem_targetTexts hload htarget
    obtain ⟨page, hpage, hfound⟩ :=
      Template.Library.page?_of_ofTexts (Template.ofTexts_of_compile hlibrary) hlast
    exact ⟨startsWith_targetMark_of_mem_targetTexts (List.mem_map_of_mem htarget),
      holds_of_page? hpage hfound⟩

end Load

/-! ## A set whose names clash -/

/-- One file with three snippets.  One of them has the name of a target template, and
another one has only the mark. -/
def clashManifest : Manifest :=
  ⟨"clash", "", [⟨"", "model", ["@target/0/directory", "@target/notes", "head"], "go", "model",
    .supportOnce⟩]⟩

def clashDisk : Disk :=
  ⟨[(["model"], .file "model".toUTF8), (["head"], .file "head".toUTF8),
    (["@target"], .directory), (["@target", "notes"], .file "notes".toUTF8),
    (["@target", "0"], .directory), (["@target", "0", "directory"], .file "lost".toUTF8)], []⟩

theorem templates_of_load_clash :
    ∃ set : CompiledSet, load clashDisk ⟨"/"⟩ clashManifest = .ok set ∧
      (∀ name, name ∈ set.templateNames ↔
        name ∈ clashManifest.references ∧ name.startsWith targetMark = false) ∧
      (∃ text, clashDisk.readText ((Path.mk "/").join ⟨"@target/notes"⟩) = .ok text ∧
        set.Holds "@target/notes" text) ∧
      set.Holds "@target/0/directory" "go" := by
  have hloaded :
      (load clashDisk ⟨"/"⟩ clashManifest : Except Error CompiledSet).toOption.isSome := by
    decide +kernel
  obtain ⟨set, hset⟩ := Option.isSome_iff_exists.mp hloaded
  have hload := Traversal.eq_ok_of_toOption hset
  obtain ⟨-, hnames, hreferences, htargets⟩ := templates_of_load hload
  refine ⟨set, hload, hnames, ?_, ?_⟩
  · apply hreferences
    · decide +kernel
    · decide +kernel
  · exact (htargets ("@target/0/directory", "go") (by decide +kernel)).2

/-- A template with the name of a target template is not listed and has been replaced,
though the manifest keeps the rules. -/
theorem load_clash :
    clashManifest.violation? = none ∧ "@target/0/directory" ∈ clashManifest.references ∧
      ∃ set : CompiledSet, load clashDisk ⟨"/"⟩ clashManifest = .ok set ∧
        "@target/0/directory" ∉ set.templateNames ∧
        clashDisk.readText ((Path.mk "/").join ⟨"@target/0/directory"⟩) = .ok "lost" ∧
        set.renderBody "@target/0/directory" [] = .ok "go" := by
  have hresult : (load clashDisk ⟨"/"⟩ clashManifest).toOption.bind (fun set : CompiledSet =>
      (set.renderBody "@target/0/directory" []).toOption) = some "go" := by
    decide +kernel
  obtain ⟨set, hset, hbody⟩ := Option.bind_eq_some_iff.mp hresult
  refine ⟨by decide +kernel, by decide +kernel, set, Traversal.eq_ok_of_toOption hset, ?_, ?_,
    Traversal.eq_ok_of_toOption hbody⟩
  · intro hlisted
    have hmark : ("@target/0/directory" : String).startsWith targetMark = true :=
      @startsWith_targetMark_of_mem_targetTexts 0 clashManifest.files _ (by decide +kernel)
    rw [(mem_templateNames.mp hlisted).2] at hmark
    cases hmark
  · apply Traversal.eq_ok_of_toOption
    decide +kernel

end Stencil.CompiledSet
