import Mathlib.Data.List.Basic
import Mathlib.Data.List.Induction
import Stencil.Compilation
import Stencil.Proofs.Manifest.Rules

/-!
# Templates of a manifest

The files of a manifest refer to templates, each to its snippets and then to its source.
The templates of the manifest are these references without repetitions, in the order in
which they come first.  When the manifest keeps the rules, each stays inside the set.
-/

namespace Stencil.Manifest

/-! ## First places -/

/-- The names of a list, each at its first place. -/
def firsts (names : List String) : List String :=
  (names.foldl (fun found name => if found.contains name then found else name :: found) []).reverse

theorem firsts_concat (names : List String) (name : String) :
    firsts (names ++ [name]) =
      if name ∈ firsts names then firsts names else firsts names ++ [name] := by
  rw [firsts, List.foldl_append, List.foldl_cons, List.foldl_nil]
  by_cases hname : name ∈ firsts names
  · rw [if_pos hname, if_pos (by simpa [firsts] using hname), firsts]
  · rw [if_neg hname, if_neg (by simpa [firsts] using hname), List.reverse_cons, firsts]

@[simp]
theorem mem_firsts {names : List String} {name : String} : name ∈ firsts names ↔ name ∈ names := by
  induction names using List.reverseRecOn with
  | nil => rfl
  | append_singleton names last ih =>
      rw [firsts_concat]
      split
      · rename_i hlast
        rw [ih, List.mem_append, List.mem_singleton]
        refine ⟨.inl, ?_⟩
        rintro (hold | rfl)
        · exact hold
        · exact ih.mp hlast
      · rw [List.mem_append, List.mem_append, ih]

/-- The names come in the order of their first places. -/
theorem pairwise_firsts (names : List String) :
    (firsts names).Pairwise fun left right => names.idxOf left < names.idxOf right := by
  -- The fold decides on the last name last, and what comes after a name does not move its
  -- first place; so the induction adds names at the end.
  induction names using List.reverseRecOn with
  | nil => exact List.Pairwise.nil
  | append_singleton names last ih =>
      have hkept : (firsts names).Pairwise fun left right =>
          (names ++ [last]).idxOf left < (names ++ [last]).idxOf right := by
        apply ih.imp_of_mem
        intro left right hleft hright hlt
        rwa [List.idxOf_append_of_mem (mem_firsts.mp hleft),
          List.idxOf_append_of_mem (mem_firsts.mp hright)]
      rw [firsts_concat]
      split
      · exact hkept
      · rename_i hlast
        rw [List.pairwise_append]
        refine ⟨hkept, List.pairwise_singleton _ _, ?_⟩
        intro name hname other hother
        obtain rfl := List.mem_singleton.mp hother
        rw [List.idxOf_append_of_mem (mem_firsts.mp hname),
          List.idxOf_append_of_notMem (mt mem_firsts.mpr hlast)]
        exact Nat.lt_add_right _ (List.idxOf_lt_length_iff.mpr (mem_firsts.mp hname))

/-- The templates to which the files refer, in order. -/
def references (manifest : Manifest) : List String :=
  manifest.files.flatMap fun file => file.snippets ++ [file.source]

/-- The templates of a manifest are its references, each at its first place. -/
theorem templates_eq_firsts (manifest : Manifest) :
    manifest.templates = firsts manifest.references :=
  rfl

theorem mem_templates {manifest : Manifest} {name : String} :
    name ∈ manifest.templates ↔ name ∈ manifest.references := by
  rw [templates_eq_firsts, mem_firsts]

/-- Templates stand in the order of their first references. -/
theorem pairwise_templates (manifest : Manifest) :
    manifest.templates.Pairwise fun left right =>
      manifest.references.idxOf left < manifest.references.idxOf right := by
  rw [templates_eq_firsts]
  exact pairwise_firsts manifest.references

theorem nodup_templates (manifest : Manifest) : manifest.templates.Nodup := by
  apply manifest.pairwise_templates.imp
  rintro left _ hlt rfl
  exact Nat.lt_irrefl _ hlt

/-! ## Rules -/

/-- The templates of a manifest that keeps the rules stay inside its directory. -/
theorem staysInside_of_mem_references {manifest : Manifest} (hrules : manifest.violation? = none)
    {name : String} (hname : name ∈ manifest.references) :
    (Path.mk name).staysInside = true := by
  obtain ⟨file, hfile, hmem⟩ := List.mem_flatMap.mp hname
  obtain ⟨hsource, hsnippets⟩ := (violation?_eq_none_iff.mp hrules).inside file hfile
  rw [← isInside_iff]
  rcases List.mem_append.mp hmem with hsnippet | hlast
  · exact hsnippets name hsnippet
  · rw [List.mem_singleton.mp hlast]
    exact hsource

end Stencil.Manifest
