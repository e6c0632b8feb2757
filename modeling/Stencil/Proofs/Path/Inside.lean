import Mathlib.Data.List.Basic
import Stencil.Proofs.Files.Places

/-!
# Paths that stay inside a directory

A path stays inside when it is relative and never goes up.  It consists of names then, and
of dots that lead nowhere.  Below a directory it adds its names to the components of the
directory, and what it leads to is found by these names from where the directory is.
-/

namespace Stencil.Path

variable {path : Path}

/-- A path stays inside when it is relative and never goes up. -/
theorem staysInside_iff :
    path.staysInside = true ↔ .root ∉ path.components ∧ .parent ∉ path.components := by
  rw [staysInside, List.all_eq_true]
  constructor
  · intro hall
    exact ⟨fun hroot => absurd (hall _ hroot) (by decide),
      fun hparent => absurd (hall _ hparent) (by decide)⟩
  · rintro ⟨hroot, hparent⟩ component hcomponent
    cases component with
    | root => exact absurd hcomponent hroot
    | parent => exact absurd hcomponent hparent
    | current => rfl
    | normal name => rfl

theorem isAbsolute_of_staysInside (hinside : path.staysInside = true) :
    path.isAbsolute = false := by
  rw [Bool.eq_false_iff]
  intro habsolute
  exact (staysInside_iff.mp hinside).1 (root_mem_components habsolute)

/-! ## Components -/

/-- The segment in front gives a component of its own only when it is empty or a dot. -/
theorem exists_front_of_components (path : Path) :
    ∃ front, (front = [] ∨ front = [.root] ∨ front = [.current]) ∧
      path.components = front ++ path.segments.filterMap laterComponent? := by
  obtain ⟨first, rest, hsegments⟩ := List.exists_cons_of_ne_nil path.segments_ne_nil
  rw [components, hsegments]
  by_cases hlone : first ≠ "" ∨ rest ≠ []
  · rw [componentsOfSegments_cons hlone]
    by_cases hempty : first = ""
    · exact ⟨[.root], .inr (.inl rfl), by simp [frontComponents, hempty, laterComponent?]⟩
    by_cases hcurrent : first = "."
    · exact ⟨[.current], .inr (.inr rfl), by simp [frontComponents, hcurrent, laterComponent?]⟩
    · refine ⟨[], .inl rfl, ?_⟩
      rw [frontComponents, if_neg hempty, if_neg hcurrent, List.filterMap_cons]
      cases laterComponent? first <;> rfl
  · obtain ⟨rfl, rfl⟩ : first = "" ∧ rest = [] := by simpa using hlone
    exact ⟨[], .inl rfl, rfl⟩

theorem eq_parent_or_normal_of_laterComponent? {segment : String} {component : Component}
    (hsegment : laterComponent? segment = some component) :
    component = .parent ∨ component = .normal segment := by
  unfold laterComponent? at hsegment
  split at hsegment
  · cases hsegment
  · split at hsegment
    · exact .inl (Option.some.inj hsegment).symm
    · exact .inr (Option.some.inj hsegment).symm

/-- Only a path that starts with a slash has the root among its components. -/
theorem isAbsolute_of_root_mem (hroot : .root ∈ path.components) : path.isAbsolute = true := by
  have hlater : ∀ segment, laterComponent? segment ≠ some .root := by
    intro segment hsegment
    rcases eq_parent_or_normal_of_laterComponent? hsegment with heq | heq <;> cases heq
  obtain ⟨first, rest, hsegments⟩ := List.exists_cons_of_ne_nil path.segments_ne_nil
  rw [components, hsegments] at hroot
  by_cases hempty : first = ""
  · subst hempty
    by_cases hrest : rest = []
    · subst hrest
      exact absurd hroot (by decide)
    · exact isAbsolute_of_segments hrest hsegments
  · rw [componentsOfSegments_cons (.inl hempty), List.mem_append, frontComponents,
      if_neg hempty] at hroot
    rcases hroot with hfront | hmem
    · split at hfront
      · exact absurd hfront (by decide)
      · exact absurd (Option.mem_toList.mp hfront) (hlater first)
    · obtain ⟨segment, -, hsegment⟩ := List.mem_filterMap.mp hmem
      exact absurd hsegment (hlater segment)

section Inside

variable (hinside : path.staysInside = true)
include hinside

/-- Every segment of a path that stays inside is a name or idle. -/
theorem filterMap_laterComponent?_of_staysInside :
    path.segments.filterMap laterComponent? = path.names.map .normal := by
  obtain ⟨front, hfront, hcomponents⟩ := exists_front_of_components path
  have hnormal : ∀ component ∈ path.segments.filterMap laterComponent?,
      component.name?.map .normal = some component := by
    intro component hmem
    obtain ⟨segment, -, hsegment⟩ := List.mem_filterMap.mp hmem
    rcases eq_parent_or_normal_of_laterComponent? hsegment with rfl | rfl
    · refine absurd ?_ (staysInside_iff.mp hinside).2
      rw [hcomponents]
      exact List.mem_append_right front hmem
    · rfl
  have hnameless : front.filterMap Component.name? = [] := by
    rcases hfront with rfl | rfl | rfl <;> rfl
  rw [names, hcomponents, List.filterMap_append, hnameless, List.nil_append, List.map_filterMap,
    List.filterMap_congr hnormal, List.filterMap_some]

/-- A path that stays inside consists of its names, with a dot in front of them perhaps. -/
theorem components_of_staysInside :
    ∃ front, (front = [] ∨ front = [.current]) ∧
      path.components = front ++ path.names.map .normal := by
  obtain ⟨front, hfront, hcomponents⟩ := exists_front_of_components path
  rw [filterMap_laterComponent?_of_staysInside hinside] at hcomponents
  refine ⟨front, ?_, hcomponents⟩
  rcases hfront with hnil | rfl | hcurrent
  · exact .inl hnil
  · refine absurd ?_ (staysInside_iff.mp hinside).1
    rw [hcomponents]
    exact List.mem_cons_self
  · exact .inr hcurrent

/-- A path that stays inside adds its names to the directory it is joined to. -/
theorem components_join_of_staysInside {base : Path} (hbase : base.text ≠ "") :
    (base.join path).components = base.components ++ path.names.map .normal := by
  rw [components_join hbase (isAbsolute_of_staysInside hinside),
    filterMap_laterComponent?_of_staysInside hinside]

end Inside

/-- Relative paths below a directory differ as written when they do so themselves. -/
theorem eq_of_join_eq {base left right : Path} (hleft : left.isAbsolute = false)
    (hright : right.isAbsolute = false) (heq : base.join left = base.join right) :
    left = right := by
  rw [join_of_relative hleft, join_of_relative hright] at heq
  obtain ⟨left⟩ := left
  obtain ⟨right⟩ := right
  split at heq <;> simpa using heq

/-! ## Places -/

/-- What a path below a directory leads to is below the place of the directory. -/
theorem place_of_resolve_join_of_staysInside (hinside : path.staysInside = true) {disk : Disk}
    {directory : Path} {base place : Place} (hbase : disk.resolve directory = .ok base)
    (hresolve : disk.resolve (directory.join path) = .ok place) : place = base ++ path.names := by
  obtain ⟨origin, horigin, hjoin⟩ := disk.exists_place_of_resolve_join directory
  rw [horigin base hbase]
  exact hjoin path path.names (isAbsolute_of_staysInside hinside)
    (filterMap_laterComponent?_of_staysInside hinside) place hresolve

end Stencil.Path
