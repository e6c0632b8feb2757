import Stencil.Files.Path

/-!
# Components of joined paths

Splitting a text at its slashes undoes joining names with slashes, as long as no
name holds a slash itself.  The main statement `components_join` says what this means
for paths: a relative path put below a directory leaves the components of the directory
as they are and adds its own.  For a path of plain names, these are the names.
-/

namespace Stencil.Path

open Stencil.Text

/-- A name that stands for itself in a path. -/
structure IsPlain (name : String) : Prop where
  ne_empty : name ≠ ""
  no_slash : '/' ∉ name.toList
  ne_current : name ≠ "."
  ne_parent : name ≠ ".."

instance (name : String) : Decidable (IsPlain name) :=
  decidable_of_iff (name ≠ "" ∧ '/' ∉ name.toList ∧ name ≠ "." ∧ name ≠ "..")
    ⟨fun ⟨hempty, hslash, hcurrent, hparent⟩ => ⟨hempty, hslash, hcurrent, hparent⟩,
      fun hplain => ⟨hplain.ne_empty, hplain.no_slash, hplain.ne_current, hplain.ne_parent⟩⟩

/-! ## Pieces and segments -/

/-- A text is cut at a separator. -/
theorem pieces_append_separator (separator : Char) (left right : List Char) :
    pieces separator (left ++ separator :: right) =
      pieces separator left ++ pieces separator right := by
  induction left with
  | nil => simp [pieces]
  | cons head tail ih =>
      by_cases hhead : head = separator
      · simp [pieces, hhead, ih]
      · obtain ⟨first, others, hsplit⟩ :=
          List.exists_cons_of_ne_nil (pieces_ne_nil separator tail)
        simp [pieces, hhead, ih, hsplit]

theorem pieces_of_not_mem {separator : Char} {text : List Char} (habsent : separator ∉ text) :
    pieces separator text = [text] := by
  induction text with
  | nil => rfl
  | cons head tail ih =>
      obtain ⟨hhead, htail⟩ := not_or.mp (mt List.mem_cons.mpr habsent)
      rw [pieces, if_neg (Ne.symm hhead), ih htail]

theorem not_mem_of_mem_pieces {separator : Char} {text piece : List Char}
    (hpiece : piece ∈ pieces separator text) : separator ∉ piece := by
  induction text generalizing piece with
  | nil => simp_all [pieces]
  | cons head tail ih =>
      by_cases hhead : head = separator
      · rw [pieces, if_pos hhead] at hpiece
        rcases List.mem_cons.mp hpiece with rfl | htail
        · simp
        · exact ih htail
      · obtain ⟨first, others, hsplit⟩ :=
          List.exists_cons_of_ne_nil (pieces_ne_nil separator tail)
        rw [pieces, if_neg hhead, hsplit] at hpiece
        rcases List.mem_cons.mp hpiece with rfl | hothers
        · have hfirst : separator ∉ first := ih (by simp [hsplit])
          simp [hfirst, Ne.symm hhead]
        · exact ih (by simp [hsplit, hothers])

theorem segments_ne_nil (path : Path) : path.segments ≠ [] := by
  simp [segments, pieces_ne_nil]

theorem no_slash_of_mem_segments {path : Path} {segment : String}
    (hsegment : segment ∈ path.segments) : '/' ∉ segment.toList := by
  obtain ⟨piece, hpiece, rfl⟩ := List.mem_map.mp hsegment
  simpa using not_mem_of_mem_pieces hpiece

/-- Two texts around a slash split independently of each other. -/
theorem segments_append_slash (left right : String) :
    segments ⟨left ++ "/" ++ right⟩ = segments ⟨left⟩ ++ segments ⟨right⟩ := by
  simp [segments, pieces_append_separator]

theorem segments_of_no_slash {name : String} (hname : '/' ∉ name.toList) :
    segments ⟨name⟩ = [name] := by
  simp [segments, pieces_of_not_mem hname]

/-- Names without slashes are the segments of the path made of them. -/
theorem segments_ofNames {names : List String} (hnames : names ≠ [])
    (hslash : ∀ name ∈ names, '/' ∉ name.toList) : (ofNames names).segments = names := by
  induction names with
  | nil => exact absurd rfl hnames
  | cons first rest ih =>
      have hfirst := segments_of_no_slash (hslash first List.mem_cons_self)
      cases rest with
      | nil => simpa [ofNames] using hfirst
      | cons second others =>
          have hrest := ih (by simp) fun name hname => hslash name (List.mem_cons_of_mem _ hname)
          rw [ofNames, String.intercalate_cons_cons, segments_append_slash, hfirst]
          rw [ofNames] at hrest
          rw [hrest, List.singleton_append]

theorem text_eq_empty_of_segments {path : Path} (hsegments : path.segments = [""]) :
    path.text = "" := by
  have hpieces : pieces '/' path.text.toList = [[]] := by
    simpa [segments, List.map_eq_cons_iff] using hsegments
  cases htext : path.text.toList with
  | nil => simpa using htext
  | cons head tail =>
      obtain ⟨first, others, hsplit⟩ := List.exists_cons_of_ne_nil (pieces_ne_nil '/' tail)
      by_cases hhead : head = '/' <;> simp [htext, pieces, hhead, hsplit] at hpieces

theorem segments_of_isAbsolute {path : Path} (habsolute : path.isAbsolute = true) :
    ∃ rest, rest ≠ [] ∧ path.segments = "" :: rest := by
  simp only [isAbsolute, beq_iff_eq] at habsolute
  obtain ⟨tail, htext⟩ := List.head?_eq_some_iff.mp habsolute
  refine ⟨(pieces '/' tail).map String.ofList, by simp [pieces_ne_nil], ?_⟩
  simp [segments, htext, pieces]

/-- An empty segment in front of others is what comes before a slash. -/
theorem isAbsolute_of_segments {path : Path} {rest : List String} (hrest : rest ≠ [])
    (hsegments : path.segments = "" :: rest) : path.isAbsolute = true := by
  rw [segments] at hsegments
  cases htext : path.text.toList with
  | nil =>
      simp only [htext, pieces, List.map_cons, List.map_nil, List.cons.injEq] at hsegments
      exact absurd hsegments.2.symm hrest
  | cons head tail =>
      by_cases hhead : head = '/'
      · simp [isAbsolute, htext, hhead]
      · obtain ⟨first, others, hsplit⟩ := List.exists_cons_of_ne_nil (pieces_ne_nil '/' tail)
        simp [htext, pieces, hhead, hsplit] at hsegments

/-! ## Components -/

/-- The components of the segment in front when others follow it. -/
def frontComponents (front : String) : List Component :=
  if front = "" then [.root]
  else if front = "." then [.current]
  else (laterComponent? front).toList

/-- Only an empty text, which has the empty segment alone, lacks the root that an
empty segment in front stands for otherwise. -/
theorem componentsOfSegments_cons {front : String} {rest : List String}
    (hfront : front ≠ "" ∨ rest ≠ []) :
    componentsOfSegments (front :: rest) =
      frontComponents front ++ rest.filterMap laterComponent? := by
  cases rest with
  | nil =>
      have hne : front ≠ "" := hfront.resolve_right (by simp)
      simp [componentsOfSegments, frontComponents, hne]
  | cons second others => rfl

theorem laterComponent?_of_isPlain {name : String} (hplain : IsPlain name) :
    laterComponent? name = some (.normal name) := by
  simp [laterComponent?, hplain.ne_empty, hplain.ne_current, hplain.ne_parent]

theorem filterMap_laterComponent?_of_isPlain {names : List String}
    (hplain : ∀ name ∈ names, IsPlain name) :
    names.filterMap laterComponent? = names.map .normal := by
  induction names with
  | nil => rfl
  | cons first rest ih =>
      rw [List.filterMap_cons, laterComponent?_of_isPlain (hplain first List.mem_cons_self),
        ih fun name hname => hplain name (List.mem_cons_of_mem _ hname), List.map_cons]

theorem frontComponents_of_isPlain {name : String} (hplain : IsPlain name) :
    frontComponents name = [.normal name] := by
  simp [frontComponents, hplain.ne_empty, hplain.ne_current, laterComponent?_of_isPlain hplain]

theorem isPlain_of_laterComponent? {segment name : String}
    (hslash : '/' ∉ segment.toList)
    (hcomponent : laterComponent? segment = some (.normal name)) : IsPlain name := by
  unfold laterComponent? at hcomponent
  split at hcomponent
  · cases hcomponent
  · rename_i hidle
    split at hcomponent
    · cases hcomponent
    · rename_i hparent
      obtain rfl : segment = name := by simpa using hcomponent
      exact ⟨fun hempty => hidle (.inl hempty), hslash, fun hcurrent => hidle (.inr hcurrent),
        hparent⟩

/-- Every name in a path stands there as a segment. -/
theorem exists_segment_of_normal {segments : List String} {name : String}
    (hname : Component.normal name ∈ componentsOfSegments segments) :
    ∃ segment ∈ segments, laterComponent? segment = some (.normal name) := by
  cases segments with
  | nil => simp [componentsOfSegments] at hname
  | cons front rest =>
      by_cases hfront : front ≠ "" ∨ rest ≠ []
      · rw [componentsOfSegments_cons hfront, List.mem_append] at hname
        rcases hname with hname | hname
        · refine ⟨front, List.mem_cons_self, ?_⟩
          by_cases hroot : front = ""
          · simp [frontComponents, hroot] at hname
          by_cases hcurrent : front = "."
          · simp [frontComponents, hcurrent] at hname
          · simpa [frontComponents, hroot, hcurrent] using hname
        · obtain ⟨segment, hsegment, hcomponent⟩ := List.mem_filterMap.mp hname
          exact ⟨segment, List.mem_cons_of_mem _ hsegment, hcomponent⟩
      · obtain ⟨rfl, rfl⟩ : front = "" ∧ rest = [] := by simpa using hfront
        simp [componentsOfSegments, laterComponent?] at hname

/-- Every name among the components of a path is plain. -/
theorem isPlain_of_mem_components {path : Path} {name : String}
    (hname : Component.normal name ∈ path.components) : IsPlain name := by
  obtain ⟨segment, hsegment, hcomponent⟩ := exists_segment_of_normal hname
  exact isPlain_of_laterComponent? (no_slash_of_mem_segments hsegment) hcomponent

theorem mem_names_iff {path : Path} {name : String} :
    name ∈ path.names ↔ .normal name ∈ path.components := by
  rw [names, List.mem_filterMap]
  constructor
  · rintro ⟨component, hcomponent, hname⟩
    cases component <;> cases hname
    exact hcomponent
  · intro hcomponent
    exact ⟨.normal name, hcomponent, rfl⟩

theorem isPlain_of_mem_names {path : Path} {name : String} (hname : name ∈ path.names) :
    IsPlain name :=
  isPlain_of_mem_components (mem_names_iff.mp hname)

/-- An absolute path has the root among its components. -/
theorem root_mem_components {path : Path} (habsolute : path.isAbsolute = true) :
    .root ∈ path.components := by
  obtain ⟨rest, hrest, hsegments⟩ := segments_of_isAbsolute habsolute
  rw [components, hsegments, componentsOfSegments_cons (.inr hrest)]
  simp [frontComponents]

section Names

variable {names : List String}

theorem segments_ofNames_of_isPlain (hnames : names ≠ [])
    (hplain : ∀ name ∈ names, IsPlain name) : (ofNames names).segments = names :=
  segments_ofNames hnames fun name hname => (hplain name hname).no_slash

theorem isAbsolute_ofNames (hnames : names ≠ []) (hplain : ∀ name ∈ names, IsPlain name) :
    (ofNames names).isAbsolute = false := by
  rw [Bool.eq_false_iff]
  intro habsolute
  obtain ⟨rest, -, hsegments⟩ := segments_of_isAbsolute habsolute
  rw [segments_ofNames_of_isPlain hnames hplain] at hsegments
  exact (hplain "" (by simp [hsegments])).ne_empty rfl

/-- Names that are plain are the components of the path made of them. -/
theorem components_ofNames (hnames : names ≠ []) (hplain : ∀ name ∈ names, IsPlain name) :
    (ofNames names).components = names.map .normal := by
  rw [components, segments_ofNames_of_isPlain hnames hplain]
  obtain ⟨first, rest, rfl⟩ := List.exists_cons_of_ne_nil hnames
  have hfirst := hplain first List.mem_cons_self
  rw [componentsOfSegments_cons (.inl hfirst.ne_empty), frontComponents_of_isPlain hfirst,
    filterMap_laterComponent?_of_isPlain fun name hname =>
      hplain name (List.mem_cons_of_mem _ hname)]
  rfl

end Names

/-! ## Relative paths below a directory -/

section Join

variable {path : Path} (hrelative : path.isAbsolute = false)

/-- More segments after others, of which idle ones at the end make no difference. -/
theorem componentsOfSegments_append {kept idle added : List String} (hkept : kept ≠ [])
    (hidle : idle.filterMap laterComponent? = []) (hempty : kept ++ idle ≠ [""])
    (hadded : added ≠ []) :
    componentsOfSegments (kept ++ added) =
      componentsOfSegments (kept ++ idle) ++ added.filterMap laterComponent? := by
  obtain ⟨front, rest, rfl⟩ := List.exists_cons_of_ne_nil hkept
  have hmore : front ≠ "" ∨ rest ++ added ≠ [] := .inr (by simp [hadded])
  have hfront : front ≠ "" ∨ rest ++ idle ≠ [] := by
    by_cases hblank : front = ""
    · refine .inr fun hrest => hempty ?_
      rw [List.cons_append, hrest, hblank]
    · exact .inl hblank
  rw [List.cons_append, List.cons_append, componentsOfSegments_cons hmore,
    componentsOfSegments_cons hfront, List.filterMap_append, List.filterMap_append, hidle,
    List.append_nil, List.append_assoc]

include hrelative

theorem join_of_relative (base : Path) :
    base.join path =
      if base.text = "" ∨ base.text.toList.getLast? = some '/' then ⟨base.text ++ path.text⟩
      else ⟨base.text ++ "/" ++ path.text⟩ := by
  rw [join, if_neg (by simp [hrelative])]

theorem join_of_empty {base : Path} (hempty : base.text = "") : base.join path = path := by
  rw [join_of_relative hrelative, if_pos (.inl hempty), hempty, String.empty_append]

/-- A relative path below a directory does not change whether it is absolute. -/
theorem isAbsolute_join (base : Path) : (base.join path).isAbsolute = base.isAbsolute := by
  by_cases hempty : base.text = ""
  · rw [join_of_empty hrelative hempty, hrelative]
    simp [isAbsolute, hempty]
  · have hfront : base.text.toList ≠ [] := by simpa using hempty
    obtain ⟨first, others, htext⟩ := List.exists_cons_of_ne_nil hfront
    rw [join_of_relative hrelative]
    split <;> simp [isAbsolute, htext]

omit hrelative

/-- A relative path below a directory comes after its segments, of which an empty one at the
end is left out; where the path begins does not depend on it. -/
theorem exists_segments_join (base : Path) :
    ∃ front idle, base.segments = front ++ idle ∧ idle.filterMap laterComponent? = [] ∧
      (front = [] → base.text = "") ∧
      ∀ path, path.isAbsolute = false → (base.join path).segments = front ++ path.segments := by
  obtain ⟨text⟩ := base
  by_cases hempty : text = ""
  · subst hempty
    refine ⟨[], [""], rfl, by decide, fun _ => rfl, ?_⟩
    intro path hrelative
    rw [join_of_empty hrelative rfl]
    rfl
  by_cases hslash : text.toList.getLast? = some '/'
  · obtain ⟨left, hleft⟩ := List.getLast?_eq_some_iff.mp hslash
    obtain rfl : text = String.ofList left ++ "/" ++ "" := by
      rw [← String.ofList_toList (s := text), hleft]
      simp
    refine ⟨segments ⟨String.ofList left⟩, [""], segments_append_slash _ _, by decide,
      fun hfront => absurd hfront (segments_ne_nil _), ?_⟩
    intro path hrelative
    rw [join_of_relative hrelative, if_pos (.inr hslash), String.append_empty,
      segments_append_slash]
  · refine ⟨segments ⟨text⟩, [], (List.append_nil _).symm, rfl,
      fun hfront => absurd hfront (segments_ne_nil _), ?_⟩
    intro path hrelative
    rw [join_of_relative hrelative, if_neg (not_or.mpr ⟨hempty, hslash⟩),
      segments_append_slash]

/-- A relative path below a directory: the components of the directory, and those of all
segments of the path as if none was in front. -/
theorem components_join {base : Path} (hbase : base.text ≠ "")
    (hrelative : path.isAbsolute = false) :
    (base.join path).components = base.components ++ path.segments.filterMap laterComponent? := by
  obtain ⟨front, idle, hsegments, hidle, hfront, hjoin⟩ := exists_segments_join base
  rw [components, components, hjoin path hrelative, hsegments]
  refine componentsOfSegments_append (fun hnil => hbase (hfront hnil)) hidle ?_
    (segments_ne_nil path)
  rw [← hsegments]
  exact fun hblank => hbase (text_eq_empty_of_segments hblank)

end Join

section Names

variable {names : List String}

/-- Plain names below a directory: its components, and one more for each name. -/
theorem components_join_ofNames (base : Path) (hnames : names ≠ [])
    (hplain : ∀ name ∈ names, IsPlain name) :
    (base.join (ofNames names)).components = base.components ++ names.map .normal := by
  have hrelative := isAbsolute_ofNames hnames hplain
  by_cases hempty : base.text = ""
  · have hblank : base.components = [] := by
      rw [components, segments, hempty]
      rfl
    rw [join_of_empty hrelative hempty, hblank, List.nil_append]
    exact components_ofNames hnames hplain
  · rw [components_join hempty hrelative, segments_ofNames_of_isPlain hnames hplain,
      filterMap_laterComponent?_of_isPlain hplain]

theorem components_join_of_isPlain (base : Path) {name : String} (hplain : IsPlain name) :
    (base.join ⟨name⟩).components = base.components ++ [.normal name] := by
  have hjoin := @components_join_ofNames [name] base (List.cons_ne_nil _ _) (by simpa using hplain)
  simpa [ofNames] using hjoin

end Names

end Stencil.Path
