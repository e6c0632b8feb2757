import Mathlib.Data.List.Nodup
import Stencil.Proofs.Traversal
import Stencil.Template.Evaluate

/-!
# Pages of a library

A library of texts holds, under each name, the page of the last text with that
name.  Rendering a name is rendering that page.
-/

namespace Stencil.Template

theorem Page.name_of_ofText {name text : String} {page : Page}
    (hpage : ofText name text = .ok page) : page.name = name := by
  unfold ofText at hpage
  split at hpage
  · cases hpage
  · simp only at hpage
    split at hpage
    · cases hpage
    · cases hpage
    · obtain rfl := Except.ok.inj hpage
      rfl

namespace Library

/-- A page put in hides the page of its name, and no other. -/
theorem page?_insert (library : Library) (page : Page) (name : String) :
    (library.insert page).page? name =
      if page.name = name then some page else library.page? name := by
  obtain ⟨filters, pages⟩ := library
  simp only [insert, page?]
  induction pages with
  | nil =>
      rw [insert.put, List.find?_cons]
      by_cases hname : page.name = name <;> simp [hname, beq_eq_false_iff_ne.mpr]
  | cons other rest ih =>
      rw [insert.put]
      by_cases hother : other.name = page.name
      · by_cases hname : page.name = name <;> simp [hother, hname]
      · rw [if_neg (by simpa using hother), List.find?_cons, List.find?_cons, ih]
        by_cases hname : other.name = name
        · have hpage : page.name ≠ name := fun hsame => hother (hname.trans hsame.symm)
          simp [hname, hpage]
        · simp [beq_eq_false_iff_ne.mpr hname]

theorem page?_foldl_insert_of_not_mem {pages : List Page} {name : String} (library : Library)
    (habsent : name ∉ pages.map Page.name) :
    (pages.foldl insert library).page? name = library.page? name := by
  induction pages generalizing library with
  | nil => rfl
  | cons page rest ih =>
      obtain ⟨hpage, hrest⟩ := not_or.mp (mt List.mem_cons.mpr habsent)
      rw [List.foldl_cons, ih _ hrest, page?_insert, if_neg (Ne.symm hpage)]

/-- Whatever the check of a library says, its pages are those of its texts. -/
theorem exists_pages_of_ofTexts {filters : List (String × Engine.Filter)}
    {texts : List (String × String)} {library : Library}
    (htexts : ofTexts filters texts = .ok library) :
    ∃ pages, List.Forall₂ (fun text page => Page.ofText text.1 text.2 = .ok page) texts pages ∧
      library = pages.foldl insert (withFilters filters) := by
  obtain ⟨pages, hpages, hchecked⟩ := Traversal.bind_eq_ok_iff.mp htexts
  obtain ⟨_, -, hlibrary⟩ := Traversal.bind_eq_ok_iff.mp hchecked
  exact ⟨pages, Traversal.mapM_eq_ok_iff.mp hpages, (Except.ok.inj hlibrary).symm⟩

theorem map_name_of_forall₂ {texts : List (String × String)} {pages : List Page}
    (hpages : List.Forall₂ (fun text page => Page.ofText text.1 text.2 = .ok page) texts pages) :
    pages.map Page.name = texts.map Prod.fst :=
  Traversal.map_eq_of_forall₂ hpages fun _ _ => Page.name_of_ofText

theorem page?_foldl_insert_of_forall₂ {before after : List (String × String)}
    {name text : String} {pages : List Page} (library : Library)
    (hpages : List.Forall₂ (fun text page => Page.ofText text.1 text.2 = .ok page)
      (before ++ (name, text) :: after) pages)
    (hlast : name ∉ after.map Prod.fst) :
    ∃ page, Page.ofText name text = .ok page ∧
      (pages.foldl insert library).page? name = some page := by
  induction before generalizing pages library with
  | nil =>
      obtain _ | ⟨hpage, hafter⟩ := hpages
      rw [← map_name_of_forall₂ hafter] at hlast
      refine ⟨_, hpage, ?_⟩
      rw [List.foldl_cons, page?_foldl_insert_of_not_mem _ hlast, page?_insert,
        if_pos (Page.name_of_ofText hpage)]
  | cons first rest ih =>
      obtain _ | ⟨-, hrest⟩ := hpages
      exact ih (library.insert _) hrest

/-- The page that a library has under a name is that of the last text with it. -/
theorem page?_of_ofTexts {filters : List (String × Engine.Filter)}
    {before after : List (String × String)} {name text : String} {library : Library}
    (htexts : ofTexts filters (before ++ (name, text) :: after) = .ok library)
    (hlast : name ∉ after.map Prod.fst) :
    ∃ page, Page.ofText name text = .ok page ∧ library.page? name = some page := by
  obtain ⟨pages, hpages, rfl⟩ := exists_pages_of_ofTexts htexts
  exact page?_foldl_insert_of_forall₂ _ hpages hlast

/-! ## Names -/

/-- A new name is put at the end, a known one stays where it is. -/
theorem map_name_put (page : Page) (pages : List Page) :
    (insert.put page pages).map Page.name =
      if page.name ∈ pages.map Page.name then pages.map Page.name
      else pages.map Page.name ++ [page.name] := by
  induction pages with
  | nil => rfl
  | cons other rest ih =>
      rw [insert.put]
      by_cases hother : other.name = page.name
      · simp [hother]
      · rw [if_neg (by simpa using hother), List.map_cons, ih, List.map_cons]
        by_cases hlater : page.name ∈ rest.map Page.name
        · rw [if_pos hlater, if_pos (List.mem_cons_of_mem _ hlater)]
        · have habsent : page.name ∉ other.name :: rest.map Page.name :=
            List.not_mem_cons_of_ne_of_not_mem (Ne.symm hother) hlater
          rw [if_neg hlater, if_neg habsent, List.cons_append]

/-- Adding a page adds its name at the end unless it is there. -/
theorem names_insert (library : Library) (page : Page) :
    (library.insert page).names =
      if page.name ∈ library.names then library.names else library.names ++ [page.name] :=
  map_name_put page library.pages

theorem mem_names_insert {library : Library} {page : Page} {name : String} :
    name ∈ (library.insert page).names ↔ name ∈ library.names ∨ name = page.name := by
  rw [names_insert]
  split
  · rename_i hpage
    constructor
    · exact .inl
    · rintro (hold | rfl)
      · exact hold
      · exact hpage
  · rw [List.mem_append, List.mem_singleton]

theorem nodup_names_insert {library : Library} (hnodup : library.names.Nodup) (page : Page) :
    (library.insert page).names.Nodup := by
  rw [names_insert]
  split
  · exact hnodup
  · rename_i habsent
    rw [← List.concat_eq_append]
    exact hnodup.concat habsent

theorem mem_names_foldl_insert {pages : List Page} {library : Library} {name : String} :
    name ∈ (pages.foldl insert library).names ↔
      name ∈ library.names ∨ name ∈ pages.map Page.name := by
  induction pages generalizing library with
  | nil => simp
  | cons page rest ih =>
      rw [List.foldl_cons, ih, mem_names_insert, List.map_cons, List.mem_cons, or_assoc]

theorem nodup_names_foldl_insert {pages : List Page} {library : Library}
    (hnodup : library.names.Nodup) : (pages.foldl insert library).names.Nodup := by
  induction pages generalizing library with
  | nil => exact hnodup
  | cons page rest ih => exact ih (nodup_names_insert hnodup page)

section OfTexts

variable {filters : List (String × Engine.Filter)} {texts : List (String × String)}
  {library : Library}
variable (htexts : ofTexts filters texts = .ok library)
include htexts

/-- A library has the names of its texts, and no others. -/
theorem mem_names_of_ofTexts {name : String} :
    name ∈ library.names ↔ name ∈ texts.map Prod.fst := by
  obtain ⟨pages, hpages, rfl⟩ := exists_pages_of_ofTexts htexts
  rw [mem_names_foldl_insert, map_name_of_forall₂ hpages]
  exact or_iff_right (List.not_mem_nil)

theorem nodup_names_of_ofTexts : library.names.Nodup := by
  obtain ⟨pages, -, rfl⟩ := exists_pages_of_ofTexts htexts
  exact nodup_names_foldl_insert List.nodup_nil

end OfTexts

/-! ## Rendering -/

theorem render_of_page? {library : Library} {name : String} {page : Page}
    (hpage : library.page? name = some page) (context : Value.Fields) :
    library.render name context = library.renderPage page context := by
  rw [render, hpage]

end Library

end Stencil.Template
