import Stencil.Proofs.Path.Inside
import Stencil.Proofs.Target.Names

/-!
# When two texts make a location

A directory and a file name make a location when neither leads out and there is a name to
call the file by.  The location has the names of the directory and then those of the file
name, however they are spelled.

The name for the file is looked for in the whole location.  So a file name that is nothing
but dots is taken when the directory has a name, and the file gets that name.
-/

namespace Stencil.Target

/-- Some component of the file name is more than a dot. -/
def NamesFile (fileName : String) : Prop :=
  ∃ component ∈ (Path.mk fileName).components, component ≠ .current

instance (fileName : String) : Decidable (NamesFile fileName) :=
  inferInstanceAs (Decidable (∃ component ∈ (Path.mk fileName).components, component ≠ .current))

/-! ## Texts that stay inside -/

theorem staysInside_iff_not_escapes {text : String} :
    (Path.mk text).staysInside = true ↔ ¬Escapes text := by
  rw [Path.staysInside_iff, Escapes, not_or]
  constructor
  · rintro ⟨hroot, hparent⟩
    exact ⟨fun habsolute => hroot (Path.root_mem_components habsolute), hparent⟩
  · rintro ⟨hrelative, hparent⟩
    exact ⟨fun hroot => hrelative (Path.isAbsolute_of_root_mem hroot), hparent⟩

theorem any_leadsOut_of_not_escapes {text : String} (hinside : ¬Escapes text) :
    (Path.mk text).components.any leadsOut = false := by
  obtain ⟨hroot, hparent⟩ := Path.staysInside_iff.mp (staysInside_iff_not_escapes.mpr hinside)
  rw [List.any_eq_false]
  intro component hcomponent
  cases component with
  | root => exact absurd hcomponent hroot
  | parent => exact absurd hcomponent hparent
  | current => decide
  | normal name => simp [leadsOut]

/-- Inside, to be more than dots is to have a name. -/
theorem namesFile_iff_names_ne_nil {fileName : String} (hinside : ¬Escapes fileName) :
    NamesFile fileName ↔ (Path.mk fileName).names ≠ [] := by
  obtain ⟨front, hfront, hcomponents⟩ :=
    Path.components_of_staysInside (staysInside_iff_not_escapes.mpr hinside)
  rw [NamesFile, hcomponents]
  constructor
  · rintro ⟨component, hcomponent, hne⟩
    rcases List.mem_append.mp hcomponent with hdot | hname
    · rcases hfront with rfl | rfl
      · cases hdot
      · exact absurd (List.mem_singleton.mp hdot) hne
    · obtain ⟨name, hmem, -⟩ := List.mem_map.mp hname
      exact List.ne_nil_of_mem hmem
  · intro hnames
    obtain ⟨name, hname⟩ := List.exists_mem_of_ne_nil _ hnames
    exact ⟨.normal name, List.mem_append_right _ (List.mem_map_of_mem hname), by simp⟩

namespace Location

/-! ## Locations by their names -/

/-- A location is made again from its names. -/
theorem ofNames?_names (location : Location) : ofNames? location.names = some location := by
  simp [ofNames?, names]

theorem exists_names_eq {names : List String} (hnames : names ≠ []) :
    ∃ location : Location, location.names = names := by
  obtain ⟨front, last, rfl⟩ := List.eq_nil_or_concat names |>.resolve_left hnames
  exact ⟨⟨front, last⟩, by simp [Location.names]⟩

theorem getLast?_names (location : Location) :
    location.names.getLast? = some location.fileName := by
  simp [names]

/-! ## Resolving -/

section Resolve

variable {directory fileName : String}

theorem resolve_of_not_escapes (hname : fileName ≠ "") (hdirectory : ¬Escapes directory)
    (hfile : ¬Escapes fileName) :
    resolve directory fileName =
      match ofNames? ((Path.mk directory).names ++ (Path.mk fileName).names) with
      | some location => .ok location
      | none => .error (.noName fileName) := by
  have hany : ((Path.mk directory).components ++ (Path.mk fileName).components).any leadsOut =
      false := by
    rw [List.any_append, any_leadsOut_of_not_escapes hdirectory,
      any_leadsOut_of_not_escapes hfile, Bool.or_false]
  rw [resolve, if_neg (by simpa using hname)]
  simp only [hany, Bool.false_eq_true, if_false, List.filterMap_append]
  rfl

/-- Nothing but the names counts of two texts that do not lead out. -/
theorem resolve_eq_ok_iff {location : Location} :
    resolve directory fileName = .ok location ↔
      fileName ≠ "" ∧ ¬Escapes directory ∧ ¬Escapes fileName ∧
        location.names = (Path.mk directory).names ++ (Path.mk fileName).names := by
  constructor
  · intro hresolve
    have hinside : ¬(Escapes directory ∨ Escapes fileName) := by
      intro hescapes
      obtain ⟨fault, hfault⟩ := resolve_of_escapes hescapes
      rw [hresolve] at hfault
      cases hfault
    obtain ⟨hdirectory, hfile⟩ := not_or.mp hinside
    refine ⟨?_, hdirectory, hfile, names_of_resolve hresolve⟩
    rintro rfl
    cases hresolve
  · rintro ⟨hname, hdirectory, hfile, hnames⟩
    rw [resolve_of_not_escapes hname hdirectory hfile, ← hnames, ofNames?_names]

theorem ne_empty_of_namesFile (hmore : NamesFile fileName) : fileName ≠ "" := by
  rintro rfl
  exact absurd hmore (by decide)

theorem exists_resolve_iff :
    (∃ location, resolve directory fileName = .ok location) ↔
      ¬Escapes directory ∧ ¬Escapes fileName ∧
        (NamesFile fileName ∨ fileName ≠ "" ∧ (Path.mk directory).names ≠ []) := by
  constructor
  · rintro ⟨location, hresolve⟩
    obtain ⟨hname, hdirectory, hfile, hnames⟩ := resolve_eq_ok_iff.mp hresolve
    refine ⟨hdirectory, hfile, ?_⟩
    by_cases hdots : (Path.mk fileName).names = []
    · rw [hdots, List.append_nil] at hnames
      exact .inr ⟨hname, hnames ▸ location.names_ne_nil⟩
    · exact .inl ((namesFile_iff_names_ne_nil hfile).mpr hdots)
  · rintro ⟨hdirectory, hfile, hmore⟩
    have hname : fileName ≠ "" := hmore.elim ne_empty_of_namesFile And.left
    have hnames : (Path.mk directory).names ++ (Path.mk fileName).names ≠ [] := by
      rcases hmore with hmore | ⟨-, hmore⟩
      · apply List.append_ne_nil_of_right_ne_nil
        exact (namesFile_iff_names_ne_nil hfile).mp hmore
      · exact List.append_ne_nil_of_left_ne_nil hmore _
    obtain ⟨location, hlocation⟩ := exists_names_eq hnames
    exact ⟨location, resolve_eq_ok_iff.mpr ⟨hname, hdirectory, hfile, hlocation⟩⟩

/-- The directory lends the file its last name when the file name has none. -/
theorem fileName_of_resolve {location : Location}
    (hresolve : resolve directory fileName = .ok location) :
    (if NamesFile fileName then (Path.mk fileName).names.getLast?
      else (Path.mk directory).names.getLast?) = some location.fileName := by
  obtain ⟨-, -, hfile, hnames⟩ := resolve_eq_ok_iff.mp hresolve
  rw [← location.getLast?_names, hnames]
  split
  · rename_i hmore
    rw [List.getLast?_append_of_ne_nil _ ((namesFile_iff_names_ne_nil hfile).mp hmore)]
  · rename_i hdots
    rw [namesFile_iff_names_ne_nil hfile, not_not] at hdots
    rw [hdots, List.append_nil]

end Resolve

/-- Two texts make a location when neither leads out and the file name is more than dots; a
file name of dots alone is taken, too, when the directory has a name.  The location is made
of the names of both texts in order, and the last of them is the name of the file.  Every
other spelling with these names makes the same location. -/
theorem resolve_outcome (directory fileName : String) :
    ((∃ location, resolve directory fileName = .ok location) ↔
      ¬Escapes directory ∧ ¬Escapes fileName ∧
        (NamesFile fileName ∨ fileName ≠ "" ∧ (Path.mk directory).names ≠ [])) ∧
    ∀ location, resolve directory fileName = .ok location →
      location.path.text = String.intercalate "/"
          ((Path.mk directory).names ++ (Path.mk fileName).names) ∧
      location.path.components =
          ((Path.mk directory).names ++ (Path.mk fileName).names).map .normal ∧
      (if NamesFile fileName then (Path.mk fileName).names.getLast?
        else (Path.mk directory).names.getLast?) = some location.fileName ∧
      ∀ otherDirectory otherName, otherName ≠ "" → ¬Escapes otherDirectory →
        ¬Escapes otherName →
        (Path.mk otherDirectory).names ++ (Path.mk otherName).names =
          (Path.mk directory).names ++ (Path.mk fileName).names →
        resolve otherDirectory otherName = .ok location := by
  refine ⟨exists_resolve_iff, ?_⟩
  intro location hresolve
  obtain ⟨-, -, -, hnames⟩ := resolve_eq_ok_iff.mp hresolve
  rw [← hnames]
  refine ⟨rfl, ?_, fileName_of_resolve hresolve, ?_⟩
  · exact Path.components_ofNames location.names_ne_nil (isPlain_of_resolve hresolve)
  · intro otherDirectory otherName hname hdirectory hfile heq
    exact resolve_eq_ok_iff.mpr ⟨hname, hdirectory, hfile, heq.symm⟩

/-- A dot names no file, and yet it makes a location below a directory. -/
theorem resolve_dot_below_directory :
    ¬Escapes "models" ∧ ¬Escapes "." ∧ ¬NamesFile "." ∧
      resolve "models" "." = .ok ⟨[], "models"⟩ := by
  decide +kernel

end Location

end Stencil.Target
