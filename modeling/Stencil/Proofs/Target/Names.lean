import Stencil.Proofs.Path.Components
import Stencil.Target.Location

/-!
# Names of target locations

A location is made of the names among the components of two rendered texts.  The
statements here say when there is a location, and that all its names are plain, so
that a location put below a directory stays below it.
-/

namespace Stencil

namespace Target

/-- A text that leads out of the directory where it starts: it is absolute, or
goes up on the way. -/
def Escapes (text : String) : Prop :=
  (Path.mk text).isAbsolute = true ∨ .parent ∈ (Path.mk text).components

instance (text : String) : Decidable (Escapes text) :=
  inferInstanceAs (Decidable (_ ∨ _))

theorem any_leadsOut_of_escapes {text : String} (hescapes : Escapes text) :
    (Path.mk text).components.any leadsOut = true := by
  rw [List.any_eq_true]
  rcases hescapes with habsolute | hparent
  · exact ⟨.root, Path.root_mem_components habsolute, rfl⟩
  · exact ⟨.parent, hparent, rfl⟩

namespace Location

/-- The names of a location are those among the components of the directory and
then of the file name. -/
theorem names_of_resolve {directory fileName : String} {location : Location}
    (hresolve : resolve directory fileName = .ok location) :
    location.names = (Path.mk directory).names ++ (Path.mk fileName).names := by
  unfold resolve at hresolve
  split at hresolve
  · cases hresolve
  · simp only at hresolve
    split at hresolve
    · cases hresolve
    · split at hresolve
      · rename_i found hfound
        obtain rfl : found = location := by simpa using hresolve
        rw [names_of_ofNames? hfound, List.filterMap_append, Path.names, Path.names]
      · cases hresolve

theorem names_ne_nil (location : Location) : location.names ≠ [] := by
  simp [names]

/-- The names of a resolved location are plain. -/
theorem isPlain_of_resolve {directory fileName : String} {location : Location}
    (hresolve : resolve directory fileName = .ok location) :
    ∀ name ∈ location.names, Path.IsPlain name := by
  intro name hname
  rw [names_of_resolve hresolve, List.mem_append] at hname
  exact hname.elim Path.isPlain_of_mem_names Path.isPlain_of_mem_names

/-- A plain name without a directory is a location of its own. -/
theorem resolve_of_isPlain {name : String} (hplain : Path.IsPlain name) :
    resolve "" name = .ok ⟨[], name⟩ := by
  have hcomponents : (Path.mk name).components = [.normal name] := by
    have hnames := @Path.components_ofNames [name] (List.cons_ne_nil _ _) (by simpa using hplain)
    simpa [Path.ofNames] using hnames
  have hdirectory : (Path.mk "").components = [] := rfl
  rw [resolve, if_neg (by simpa using hplain.ne_empty), hcomponents, hdirectory]
  rfl

/-- Texts of which one leads out have no location. -/
theorem resolve_of_escapes {directory fileName : String}
    (hescapes : Escapes directory ∨ Escapes fileName) :
    ∃ fault, resolve directory fileName = .error fault := by
  have hany : ((Path.mk directory).components ++ (Path.mk fileName).components).any leadsOut =
      true := by
    rw [List.any_append, Bool.or_eq_true]
    exact hescapes.imp any_leadsOut_of_escapes any_leadsOut_of_escapes
  by_cases hempty : fileName.isEmpty = true
  · exact ⟨.emptyName, by rw [resolve, if_pos hempty]⟩
  · refine ⟨.outside ((Path.mk directory).join ⟨fileName⟩), ?_⟩
    rw [resolve, if_neg hempty]
    exact if_pos hany

end Location

end Target

end Stencil
