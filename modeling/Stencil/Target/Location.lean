import Stencil.Files.Path

/-!
# Target locations

The target of a rendering is a directory and a file name, both texts that a
template has made.  Together they must name a file below the output directory,
so neither may be absolute or go up.  Slashes that repeat and dots do not count.
-/

namespace Stencil.Target

/-- A place below the output directory. -/
structure Location where
  /-- The names of the directories on the way. -/
  directories : List String
  /-- The last name. -/
  fileName : String
deriving DecidableEq, Repr

/-- Why two texts are no target. -/
inductive LocationFault where
  | emptyName
  | outside (path : Path)
  | noName (fileName : String)
deriving DecidableEq, Repr

namespace LocationFault

def message : LocationFault → String
  | emptyName => "target file name rendered empty"
  | outside path => "target path '" ++ path.text ++ "' is outside the output directory"
  | noName fileName => "target file name '" ++ fileName ++ "' names no file"

end LocationFault

/-- Whether a component leads out of the directory where a path starts. -/
def leadsOut : Component → Bool
  | .root => true
  | .parent => true
  | .current => false
  | .normal _ => false

namespace Location

def names (location : Location) : List String :=
  location.directories ++ [location.fileName]

def path (location : Location) : Path :=
  .ofNames location.names

def ofNames? (names : List String) : Option Location :=
  names.getLast?.map fun last => ⟨names.dropLast, last⟩

def resolve (directory fileName : String) : Except LocationFault Location :=
  if fileName.isEmpty then .error .emptyName
  else
    let components := (Path.mk directory).components ++ (Path.mk fileName).components
    if components.any leadsOut then .error (.outside ((Path.mk directory).join ⟨fileName⟩))
    else
      match ofNames? (components.filterMap Component.name?) with
      | some location => .ok location
      | none => .error (.noName fileName)

/-- A location made of names has those names. -/
theorem names_of_ofNames? {names : List String} {location : Location}
    (hnames : ofNames? names = some location) : location.names = names := by
  obtain ⟨last, hlast, rfl⟩ := Option.map_eq_some_iff.1 hnames
  obtain ⟨front, rfl⟩ := List.getLast?_eq_some_iff.1 hlast
  simp [Location.names]

end Location

end Stencil.Target
