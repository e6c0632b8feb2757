import Stencil.Render.Scope

/-!
# Options of a pass

A pass may be a dry run, may be limited to some scopes, and may leave out files
by name.  Names and scopes are sets, so repetition and order do not matter.
-/

namespace Stencil

/-- Adds a member to a set that is kept as a list without repetition. -/
def addMember {α : Type} [DecidableEq α] (members : List α) (member : α) : List α :=
  if member ∈ members then members else members ++ [member]

/-- A member is added once, and nothing else is. -/
@[simp]
theorem mem_addMember {α : Type} [DecidableEq α] {members : List α} {member other : α} :
    other ∈ addMember members member ↔ other ∈ members ∨ other = member := by
  unfold addMember
  split
  · rename_i hmember
    constructor
    · exact Or.inl
    · rintro (hold | rfl)
      · exact hold
      · exact hmember
  · simp

/-- How a pass is to be run. -/
structure Options where
  /-- Decide everything, write nothing. -/
  dryRun : Bool
  /-- The scopes that are rendered; none means all. -/
  scopes : List Scope
  /-- Names of files, or paths below the output directory, that are left out. -/
  ignored : List String
deriving DecidableEq, Repr, Inhabited

namespace Options

def none : Options := ⟨false, [], []⟩

/-- Limits the pass to these scopes, besides the ones it has. -/
def withScopes (options : Options) (scopes : List Scope) : Options :=
  { options with scopes := scopes.foldl addMember options.scopes }

/-- Leaves these names out, besides the ones already left out. -/
def ignoring (options : Options) (names : List String) : Options :=
  { options with ignored := names.foldl addMember options.ignored }

def allows (options : Options) (scope : Scope) : Bool :=
  options.scopes.isEmpty || options.scopes.contains scope

/-- Whether a target is left out, by the name of its file or by its path below
the output directory. -/
def ignores (options : Options) (fileName relativePath : String) : Bool :=
  options.ignored.contains fileName || options.ignored.contains relativePath

end Options

end Stencil
