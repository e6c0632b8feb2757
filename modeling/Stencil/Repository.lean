import Stencil.Manifest.Load

/-!
# Repositories of template sets

A repository is a directory that is a template set itself, or that has template
sets as its subdirectories.  Every set in it has an identifier of its own.
-/

namespace Stencil

/-- A template set and the directory where its templates are. -/
structure TemplateSet where
  root : Path
  manifest : Manifest
deriving DecidableEq, Repr, Inhabited

/-- The template sets below a directory, in the order in which they were
found. -/
structure Repository where
  root : Path
  sets : List TemplateSet
deriving Repr, Inhabited

namespace Repository

def find? (repository : Repository) (id : String) : Option TemplateSet :=
  repository.sets.find? fun set => set.manifest.id == id

/-- The set with an identifier, or the error that there is none. -/
def get (repository : Repository) (id : String) : Except Error TemplateSet :=
  match repository.find? id with
  | some set => .ok set
  | none => .error (.unknownSet id)

def contains (repository : Repository) (id : String) : Bool :=
  (repository.find? id).isSome

def list (repository : Repository) : List TemplateSet :=
  repository.sets.mergeSort fun left right => !(right.manifest.id < left.manifest.id)

def insert (tree : FileTree) (repository : Repository) (directory : Path) :
    Except Error Repository := do
  let manifest ← Manifest.load tree directory
  match repository.find? manifest.id with
  | some present =>
      .error (.config ("Duplicate template set id '" ++ manifest.id ++ "' in " ++
        present.root.text ++ " and " ++ directory.text))
  | none => .ok { repository with sets := repository.sets ++ [⟨directory, manifest⟩] }

/-- The subdirectories that hold a manifest, in the order of their names.  Links
to directories are left out. -/
def candidates (tree : FileTree) (root : Path) : Except DiskFault (List Path) := do
  let entries ← tree.list root
  let names := (entries.filter fun entry => entry.2 = .directory).map Prod.fst
  let paths := (names.mergeSort fun left right => !(right < left)).map fun name => root.join ⟨name⟩
  .ok (paths.filter fun path => (Manifest.find? tree path).isSome)

/-- All template sets of a directory. -/
def scan (tree : FileTree) (root : Path) : Except Error Repository :=
  if (Manifest.find? tree root).isSome then insert tree ⟨root, []⟩ root
  else
    match candidates tree root with
    | .ok paths => paths.foldlM (insert tree) ⟨root, []⟩
    | .error fault =>
        .error (.config
          ("Failed to read template directory " ++ root.text ++ ": " ++ fault.message))

end Repository

end Stencil
