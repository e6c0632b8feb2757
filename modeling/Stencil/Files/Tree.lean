import Stencil.Files.Disk

/-!
# Directory trees

What a program sees of files and directories: which paths are files, the texts
of files, and the entries of directories.  Paths are followed through symbolic
links, but an entry that is a link itself is listed as one.
-/

namespace Stencil

/-- What an entry of a directory is. -/
inductive EntryKind where
  | file
  | directory
  | link
deriving DecidableEq, Repr

/-- Files and directories as they are seen from outside. -/
structure FileTree where
  isFile : Path → Bool
  readText : Path → Except DiskFault String
  /-- The names in a directory with what they are, in no particular order. -/
  list : Path → Except DiskFault (List (String × EntryKind))

/-- A disk with symbolic links at some places.  The node at such a place is what
the link leads to. -/
structure LinkedDisk extends Disk where
  links : List Place := []

instance : Coe Disk LinkedDisk := ⟨fun disk => { disk with }⟩

instance : Coe LinkedDisk Disk := ⟨LinkedDisk.toDisk⟩

namespace LinkedDisk

def kindAt (disk : LinkedDisk) (place : Place) (node : Node) : EntryKind :=
  if place ∈ disk.links then .link
  else if node.isDirectory then .directory
  else .file

def tree (disk : LinkedDisk) : FileTree where
  isFile := disk.isFile
  readText := disk.readText
  list path := do
    let place ← disk.resolve path
    let entries ← disk.list path
    .ok (entries.map fun (name, node) => (name, disk.kindAt (place ++ [name]) node))

end LinkedDisk

instance : Coe LinkedDisk FileTree := ⟨LinkedDisk.tree⟩

end Stencil
