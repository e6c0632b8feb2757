import Stencil.Error

/-!
# Writers

A pass hands every rendered file to a writer.  A writer changes something, for
instance a disk, and may fail; what it has changed by then stays changed.
-/

namespace Stencil

/-- Something that files are written to. -/
structure Writer (σ : Type) where
  write : σ → Path → String → Except Error Unit × σ

namespace Writer

/-- Writes a file to a disk and makes the directories that are missing. -/
def writeToDisk (disk : Disk) (path : Path) (content : String) : Except Error Unit × Disk :=
  match path.parent? with
  | some parent =>
      match disk.makeDirectories parent with
      | (.error fault, disk) => (.error (.ofWrite parent fault), disk)
      | (.ok (), disk) => writeFile disk
  | none => writeFile disk
where
  /-- Writes the file itself. -/
  writeFile (disk : Disk) : Except Error Unit × Disk :=
    match disk.writeText path content with
    | .ok disk => (.ok (), disk)
    | .error fault => (.error (.ofWrite path fault), disk)

def onDisk : Writer Disk :=
  ⟨writeToDisk⟩

/-- Keeps what is written, in order.  With a limit, the write after so many others
fails. -/
def inMemory (limit? : Option (Nat × (Path → Error))) : Writer (List (Path × String)) where
  write files path content :=
    match limit? with
    | some (room, refusal) =>
        if room ≤ files.length then (.error (refusal path), files)
        else (.ok (), files ++ [(path, content)])
    | none => (.ok (), files ++ [(path, content)])

end Writer

end Stencil
