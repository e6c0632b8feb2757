import Stencil.CommandLine.Footprint
import Stencil.CommandLine.Run

/-!
# The program

A run is decided on a copy of what its command reads, and then carried out: the
files are written, and the texts are shown.  When a file cannot be written, the
run is decided again for a device with room for the files before it.
-/

namespace Stencil

def entryAt (place : Place) : IO.FS.DirEntry :=
  ⟨"/" ++ String.intercalate "/" place.dropLast, place.getLastD ""⟩

def realNode? (entry : IO.FS.DirEntry) : IO (Option Node) := do
  if ← entry.path.isDir then return some .directory
  try
    return some (.file (← IO.FS.readBinFile entry.path))
  catch _ => return none

def realTree (depth : Nat) (place : Place) : IO (List (Place × Node)) := do
  match ← realNode? (entryAt place) with
  | none => return []
  | some (.file content) => return [(place, .file content)]
  | some .directory =>
      match depth with
      | 0 => return [(place, .directory)]
      | depth + 1 =>
          let mut nodes := [(place, Node.directory)]
          for entry in ← (entryAt place).path.readDir do
            nodes := nodes ++ (← realTree depth (place ++ [entry.fileName]))
          return nodes

/-- Adds what is really at places, and below them to a depth, to a disk. -/
def Disk.copyPlaces (depth : Nat) (disk : Disk) (places : List Place) : IO Disk :=
  places.foldlM (fun disk place => do
    let nodes ← realTree depth place
    return nodes.foldl (fun disk (place, node) => disk.insert place node) disk) disk

/-- The deepest nesting of directories that is copied. -/
def maxNesting : Nat := 64

/-- Adds what is really at an absolute path and on the way there to a disk. -/
def Disk.copyPath (depth : Nat) (disk : Disk) (path : Path) : IO Disk := do
  let disk ← disk.copyPlaces 0 (CommandLine.placesAlong [] path.segments)
  disk.copyPlaces depth [CommandLine.placeAfter [] path.segments]

/-- The places in a directory that are really symbolic links. -/
def realLinks (place : Place) : IO (List Place) := do
  let directory := (entryAt place).path
  if !(← directory.isDir) then return []
  let mut links := []
  for entry in ← directory.readDir do
    if (← entry.path.symlinkMetadata).type == .symlink then
      links := links ++ [place ++ [entry.fileName]]
  return links

def realSurroundings : IO Surroundings := do
  let here := (← IO.currentDir).toString
  let configDirectory? :=
    match ← IO.getEnv "XDG_CONFIG_HOME", ← IO.getEnv "HOME" with
    | some directory, home? =>
        if (Path.mk directory).isAbsolute then some ⟨directory⟩
        else home?.map fun home => (Path.mk home).join ⟨".config"⟩
    | none, home? => home?.map fun home => (Path.mk home).join ⟨".config"⟩
  let templateSetting? ← IO.getEnv templateVariableName
  let outputSetting? ← IO.getEnv outputVariableName
  return ⟨⟨here⟩, configDirectory?, templateSetting?, outputSetting?⟩

def realWorld (surroundings : Surroundings) (words : List String) : IO CommandLine.World := do
  let place := CommandLine.placeAfter [] surroundings.workingDirectory.segments
  let start ← Disk.copyPath 0 ⟨[], place⟩ surroundings.workingDirectory
  match CommandLine.Command.ofWords words with
  | .error _ => return ⟨start, Source.noWeb, surroundings⟩
  | .ok command =>
      let trees := command.treesRead surroundings
      let disk ← trees.foldlM (Disk.copyPath maxNesting) start
      let disk ← (command.filesRead surroundings).foldlM (Disk.copyPath 0) disk
      let links ← trees.mapM fun path => realLinks (CommandLine.placeAfter [] path.segments)
      return ⟨⟨disk, links.flatten⟩, Source.noWeb, surroundings⟩

/-- The fault of a failed system call. -/
def realFault : IO.Error → DiskFault
  | .noFileOrDirectory .. => .notFound
  | .alreadyExists .. => .alreadyExists
  | .inappropriateType _ 20 _ => .notDirectory
  | .inappropriateType _ 21 _ => .isDirectory
  | fault => .other (toString fault)

/-- Really writes a file and makes the directories that are missing.  A failure
comes back as the error of the path at fault. -/
def writeReally (path : Path) (content : String) : IO (Option Error) := do
  if let some parent := path.parent? then
    if parent.text ≠ "" then
      try IO.FS.createDirAll parent.text
      catch fault => return some (.ofWrite parent (realFault fault))
  try IO.FS.writeFile path.text content
  catch fault => return some (.ofWrite path (realFault fault))
  return none

/-- Really writes files in order.  The first failure comes back with the number
of files before it. -/
def writeAllReally (count : Nat) : List (Path × String) → IO (Option (Nat × Error))
  | [] => return none
  | (path, content) :: rest => do
      match ← writeReally path content with
      | some error => return some (count, error)
      | none => writeAllReally (count + 1) rest

end Stencil

open Stencil in
/-- Runs the program with the words of its command line. -/
def main (words : List String) : IO UInt32 := do
  let surroundings ← realSurroundings
  let world ← realWorld surroundings words
  let (ending, files) := CommandLine.run world (Writer.inMemory none) [] words
  let ending ←
    match ← writeAllReally 0 files with
    | none => pure ending
    | some (room, error) =>
        pure (CommandLine.run world (Writer.inMemory (some (room, fun _ => error))) [] words).1
  IO.print ending.output
  IO.eprint ending.errors
  return UInt32.ofNat ending.code
