import Stencil.Files.Path

/-!
# File systems

A disk maps places to nodes.  A place is the list of names from the root.  The
root itself is always a directory.  Paths are followed segment by segment, so
every step but the last must lead through a directory.
-/

namespace Stencil

/-- What is found at a place. -/
inductive Node where
  | file (content : ByteArray)
  | directory
deriving Inhabited

namespace Node

def isDirectory : Node → Bool
  | directory => true
  | file _ => false

end Node

abbrev Place := List String

/-- Why an operation on files fails. -/
inductive DiskFault where
  | notFound
  | alreadyExists
  | notDirectory
  | isDirectory
  | nameTooLong
  | zeroInName
  | notText
  | noRoot
  /-- A failure that the operating system words itself. -/
  | other (message : String)
deriving DecidableEq, Repr

namespace DiskFault

/-- The fault in the words of the operating system. -/
def message : DiskFault → String
  | notFound => "No such file or directory (os error 2)"
  | alreadyExists => "File exists (os error 17)"
  | notDirectory => "Not a directory (os error 20)"
  | isDirectory => "Is a directory (os error 21)"
  | nameTooLong => "File name too long (os error 36)"
  | zeroInName => "file name contained an unexpected NUL byte"
  | notText => "stream did not contain valid UTF-8"
  | noRoot => "failed to create whole tree"
  | other message => message

end DiskFault

/-- Nodes by place, and the place from which relative paths start. -/
structure Disk where
  nodes : List (Place × Node)
  workingDirectory : Place

namespace Disk

def empty : Disk := ⟨[], []⟩

def node? (disk : Disk) (place : Place) : Option Node :=
  match place with
  | [] => some .directory
  | place => (disk.nodes.find? fun entry => entry.1 == place).map Prod.snd

def hasDirectory (disk : Disk) (place : Place) : Bool :=
  (disk.node? place).any Node.isDirectory

/-- Puts a node at a place, over the one that was there. -/
def insert (disk : Disk) (place : Place) (node : Node) : Disk :=
  if disk.nodes.any fun entry => entry.1 == place then
    { disk with nodes := disk.nodes.map fun entry =>
        if entry.1 == place then (place, node) else entry }
  else { disk with nodes := disk.nodes ++ [(place, node)] }

/-- The longest name and the longest path, in bytes. -/
def maxName : Nat := 255

/-- The length from which a path is too long. -/
def maxPath : Nat := 4096

/-- The place reached from a directory by a name that need not exist. -/
def below (disk : Disk) (place : Place) (name : String) : Except DiskFault Place :=
  if !disk.hasDirectory place then .error .notDirectory
  else if name.utf8ByteSize > maxName then .error .nameTooLong
  else .ok (place ++ [name])

def step (disk : Disk) (place : Place) (segment : String) : Except DiskFault Place :=
  if !disk.hasDirectory place then .error .notDirectory
  else if segment = "" ∨ segment = "." then .ok place
  else if segment = ".." then .ok place.dropLast
  else do
    let next ← disk.below place segment
    if (disk.node? next).isSome then .ok next else .error .notFound

/-- The segments of a path and the place from which they are followed. -/
def start (disk : Disk) (path : Path) : Except DiskFault (Place × List String) :=
  if path.text.toList.contains '\x00' then .error .zeroInName
  else if path.text = "" then .error .notFound
  else if path.text.utf8ByteSize ≥ maxPath then .error .nameTooLong
  else if path.isAbsolute then .ok ([], path.segments.drop 1)
  else .ok (disk.workingDirectory, path.segments)

def resolve (disk : Disk) (path : Path) : Except DiskFault Place := do
  let (place, segments) ← disk.start path
  segments.foldlM disk.step place

def find? (disk : Disk) (path : Path) : Option Node :=
  match disk.resolve path with
  | .ok place => disk.node? place
  | .error _ => none

def isFile (disk : Disk) (path : Path) : Bool :=
  match disk.find? path with
  | some (.file _) => true
  | _ => false

def isDirectory (disk : Disk) (path : Path) : Bool :=
  match disk.find? path with
  | some .directory => true
  | _ => false

def readBytes (disk : Disk) (path : Path) : Except DiskFault ByteArray := do
  let place ← disk.resolve path
  match disk.node? place with
  | some (.file content) => .ok content
  | some .directory => .error .isDirectory
  | none => .error .notFound

def readText (disk : Disk) (path : Path) : Except DiskFault String := do
  let content ← disk.readBytes path
  match String.fromUTF8? content with
  | some text => .ok text
  | none => .error .notText

/-- The names in a directory with what they name, in no particular order. -/
def list (disk : Disk) (path : Path) : Except DiskFault (List (String × Node)) := do
  let place ← disk.resolve path
  if disk.hasDirectory place then
    .ok (disk.nodes.filterMap fun (there, node) =>
      match there.getLast? with
      | some name => if there.dropLast == place then some (name, node) else none
      | none => none)
  else .error .notDirectory

def below? (disk : Disk) (place : Place) : List (Place × Node) :=
  disk.nodes.filterMap fun (there, node) =>
    if place.isPrefixOf there && place.length < there.length then
      some (there.drop place.length, node)
    else none

/-- Splits off the last segment that is not empty, and tells whether empty ones follow it. -/
def lastName? (segments : List String) : Option (List String × String × Bool) :=
  let backwards := segments.reverse
  match backwards.dropWhile (· = "") with
  | [] => none
  | name :: rest => some (rest.reverse, name, backwards.head? == some "")

def makeDirectory (disk : Disk) (path : Path) : Except DiskFault Disk := do
  let (place, segments) ← disk.start path
  match lastName? segments with
  | none => .error .alreadyExists
  | some (above, name, _) =>
      let parent ← above.foldlM disk.step place
      if name = "." ∨ name = ".." then
        if disk.hasDirectory parent then .error .alreadyExists else .error .notDirectory
      else
        let target ← disk.below parent name
        if (disk.node? target).isSome then .error .alreadyExists
        else .ok (disk.insert target .directory)

/-- A path and the paths above it, from the lowest to the highest.  Each parent
has fewer segments, so their number bounds the rounds. -/
def ancestry (path : Path) : List Path :=
  go path.segments.length path
where
  /-- At most `rounds` parents after the path. -/
  go (rounds : Nat) (path : Path) : List Path :=
    match rounds with
    | 0 => [path]
    | rounds + 1 =>
        match path.parent? with
        | some parent => path :: go rounds parent
        | none => [path]

/-- Makes the first directory of a list; the others are the ones above it, which
are made first when they are missing.  Directories stay when one below them
cannot be made. -/
def makeDirectoriesFrom (disk : Disk) : List Path → Except DiskFault Unit × Disk
  | [] => (.error .noRoot, disk)
  | path :: above =>
      if path.text = "" then (.ok (), disk)
      else
        match disk.makeDirectory path with
        | .ok made => (.ok (), made)
        | .error fault =>
            if fault = .notFound then
              match makeDirectoriesFrom disk above with
              | (.error fault, disk) => (.error fault, disk)
              | (.ok (), disk) =>
                  match disk.makeDirectory path with
                  | .ok made => (.ok (), made)
                  | .error fault => (if disk.isDirectory path then .ok () else .error fault, disk)
            else (if disk.isDirectory path then .ok () else .error fault, disk)

def makeDirectories (disk : Disk) (path : Path) : Except DiskFault Unit × Disk :=
  disk.makeDirectoriesFrom (ancestry path)

/-- Writes a file in a directory that exists, over the file that was there. -/
def writeBytes (disk : Disk) (path : Path) (content : ByteArray) : Except DiskFault Disk := do
  let (place, segments) ← disk.start path
  match lastName? segments with
  | none => .error .isDirectory
  | some (above, name, slash) =>
      let parent ← above.foldlM disk.step place
      if !disk.hasDirectory parent then .error .notDirectory
      else if slash ∨ name = "." ∨ name = ".." then .error .isDirectory
      else
        let target ← disk.below parent name
        if disk.hasDirectory target then .error .isDirectory
        else .ok (disk.insert target (.file content))

def writeText (disk : Disk) (path : Path) (text : String) : Except DiskFault Disk :=
  disk.writeBytes path text.toUTF8

end Disk

end Stencil
