import Stencil.Text.Letter

/-!
# Paths

A path is a text with slashes.  What it names depends on its components alone:
repeated slashes and dots that are not in front do not count.  The text is kept
all the same, because reports show paths as they were written.
-/

namespace Stencil

/-- A path as written. -/
structure Path where
  text : String
deriving DecidableEq, Repr, Inhabited

/-- One step of a path. -/
inductive Component where
  /-- The slash in front of an absolute path. -/
  | root
  /-- A dot in front of a relative path. -/
  | current
  /-- Two dots. -/
  | parent
  /-- A name. -/
  | normal (name : String)
deriving DecidableEq, Repr

namespace Component

def name? : Component → Option String
  | normal name => some name
  | _ => none

def text : Component → String
  | root => "/"
  | current => "."
  | parent => ".."
  | normal name => name

end Component

namespace Path

open Stencil.Text

def segments (path : Path) : List String :=
  (pieces '/' path.text.toList).map String.ofList

def isAbsolute (path : Path) : Bool :=
  path.text.toList.head? == some '/'

def laterComponent? (segment : String) : Option Component :=
  if segment = "" ∨ segment = "." then none
  else if segment = ".." then some .parent
  else some (.normal segment)

/-- The components of a list of segments, of which the first is in front. -/
def componentsOfSegments : List String → List Component
  | [] => []
  | [first] => if first = "." then [.current] else (laterComponent? first).toList
  | first :: rest =>
      (if first = "" then [.root]
        else if first = "." then [.current]
        else (laterComponent? first).toList) ++ rest.filterMap laterComponent?

def components (path : Path) : List Component :=
  componentsOfSegments path.segments

def names (path : Path) : List String :=
  path.components.filterMap Component.name?

def ofNames (names : List String) : Path :=
  ⟨String.intercalate "/" names⟩

/-- An absolute path replaces the path on which it is put; a relative one is
added after a slash. -/
def join (base addition : Path) : Path :=
  if addition.isAbsolute then addition
  else if base.text = "" ∨ base.text.toList.getLast? = some '/' then ⟨base.text ++ addition.text⟩
  else ⟨base.text ++ "/" ++ addition.text⟩

/-- The path put on a directory unless it is absolute. -/
def under (path directory : Path) : Path :=
  if path.isAbsolute then path else directory.join path

/-- Whether a segment can be left out at the end of a path. -/
private def isIdle (segment : String) : Bool :=
  segment = "" || segment = "."

/-- Segments from the last one to the first without idle segments at the end;
the segment in front is kept. -/
private def dropIdle : List String → List String
  | [] => []
  | [front] => [front]
  | last :: rest => if isIdle last then dropIdle rest else last :: rest

/-- The path without its last component, absent when there is none to leave out. -/
def parent? (path : Path) : Option Path :=
  match dropIdle path.segments.reverse with
  | [] => none
  | [front] => if front = "" then none else some ⟨""⟩
  | _ :: rest =>
      match dropIdle rest with
      | [""] => some ⟨"/"⟩
      | rest => some ⟨String.intercalate "/" rest.reverse⟩

def fileName? (path : Path) : Option String :=
  path.components.getLast?.bind Component.name?

/-- What follows the last dot of a name; absent when there is no dot or the
name starts with its only one. -/
def extensionOfName? (name : String) : Option String :=
  let backwards := name.toList.reverse
  let extension := backwards.takeWhile (· ≠ '.')
  match backwards.dropWhile (· ≠ '.') with
  | _ :: _ :: _ => some (String.ofList extension.reverse)
  | _ => none

def extension? (path : Path) : Option String :=
  path.fileName?.bind extensionOfName?

/-- The components left after a base, when the path lies below it. -/
def stripPrefix? (path base : Path) : Option Path :=
  let below := path.components
  let above := base.components
  if above.isPrefixOf below then
    some ⟨String.intercalate "/" ((below.drop above.length).map Component.text)⟩
  else none

/-- Relative and free of parent steps. -/
def staysInside (path : Path) : Bool :=
  path.components.all fun component =>
    match component with
    | .normal _ => true
    | .current => true
    | .root => false
    | .parent => false

end Path

end Stencil
