import Stencil.Render.Scope
import Stencil.Value.Basic

/-!
# Manifests

A template set is described by a manifest: an identifier, a description, and the
files that the set renders, in output order.
-/

namespace Stencil

/-- One file, or family of files, that a template set renders. -/
structure FileSpec where
  description : String
  /-- The template, as a path below the directory of the set. -/
  source : String
  /-- Further templates that the source may include or import. -/
  snippets : List String
  /-- The expression for the directory of the target. -/
  targetDirectory : String
  /-- The expression for the name of the target. -/
  targetName : String
  scope : Scope
deriving DecidableEq, Repr, Inhabited

/-- The description of a template set. -/
structure Manifest where
  id : String
  description : String
  files : List FileSpec
deriving DecidableEq, Repr, Inhabited

namespace FileSpec

/-- The templates that a file needs, its snippets first. -/
def templates (file : FileSpec) : List String :=
  file.snippets ++ [file.source]

def keys : List String :=
  ["description", "sourceTemplate", "snippets", "targetDirectory", "targetFileName", "type"]

def toValue (file : FileSpec) : Value :=
  .object [("description", .string file.description),
    ("sourceTemplate", .string file.source),
    ("snippets", .array (file.snippets.map .string)),
    ("targetDirectory", .string file.targetDirectory),
    ("targetFileName", .string file.targetName),
    ("type", .string file.scope.word)]

end FileSpec

namespace Manifest

def keys : List String := ["id", "description", "files"]

def toValue (manifest : Manifest) : Value :=
  .object [("id", .string manifest.id), ("description", .string manifest.description),
    ("files", .array (manifest.files.map FileSpec.toValue))]

def filesOf (manifest : Manifest) (scope : Scope) : List FileSpec :=
  manifest.files.filter fun file => file.scope == scope

end Manifest

end Stencil
