import Stencil.Manifest.Basic

/-!
# Rules for manifests

Some rules are beyond the shape of a manifest: identifiers have an alphabet,
paths stay inside the set, and no file is listed twice.  The first broken rule
is reported: rules of the set come before rules of its files, and files come in
order.
-/

namespace Stencil

open Text

/-- A rule that a file breaks. -/
inductive FileViolation where
  | emptySource
  | emptyTargetName
  | emptySnippet (snippet : String)
  | outside (path : String)
  | duplicate (source : String)
deriving DecidableEq, Repr

/-- A rule that a manifest breaks. -/
inductive Violation where
  | emptyId
  | badId (id : String)
  | noFiles (id : String)
  | file (index : Nat) (violation : FileViolation)
deriving DecidableEq, Repr

namespace FileViolation

def message : FileViolation → String
  | emptySource => "sourceTemplate must not be empty"
  | emptyTargetName => "targetFileName must not be empty"
  | emptySnippet snippet => "empty snippet path '" ++ snippet ++ "'"
  | outside path =>
      "template path '" ++ path ++ "' must be relative to the template set directory"
  | duplicate source => "duplicate entry for template '" ++ source ++ "'"

end FileViolation

namespace Violation

def message : Violation → String
  | emptyId => "id must not be empty"
  | badId id => "id '" ++ id ++ "' may only contain letters, digits, '.', '_' and '-'"
  | noFiles id => "template set '" ++ id ++ "' declares no files"
  | file index violation => "files[" ++ toString index ++ "]: " ++ violation.message

end Violation

namespace FileSpec

/-- What distinguishes a file from the others of its set. -/
def identity (file : FileSpec) : String × String × String :=
  (file.source, file.targetDirectory, file.targetName)

/-- The rule that a file breaks by itself. -/
def ownViolation? (file : FileSpec) : Option FileViolation :=
  if (trimmed file.source).isEmpty then some .emptySource
  else if (trimmed file.targetName).isEmpty then some .emptyTargetName
  else match file.snippets.find? fun snippet => (trimmed snippet).isEmpty with
    | some snippet => some (.emptySnippet snippet)
    | none =>
        ((file.source :: file.snippets).find? fun path => !(Path.mk path).staysInside).map
          .outside

def violation? (seen : List (String × String × String)) (file : FileSpec) :
    Option FileViolation :=
  match file.ownViolation? with
  | some violation => some violation
  | none => if file.identity ∈ seen then some (.duplicate file.source) else none

end FileSpec

namespace Manifest

def isIdChar (char : Char) : Bool :=
  char.isAlphanum || char = '.' || char = '_' || char = '-'

/-- A letter or digit, then letters, digits, dots, underscores and hyphens. -/
def isId (id : String) : Bool :=
  match id.toList with
  | [] => false
  | first :: rest => first.isAlphanum && rest.all isIdChar

def filesViolation? (index : Nat) (seen : List (String × String × String)) :
    List FileSpec → Option Violation
  | [] => none
  | file :: rest =>
      match file.violation? seen with
      | some violation => some (.file index violation)
      | none => filesViolation? (index + 1) (file.identity :: seen) rest

/-- The first rule that a manifest breaks. -/
def violation? (manifest : Manifest) : Option Violation :=
  if manifest.id.isEmpty then some .emptyId
  else if !isId manifest.id then some (.badId manifest.id)
  else if manifest.files.isEmpty then some (.noFiles manifest.id)
  else filesViolation? 0 [] manifest.files

end Manifest

end Stencil
