import Stencil.Manifest.Basic
import Stencil.Value.Datum

/-!
# Decoding manifests

Records are written as mappings with exactly the known keys, each at most once,
or as sequences of all their fields in order.  Tags on them do not count.
Descriptions, snippets and target directories may be left out.
-/

namespace Stencil.Manifest

/-- The formats in which manifests are written. -/
inductive Format where
  | json
  | yaml
  | toml
deriving DecidableEq, Repr, Inhabited

/-- Why a datum does not describe a manifest. -/
inductive Mismatch where
  | unknownKey (key : String)
  | repeatedKey (key : String)
  | missingKey (key : String)
  | notText
  | notScope
  | notPaths
  | notSequence
  | notRecord
deriving DecidableEq, Repr

namespace Mismatch

def message : Mismatch → String
  | unknownKey key => "unknown field `" ++ key ++ "`"
  | repeatedKey key => "duplicate field `" ++ key ++ "`"
  | missingKey key => "missing field `" ++ key ++ "`"
  | notText => "expected a string"
  | notScope => "expected a template type"
  | notPaths => "Expected string or array of strings"
  | notSequence => "expected a sequence"
  | notRecord => "expected a record"

end Mismatch

/-- Checks the keys of a mapping from left to right: all known, none twice. -/
def checkKeys (known seen : List String) : List (String × Datum) → Except Mismatch Unit
  | [] => .ok ()
  | (key, _) :: rest =>
      if key ∉ known then .error (.unknownKey key)
      else if key ∈ seen then .error (.repeatedKey key)
      else checkKeys known (key :: seen) rest

def entry? (entries : List (String × Datum)) (key : String) : Option Datum :=
  (entries.find? fun entry => entry.1 == key).map Prod.snd

def decodeText (datum : Datum) : Except Mismatch String :=
  match datum.text? with
  | some text => .ok text
  | none => .error .notText

def requiredText (entries : List (String × Datum)) (key : String) : Except Mismatch String :=
  match entry? entries key with
  | some datum => decodeText datum
  | none => .error (.missingKey key)

/-- A text under a key that may be left out, then empty. -/
def optionalText (entries : List (String × Datum)) (key : String) : Except Mismatch String :=
  match entry? entries key with
  | some datum => decodeText datum
  | none => .ok ""

/-- One path, a list of paths, or nothing.  Only values that are texts count as
paths here. -/
def decodePaths : Datum → Except Mismatch (List String)
  | .sequence items =>
      match items.mapM Datum.plainText? with
      | some paths => .ok paths
      | none => .error .notPaths
  | datum =>
      if datum.isNull then .ok []
      else match datum.plainText? with
        | some path => .ok [path]
        | none => .error .notPaths

/-- Whether a datum can stand as the value of a scope written as a key. -/
def isUnit (format : Format) (datum : Datum) : Bool :=
  match format, datum with
  | .toml, .mapping entries => entries.isEmpty
  | .toml, .sequence items => items.isEmpty
  | .toml, _ => false
  | _, datum => datum.isNull

/-- The word of a scope: a text, or the only key of a mapping; in YAML a tag
takes the place of the key. -/
def scopeWord? (format : Format) : Datum → Option String
  | .mapping [(word, inner)] =>
      if format ≠ .yaml ∧ isUnit format inner then some word else none
  | .tagged tag inner => if isUnit format inner then some tag else none
  | datum => datum.text?

def decodeScope (format : Format) (datum : Datum) : Except Mismatch Scope :=
  match (scopeWord? format datum).bind Scope.ofWord? with
  | some scope => .ok scope
  | none => .error .notScope

def decodeFile (format : Format) (datum : Datum) : Except Mismatch FileSpec :=
  match datum.untagged with
  | .mapping entries => do
      checkKeys FileSpec.keys [] entries
      let description ← optionalText entries "description"
      let source ← requiredText entries "sourceTemplate"
      let snippets ← match entry? entries "snippets" with
        | some datum => decodePaths datum
        | none => .ok []
      let targetDirectory ← optionalText entries "targetDirectory"
      let targetName ← requiredText entries "targetFileName"
      let scope ← match entry? entries "type" with
        | some datum => decodeScope format datum
        | none => .error (.missingKey "type")
      .ok ⟨description, source, snippets, targetDirectory, targetName, scope⟩
  | .sequence [description, source, snippets, targetDirectory, targetName, scope] => do
      .ok ⟨← decodeText description, ← decodeText source, ← decodePaths snippets,
        ← decodeText targetDirectory, ← decodeText targetName, ← decodeScope format scope⟩
  | _ => .error .notRecord

def decodeFiles (format : Format) (datum : Datum) : Except Mismatch (List FileSpec) :=
  match datum.untagged with
  | .sequence items => items.mapM (decodeFile format)
  | .blank => .ok []
  | _ => .error .notSequence

def decode (format : Format) (datum : Datum) : Except Mismatch Manifest :=
  match datum.untagged with
  | .mapping entries => do
      checkKeys keys [] entries
      let id ← requiredText entries "id"
      let description ← optionalText entries "description"
      let files ← match entry? entries "files" with
        | some datum => decodeFiles format datum
        | none => .error (.missingKey "files")
      .ok ⟨id, description, files⟩
  | .sequence [id, description, files] => do
      .ok ⟨← decodeText id, ← decodeText description, ← decodeFiles format files⟩
  | _ => .error .notRecord

def ofValue (value : Value) : Except Mismatch Manifest :=
  decode .json (Datum.ofValue value)

end Stencil.Manifest
