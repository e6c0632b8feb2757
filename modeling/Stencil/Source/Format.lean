import Stencil.Error
import Stencil.Value.Json
import Stencil.Yaml.Read

/-!
# Formats of documents

A document is JSON or YAML.  When neither its name nor its content type says
which, JSON is tried first.
-/

namespace Stencil.Source

/-- The format of a document. -/
inductive Format where
  | json
  | yaml
  | unknown
deriving DecidableEq, Repr, Inhabited

namespace Format

def word : Format → String
  | json => "json"
  | yaml => "yaml"
  | unknown => "unknown"

/-- The format that a word names; every other word leaves it open. -/
def ofWord (word : String) : Format :=
  if word = "json" then json else if word = "yaml" then yaml else unknown

def ofPath (path : Path) : Format :=
  match path.extension? with
  | some "json" => json
  | some "yaml" => yaml
  | some "yml" => yaml
  | _ => unknown

def occursIn (part text : List Char) : Bool :=
  match text with
  | [] => part.isEmpty
  | char :: rest => part.isPrefixOf (char :: rest) || occursIn part rest

def ofContentType (contentType : String) : Format :=
  if occursIn "json".toList contentType.toList then json
  else if occursIn "yaml".toList contentType.toList then yaml
  else unknown

/-- The first format unless it leaves the question open. -/
def orElse (format other : Format) : Format :=
  match format with
  | unknown => other
  | known => known

def decodeYaml (content : String) : Except Error Value :=
  match Yaml.read content with
  | .ok value => .ok value
  | .error fault => .error (.yaml fault.message)

def decode (format : Format) (content : String) : Except Error Value :=
  match format with
  | json =>
      match Json.read content with
      | .ok value => .ok value
      | .error fault => .error (.json fault.message)
  | yaml => decodeYaml content
  | unknown =>
      match Json.read content with
      | .ok value => .ok value
      | .error _ => decodeYaml content

end Format

end Stencil.Source
