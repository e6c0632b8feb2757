import Stencil.Files.Tree
import Stencil.Manifest.Decode
import Stencil.Manifest.Rules
import Stencil.Toml.Read
import Stencil.Yaml.Read

/-!
# Loading manifests

A directory is described by the first manifest found in it under one of a few
names.  The extension of the name gives the format; YAML is the default.
-/

namespace Stencil.Manifest

/-- The names of manifests in the order in which they are looked for. -/
def fileNames : List String :=
  ["manifest.yml", "manifest.yaml", "manifest.toml", "manifest.json"]

def find? (tree : FileTree) (directory : Path) : Option Path :=
  (fileNames.map fun name => directory.join ⟨name⟩).find? tree.isFile

private def decodeWith (format : Format) (toError : String → Error) (datum : Datum) :
    Except Error Manifest :=
  match decode format datum with
  | .ok manifest => .ok manifest
  | .error mismatch => .error (toError mismatch.message)

/-- The manifest that a text describes, in the format that its path shows. -/
def parse (path : Path) (content : String) : Except Error Manifest :=
  match path.extension? with
  | some "toml" =>
      match Toml.readDatum content with
      | .ok datum => decodeWith .toml .toml datum
      | .error fault => .error (.toml fault.message)
  | some "json" =>
      match Json.readRaw content with
      | .ok value => decodeWith .json .json (Datum.ofValue value)
      | .error fault => .error (.json fault.message)
  | _ =>
      match Yaml.readDatum content with
      | .ok datum => decodeWith .yaml .yaml datum
      | .error fault => .error (.yaml fault.message)

/-- The manifest when it keeps the rules, else the error for the first rule that
it breaks. -/
def checked (path : Path) (manifest : Manifest) : Except Error Manifest :=
  match manifest.violation? with
  | none => .ok manifest
  | some violation => .error (.manifest path.text violation.message)

def load (tree : FileTree) (directory : Path) : Except Error Manifest :=
  match find? tree directory with
  | none =>
      .error (.manifest directory.text
        ("no manifest found (expected one of " ++ String.intercalate ", " fileNames ++ ")"))
  | some path =>
      match tree.readText path with
      | .error fault => .error (.file fault)
      | .ok content => do
          let manifest ← parse path content
          checked path manifest

end Stencil.Manifest
