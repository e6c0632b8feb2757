import Stencil.Error
import Stencil.Manifest.Basic
import Stencil.Target.Reference
import Stencil.Template.Evaluate
import Stencil.Text.Words

/-!
# Compiled template sets

A template set is compiled once for all renderings.  The library of a compiled
set holds every template that the manifest names, and for each file of the
manifest the expressions of its target as two more templates, so faults in any
of them show before anything is rendered.
-/

namespace Stencil

/-- A manifest with the library of its templates.  The engine is the one described in this
library when no other one is named. -/
structure CompiledSet (engine : Engine := Template.engine) where
  manifest : Manifest
  library : engine.Library

namespace Manifest

/-- The names of the templates of all files, each at its first place. -/
def templates (manifest : Manifest) : List String :=
  ((manifest.files.flatMap FileSpec.templates).foldl
    (fun names name => if names.contains name then names else name :: names) []).reverse

end Manifest

namespace CompiledSet

/-- How the names of target templates start. -/
def targetMark : String := "@target/"

def directoryName (index : Nat) : String :=
  targetMark ++ toString index ++ "/directory"

def fileName (index : Nat) : String :=
  targetMark ++ toString index ++ "/file_name"

def readTemplate (disk : Disk) (directory : Path) (name : String) :
    Except Error (String × String) :=
  let path := directory.join ⟨name⟩
  match disk.readText path with
  | .ok text => .ok (name, text)
  | .error fault =>
      .error (.template ("Failed to read template '" ++ name ++ "' at " ++ path.text ++ ": " ++
        fault.message))

/-- Reading a template, with its path written out. -/
theorem readTemplate_eq (disk : Disk) (directory : Path) (name : String) :
    readTemplate disk directory name =
      match disk.readText (directory.join ⟨name⟩) with
      | .ok text => .ok (name, text)
      | .error fault =>
          .error (.template ("Failed to read template '" ++ name ++ "' at " ++
            (directory.join ⟨name⟩).text ++ ": " ++ fault.message)) := by
  delta readTemplate
  rfl

def targetTexts (index : Nat) : List FileSpec → List (String × String)
  | [] => []
  | file :: rest =>
      (directoryName index, Target.normalizeExpression file.targetDirectory) ::
        (fileName index, Target.normalizeExpression file.targetName) ::
        targetTexts (index + 1) rest

/-- A filter that writes a text, a number or a flag in a case of identifiers, with its name. -/
def caseFilter (name : String) (convert : String → String) : String × Engine.Filter :=
  (name, fun value _ =>
    match value with
    | .string text => .ok (.string (convert text))
    | .number number => .ok (.string (convert number.text))
    | .bool flag => .ok (.string (convert (if flag then "true" else "false")))
    | value =>
        .error ("Filter `" ++ name ++ "` expects a string, number or boolean, got " ++
          value.compact))

/-- The filters that the templates of all sets may use besides those of their engine. -/
def filters : List (String × Engine.Filter) :=
  [caseFilter "snake_case" Text.snakeCase, caseFilter "pascal_case" Text.pascalCase,
    caseFilter "camel_case" Text.camelCase, caseFilter "kebab_case" Text.kebabCase]

def compile {engine : Engine} (manifest : Manifest) (texts : List (String × String)) :
    Except Error (CompiledSet engine) :=
  match engine.compile filters (texts ++ targetTexts 0 manifest.files) with
  | .ok library => .ok ⟨manifest, library⟩
  | .error messages =>
      .error (.template ("Failed to compile template set '" ++ manifest.id ++ "': " ++
        Engine.describe messages))

/-- Reads and compiles the templates of a manifest, which are below a directory. -/
def load {engine : Engine} (disk : Disk) (directory : Path) (manifest : Manifest) :
    Except Error (CompiledSet engine) := do
  let texts ← manifest.templates.mapM (readTemplate disk directory)
  compile manifest texts

variable {engine : Engine}

def renderBody (set : CompiledSet engine) (name : String) (context : Value.Fields) :
    Except Error String :=
  match engine.render set.library name context with
  | .ok text => .ok text
  | .error messages =>
      .error (.template ("Failed to render template '" ++ name ++ "': " ++
        Engine.describe messages))

/-- The text of a target template without blanks at its ends. -/
def renderPart (set : CompiledSet engine) (index : Nat) (name : String) (context : Value.Fields) :
    Except Error String :=
  match engine.render set.library name context with
  | .ok text => .ok (Text.trimmed text)
  | .error messages =>
      .error (.template ("Failed to render target path of file #" ++ toString index ++ ": " ++
        Engine.describe messages))

/-- The directory and the name of the target of a file. -/
def renderTarget (set : CompiledSet engine) (index : Nat) (context : Value.Fields) :
    Except Error (String × String) := do
  let directory ← set.renderPart index (directoryName index) context
  let name ← set.renderPart index (fileName index) context
  .ok (directory, name)

/-- The names of all templates but those of targets, in order. -/
def templateNames (set : CompiledSet engine) : List String :=
  ((engine.names set.library).filter fun name => !name.startsWith targetMark).mergeSort
    fun left right => !(right < left)

end CompiledSet

end Stencil
