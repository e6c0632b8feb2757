import Stencil.Error
import Stencil.Log

/-!
# Directories of a run

Where template sets are looked for and where rendered files go is said by the
command line, else by the environment, else by custom.  Relative paths start at
the working directory.
-/

namespace Stencil

/-- What decides on the directories of a run. -/
structure Surroundings where
  workingDirectory : Path
  /-- Where the user keeps configuration. -/
  configDirectory? : Option Path
  /-- The value of the variable for the template directory. -/
  templateSetting? : Option String
  /-- The value of the variable for the output directory. -/
  outputSetting? : Option String
deriving Repr, Inhabited

def templateVariableName : String := "SPECFORGE_TEMPLATE_DIR"

def outputVariableName : String := "SPECFORGE_OUTPUT_DIR"

/-- Why there is no template directory. -/
inductive RootFault where
  /-- The directory that was asked for does not exist. -/
  | missing (path : Path)
  /-- None was asked for, and none is where custom puts it. -/
  | nowhere
deriving DecidableEq, Repr

namespace RootFault

def toError : RootFault → Error
  | missing path => .config ("Template directory not found: " ++ path.text)
  | nowhere =>
      .config ("Could not find a template directory; pass --template-dir or set " ++
        templateVariableName)

def event : RootFault → Event
  | missing path => ⟨.error, "Template directory not found: " ++ path.text, []⟩
  | nowhere =>
      ⟨.error, "Could not find a template directory in any standard location", []⟩

end RootFault

namespace Surroundings

/-- The path that was asked for, made absolute. -/
def requested? (surroundings : Surroundings) (flag? setting? : Option String) : Option Path :=
  (flag?.or setting?).map fun text => Path.under ⟨text⟩ surroundings.workingDirectory

def customRoots (surroundings : Surroundings) : List Path :=
  surroundings.workingDirectory.join ⟨"templates"⟩ ::
    (surroundings.configDirectory?.map fun directory =>
      (directory.join ⟨"specforge"⟩).join ⟨"templates"⟩).toList

/-- The directory of the template sets; it has to exist. -/
def templateRoot (surroundings : Surroundings) (disk : Disk) (flag? : Option String) :
    Except RootFault Path :=
  match surroundings.requested? flag? surroundings.templateSetting? with
  | some path => if disk.isDirectory path then .ok path else .error (.missing path)
  | none =>
      match surroundings.customRoots.find? disk.isDirectory with
      | some path => .ok path
      | none => .error .nowhere

/-- The directory below which files are written; it need not exist. -/
def outputDirectory (surroundings : Surroundings) (flag? : Option String) : Path :=
  (surroundings.requested? flag? surroundings.outputSetting?).getD surroundings.workingDirectory

end Surroundings

end Stencil
