import Stencil.Files.Disk

/-!
# Errors

Every operation that can fail for its user ends in one of these errors.  Each
has one line of text; some wrap the error of a layer below, which reports show
as their cause.
-/

namespace Stencil

/-- What went wrong. -/
inductive Error where
  /-- A file could not be read. -/
  | file (fault : DiskFault)
  /-- A text is not YAML, or its YAML does not describe what is wanted. -/
  | yaml (detail : String)
  /-- A text is not JSON, or its JSON does not describe what is wanted. -/
  | json (detail : String)
  /-- A text is not TOML, or its TOML does not describe what is wanted. -/
  | toml (detail : String)
  /-- A remote document could not be fetched. -/
  | network (detail : String)
  /-- An API document lacks something it needs. -/
  | document (message : String)
  /-- A template could not be read, compiled or rendered. -/
  | template (message : String)
  /-- A manifest breaks a rule. -/
  | manifest (path message : String)
  /-- No template set has this identifier. -/
  | unknownSet (id : String)
  /-- A word that names no scope. -/
  | unknownScope (word : String)
  /-- A word that names no outcome. -/
  | unknownOutcome (word : String)
  /-- A rendered file could not be written. -/
  | output (path : String) (fault : DiskFault)
  /-- The setup does not allow the operation. -/
  | config (message : String)
deriving DecidableEq, Repr

namespace Error

def message : Error → String
  | file fault => "I/O error: " ++ fault.message
  | yaml detail => "YAML parsing error: " ++ detail
  | json detail => "JSON parsing error: " ++ detail
  | toml detail => "TOML parsing error: " ++ detail
  | network detail => "HTTP error: " ++ detail
  | document message => "Spec error: " ++ message
  | template message => "Template error: " ++ message
  | manifest path message => "Invalid manifest " ++ path ++ ": " ++ message
  | unknownSet id => "Template set not found: " ++ id
  | unknownScope word => "Unknown template type: " ++ word
  | unknownOutcome word => "Unknown file state: " ++ word
  | output path fault => "Failed to write " ++ path ++ ": " ++ fault.message
  | config message => "Configuration error: " ++ message

/-- The text of the error of a layer below that this one wraps. -/
def cause? : Error → Option String
  | file fault => some fault.message
  | yaml detail => some detail
  | json detail => some detail
  | toml detail => some detail
  | network detail => some detail
  | output _ fault => some fault.message
  | _ => none

def ofWrite (path : Path) (fault : DiskFault) : Error :=
  output path.text fault

end Error

end Stencil
