import Stencil.Api.Groups
import Stencil.Api.Operations
import Stencil.Api.Schemas

/-!
# Taking an API document apart

The version is checked first, then the information, then the paths and all
operations in order.  Tags and schemas of any shape are accepted.
-/

namespace Stencil.Api

def versionOf (document : Value) : Except Fault String :=
  match ((document.get? "openapi").or (document.get? "swagger")).bind Value.string? with
  | some version => .ok version
  | none => .error .missingVersion

/-- What a document says about itself. -/
def infoOf (document : Value) : Except Fault Info :=
  match document.get? "info" with
  | none => .error .missingInfo
  | some info =>
      match info.text? "title" with
      | none => .error .missingTitle
      | some title =>
          match info.text? "version" with
          | none => .error .missingInfoVersion
          | some version => .ok ⟨title, version, info.text? "description"⟩

namespace Document

def ofValue (raw : Value) : Except Fault Document := do
  let version ← versionOf raw
  let info ← infoOf raw
  let operations ← operationsOf raw
  .ok {
    version := version
    info := info
    groups := groupOperations (declaredGroups raw) operations
    operations := operations
    models := modelsOf (schemasOf raw)
    enumerations := enumerationsOf (schemasOf raw)
    raw := raw }

end Document

end Stencil.Api
