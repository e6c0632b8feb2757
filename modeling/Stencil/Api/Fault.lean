import Stencil.Error

/-!
# Faults of API documents

What a document must have, and how it is said that something is missing.
-/

namespace Stencil.Api

/-- Why a value is no usable API document. -/
inductive Fault where
  | missingVersion
  | missingInfo
  | missingTitle
  | missingInfoVersion
  | missingPaths
  | unnamedParameter
  | unplacedParameter (name : String)
  | remoteReference (reference : String)
  | brokenReference (reference : String)
deriving DecidableEq, Repr

namespace Fault

def message : Fault → String
  | missingVersion => "Missing 'openapi' or 'swagger' version"
  | missingInfo => "Missing 'info' object"
  | missingTitle => "Missing info.title"
  | missingInfoVersion => "Missing info.version"
  | missingPaths => "Missing 'paths' object"
  | unnamedParameter => "Parameter missing name"
  | unplacedParameter name => "Parameter '" ++ name ++ "' missing 'in'"
  | remoteReference reference => "Only local references are supported: " ++ reference
  | brokenReference reference => "Unresolvable reference: " ++ reference

def toError (fault : Fault) : Error :=
  .document fault.message

end Fault

end Stencil.Api
