import Stencil.Value.Basic

/-!
# Log events

What the program tells beside its results: warnings and errors with named
details.
-/

namespace Stencil

/-- How serious an event is. -/
inductive Level where
  | warning
  | error
deriving DecidableEq, Repr

/-- One line of the log. -/
structure Event where
  level : Level
  message : String
  /-- Details by name. -/
  details : List (String × String)
deriving DecidableEq, Repr

namespace Level

def word : Level → String
  | warning => "WARN"
  | error => "ERROR"

end Level

namespace Event

def toValue (event : Event) : Value :=
  .object (("level", .string event.level.word) :: ("message", .string event.message) ::
    event.details.map fun (name, text) => (name, .string text))

end Event

end Stencil
