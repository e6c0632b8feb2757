import Stencil.Value.Basic

/-!
# Template engines

How templates are written is the business of an engine.  What a pass needs of one is here:
it makes a library of named texts, and renders the templates of a library by their names.
When it fails, it does so with a chain of messages, the outermost one first.

Rendering is a function here: whatever else a template can ask, such as the time or the
environment, counts as part of the engine.
-/

namespace Stencil

/-- A filter makes a value from a value and named arguments, or fails with a message. -/
abbrev Engine.Filter := Value → Value.Fields → Except String Value

/-- An engine that writes its output as it is, without escapes for any markup. -/
structure Engine where
  /-- Templates that are rendered together. -/
  Library : Type
  /-- Makes a library of named texts.  Their templates may use the given filters besides those
  of the engine. -/
  compile : List (String × Engine.Filter) → List (String × String) → Except (List String) Library
  names : Library → List String
  /-- The text of the template with a name. -/
  render : Library → String → Value.Fields → Except (List String) String
  /-- The text of a template that is given by a name and its own text, among the templates of
  a library. -/
  renderText : Library → String → String → Value.Fields → Except (List String) String

namespace Engine

def describe (messages : List String) : String :=
  String.intercalate ": " messages

end Engine

end Stencil
