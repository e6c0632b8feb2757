import Stencil.Value.Basic

/-!
# Values in prose

What a value looks like in the text of a template, and whether it counts as
true where a condition is wanted.
-/

namespace Stencil.Value

mutual

/-- The text of a value: nothing for null, the items of an array in brackets, and
one word for every object. -/
def plain : Value → String
  | null => ""
  | bool flag => if flag then "true" else "false"
  | number value => value.plain
  | string text => text
  | array items => "[" ++ String.intercalate ", " (plainItems items) ++ "]"
  | object _ => "[object]"

def plainItems : List Value → List String
  | [] => []
  | item :: rest => plain item :: plainItems rest

end

/-- Null, zero, and everything empty count as false. -/
def isTruthy : Value → Bool
  | null => false
  | bool flag => flag
  | number (.whole value) => value ≠ 0
  | number (.float bits) =>
      let value := Float.ofBits bits
      value != 0 && !value.isNaN
  | string text => !text.isEmpty
  | array items => !items.isEmpty
  | object fields => !fields.isEmpty

end Stencil.Value
