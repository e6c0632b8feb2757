/-!
# Spans of code points

A property of characters is stored as a list of spans.  A span names its first
and last member and the distance between neighbours, because letters that come
in pairs of cases fill every second place of their block.
-/

namespace Stencil.Text

/-- A first member, a last member and the step between members. -/
abbrev Span := Nat × Nat × Nat

namespace Span

/-- A code point lies in a span when it is between the ends and a whole number
of steps from the first member. -/
def contains (span : Span) (code : Nat) : Bool :=
  span.1 ≤ code && code ≤ span.2.1 && (code - span.1) % span.2.2 == 0

end Span

def Spans.contain (spans : List Span) (code : Nat) : Bool :=
  spans.any fun span => span.contains code

/-- A span together with the distance that carries each member to its image. -/
abbrev Shift := Nat × Nat × Nat × Int

/-- The image of a code point under the first shift whose span contains it. -/
def Shifts.image? (shifts : List Shift) (code : Nat) : Option Nat :=
  (shifts.find? fun shift => Span.contains (shift.1, shift.2.1, shift.2.2.1) code).map
    fun shift => ((code : Int) + shift.2.2.2).toNat

end Stencil.Text
