import Stencil.Decimal.Shortest

/-!
# Reading decimals

A decimal text has a sign, digits with at most one point among them, and a power
of ten.  It is read as the nearest binary64 number.
-/

namespace Stencil.Decimal

private def natOf (digits : List Char) : Nat :=
  digits.foldl (fun value digit => value * 10 + (digit.toNat - '0'.toNat)) 0

/-- Reads an optional power of ten at the end of a text. -/
private def power? : List Char → Option Int
  | [] => some 0
  | mark :: rest =>
      if mark = 'e' ∨ mark = 'E' then
        let (negative, digits) := match rest with
          | '-' :: rest => (true, rest)
          | '+' :: rest => (false, rest)
          | rest => (false, rest)
        if digits.isEmpty || !digits.all Char.isDigit then none
        else some (if negative then -(natOf digits : Int) else natOf digits)
      else none

/-- The float `digits * 10 ^ exponent`; powers far outside of the range of
floats give zero or infinity at once. -/
private def nearest (negative : Bool) (digits : Nat) (exponent : Int) : Float :=
  let size := exponent + (Nat.toDigits 10 digits).length
  let value : Float :=
    if digits = 0 ∨ size < -400 then 0.0
    else if size > 400 then 1.0 / 0.0
    else if exponent < 0 then Float.ofScientific digits true exponent.natAbs
    else Float.ofScientific digits false exponent.natAbs
  if negative then -value else value

/-- The float that a text without a plus sign in front writes.  At least one
digit is needed, before or after the point. -/
def float? (text : List Char) : Option Float :=
  let (negative, text) := match text with
    | '-' :: rest => (true, rest)
    | text => (false, text)
  let whole := text.takeWhile Char.isDigit
  let rest := text.dropWhile Char.isDigit
  let (places, rest) := match rest with
    | '.' :: rest => (rest.takeWhile Char.isDigit, rest.dropWhile Char.isDigit)
    | rest => ([], rest)
  if whole.isEmpty ∧ places.isEmpty then none
  else (power? rest).map fun power =>
    nearest negative (natOf (whole ++ places)) (power - places.length)

end Stencil.Decimal
