/-!
# Shortest decimals of binary fractions

A binary64 number is the nearest one to every real in an interval around it.
Among the decimals in that interval the shortest is the usual way to write the
number.  All comparisons here are between natural numbers, so nothing is lost
to rounding.
-/

namespace Stencil.Decimal

/-- The decimal `digits * 10 ^ exponent`. -/
structure Expansion where
  digits : Nat
  exponent : Int
deriving DecidableEq, Repr

namespace Expansion

/-- Removes trailing zeros from the digits, at most `limit` of them. -/
def stripped (limit : Nat) (decimal : Expansion) : Expansion :=
  match limit with
  | 0 => decimal
  | limit + 1 =>
      if decimal.digits ≠ 0 ∧ decimal.digits % 10 = 0 then
        stripped limit ⟨decimal.digits / 10, decimal.exponent + 1⟩
      else decimal

def digitText (decimal : Expansion) : List Char :=
  Nat.toDigits 10 decimal.digits

def width (decimal : Expansion) : Nat :=
  decimal.digitText.length

/-- How many places the decimal point stands to the right of the first digit. -/
def point (decimal : Expansion) : Int :=
  decimal.exponent + decimal.width

end Expansion

/-- A positive binary fraction `significand * 2 ^ exponent` as a binary64 word
stores it. -/
structure Fraction where
  significand : Nat
  exponent : Int
  /-- The gap to the next smaller number is half of the gap to the next larger. -/
  narrowBelow : Bool
deriving DecidableEq, Repr

namespace Fraction

/-- Twice to the given power when it is positive, else one. -/
private def powerUp (base : Nat) (exponent : Int) : Nat :=
  Nat.pow base exponent.toNat

/-- The fraction in quarters of its last place, as numerator and denominator. -/
def scale (fraction : Fraction) : Nat × Nat :=
  (powerUp 2 (fraction.exponent - 2), powerUp 2 (2 - fraction.exponent))

/-- The exponent of the power of ten that is the largest not above the fraction. -/
def magnitude (fraction : Fraction) : Int :=
  let (up, down) := fraction.scale
  let scaled := 4 * fraction.significand * up * Nat.pow 10 400 / down
  ((Nat.toDigits 10 scaled).length : Int) - 401

def covers (fraction : Fraction) (digits : Nat) (exponent : Int) : Bool :=
  let (up, down) := fraction.scale
  let candidate := digits * powerUp 10 exponent * down
  let unit := up * powerUp 10 (-exponent)
  let lower := (4 * fraction.significand - (if fraction.narrowBelow then 1 else 2)) * unit
  let upper := (4 * fraction.significand + 2) * unit
  if fraction.significand % 2 = 0 then lower ≤ candidate && candidate ≤ upper
  else lower < candidate && candidate < upper

/-- The best decimal with the given number of digits, when one of that length
rounds to the fraction. -/
def decimalOfWidth? (fraction : Fraction) (width : Nat) : Option Expansion :=
  let exponent := fraction.magnitude - width + 1
  let (up, down) := fraction.scale
  let numerator := 4 * fraction.significand * up * powerUp 10 (-exponent)
  let denominator := down * powerUp 10 exponent
  let below := numerator / denominator
  let above := below + 1
  let nearerBelow := 2 * (numerator % denominator) ≤ denominator
  match fraction.covers below exponent, fraction.covers above exponent with
  | true, true => some ⟨if nearerBelow then below else above, exponent⟩
  | true, false => some ⟨below, exponent⟩
  | false, true => some ⟨above, exponent⟩
  | false, false => none

/-- The shortest decimal that rounds to the fraction; of several, the nearest.
Seventeen digits always suffice. -/
def shortest (fraction : Fraction) : Expansion :=
  (((List.range 17).findSome? fun width => fraction.decimalOfWidth? (width + 1)).getD
    ⟨fraction.significand, 0⟩).stripped 400

end Fraction

/-- A binary64 word taken apart. -/
inductive Parts where
  | zero (negative : Bool)
  | finite (negative : Bool) (fraction : Fraction)
  | infinite (negative : Bool)
  | notANumber
deriving DecidableEq, Repr

/-- Sign, exponent and significand of a binary64 word. -/
def partsOfBits (bits : UInt64) : Parts :=
  let word := bits.toNat
  let negative : Bool := word / Nat.pow 2 63 = 1
  let biased : Nat := word / Nat.pow 2 52 % Nat.pow 2 11
  let stored : Nat := word % Nat.pow 2 52
  if biased = 2047 then
    if stored = 0 then .infinite negative else .notANumber
  else if biased = 0 then
    if stored = 0 then .zero negative else .finite negative ⟨stored, -1074, false⟩
  else .finite negative ⟨Nat.pow 2 52 + stored, (biased : Int) - 1075, stored == 0 && biased > 1⟩

private def zeros (count : Int) : List Char :=
  List.replicate count.toNat '0'

/-- Positional notation, with `.0` after a whole number on request. -/
def Expansion.positional (decimal : Expansion) (keepPoint : Bool) : List Char :=
  let digits := decimal.digitText
  let point := decimal.point
  if point ≤ 0 then '0' :: '.' :: (zeros (-point) ++ digits)
  else if decimal.exponent ≥ 0 then
    digits ++ zeros decimal.exponent ++ (if keepPoint then ['.', '0'] else [])
  else digits.take point.toNat ++ '.' :: digits.drop point.toNat

/-- One digit before the point, the others after it, and a power of ten. -/
def Expansion.scientific (decimal : Expansion) : List Char :=
  let power := toString (decimal.point - 1)
  match decimal.digitText with
  | [] => []
  | [digit] => digit :: 'e' :: power.toList
  | digit :: rest => digit :: '.' :: (rest ++ 'e' :: power.toList)

private def signed (negative : Bool) (text : List Char) : String :=
  String.ofList (if negative then '-' :: text else text)

/-- Shortest digits, always with a point or an exponent: positional up to below
10¹⁶ and from the smallest number on whose point stands `least` places right of
its first digit, scientific outside. -/
def pointedText (least : Int) (bits : UInt64) : String :=
  match partsOfBits bits with
  | .zero negative => signed negative ['0', '.', '0']
  | .infinite negative => signed negative "inf".toList
  | .notANumber => "NaN"
  | .finite negative fraction =>
      let decimal := fraction.shortest
      let point := decimal.point
      signed negative
        (if least ≤ point ∧ point ≤ 16 then decimal.positional true else decimal.scientific)

/-- The text of a number in data: positional from 10⁻⁵ on. -/
def dataText (bits : UInt64) : String :=
  pointedText (-4) bits

/-- The text of a number in a dump: positional from 10⁻⁴ on. -/
def dumpText (bits : UInt64) : String :=
  pointedText (-3) bits

/-- The text of a number in prose: shortest digits, always positional, and no
point after a whole number. -/
def plainText (bits : UInt64) : String :=
  match partsOfBits bits with
  | .zero negative => signed negative ['0']
  | .infinite negative => signed negative "inf".toList
  | .notANumber => "NaN"
  | .finite negative fraction => signed negative (fraction.shortest.positional false)

end Stencil.Decimal
