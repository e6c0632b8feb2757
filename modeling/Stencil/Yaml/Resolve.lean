import Stencil.Decimal.Reading
import Stencil.Text.Letter
import Stencil.Value.Basic

/-!
# What plain scalars mean

A plain scalar is null, a boolean, a whole number in base ten, sixteen, eight or
two, a float, or else a text.  Digits after a leading zero are a text.
-/

namespace Stencil.Yaml

open Stencil.Text

def isNullWord (text : String) : Bool :=
  ["null", "Null", "NULL", "~"].contains text

def boolWord? (text : String) : Option Bool :=
  if ["true", "True", "TRUE"].contains text then some true
  else if ["false", "False", "FALSE"].contains text then some false
  else none

private def digit? (base : Nat) (char : Char) : Option Nat :=
  let value :=
    if char.isDigit then char.toNat - '0'.toNat
    else if 'a' ≤ char ∧ char ≤ 'f' then char.toNat - 'a'.toNat + 10
    else if 'A' ≤ char ∧ char ≤ 'F' then char.toNat - 'A'.toNat + 10
    else 16
  if value < base then some value else none

def digits? (base : Nat) : List Char → Option Nat
  | [] => none
  | digits =>
      digits.foldlM (fun value char => (digit? base char).map fun digit => value * base + digit) 0

/-- Digits after a leading zero. -/
def isPadded (text : List Char) : Bool :=
  let unsigned := match text with
    | '-' :: rest => rest
    | '+' :: rest => rest
    | text => text
  match unsigned with
  | '0' :: rest => !rest.isEmpty && rest.all Char.isDigit
  | _ => false

/-- The whole number that an unsigned text writes, with or without base. -/
private def magnitude? (padded : Bool) (text : List Char) : Option Nat :=
  let based := match text with
    | '0' :: 'x' :: rest => digits? 16 rest
    | '0' :: 'o' :: rest => digits? 8 rest
    | '0' :: 'b' :: rest => digits? 2 rest
    | _ => none
  based.or (if padded then none else digits? 10 text)

/-- The whole number that a text writes, as far as 128 bits hold it. -/
def whole? (text : List Char) : Option Int :=
  match text with
  | '-' :: rest =>
      (magnitude? (isPadded text) rest).bind fun value =>
        if value ≤ Nat.pow 2 127 then some (-(value : Int)) else none
  | _ =>
      let unsigned := match text with
        | '+' :: rest => rest
        | text => text
      (magnitude? (isPadded text) unsigned).bind fun value =>
        if value < Nat.pow 2 128 then some (value : Int) else none

/-- The value of a whole number; absent when 64 bits do not hold it. -/
def wholeValue? (value : Int) : Option Value :=
  if Number.minWhole ≤ value ∧ value ≤ Number.maxWhole then some (.whole value) else none

/-- The float that a text writes, null for the infinities and for what is no
number. -/
def floatValue? (text : String) : Option Value :=
  let chars := text.toList
  let unsigned := match chars with
    | '+' :: '+' :: _ => none
    | '+' :: '-' :: _ => none
    | '+' :: rest => some rest
    | chars => some chars
  let infinite := ["inf", "Inf", "INF"].flatMap fun word =>
    ["." ++ word, "+." ++ word, "-." ++ word]
  if infinite.contains text ∨ [".nan", ".NaN", ".NAN"].contains text then some .null
  else (unsigned.bind Decimal.float?).bind fun value => (Number.ofFloat? value).map .number

/-- The value of a plain scalar; absent for whole numbers that are too large. -/
def plainValue? (text : String) : Option Value :=
  if text.isEmpty ∨ isNullWord text then some .null
  else
    match boolWord? text with
    | some flag => some (.bool flag)
    | none =>
        match whole? text.toList with
        | some value => wholeValue? value
        | none =>
            if isPadded text.toList then some (.string text)
            else some ((floatValue? text).getD (.string text))

end Stencil.Yaml
