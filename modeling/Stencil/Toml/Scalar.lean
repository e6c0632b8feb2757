import Stencil.Decimal.Reading
import Stencil.Toml.Text
import Stencil.Value.Datum

/-!
# Words of TOML

Whole numbers, floats, booleans, dates and times are words without quotes.  In
numbers an underscore may stand between two digits.
-/

namespace Stencil.Toml

/-- The smallest and the largest whole number. -/
def isWhole (value : Int) : Bool :=
  -(Int.pow 2 63) ≤ value && value < Int.pow 2 63

/-- The digits of a number without the underscores between them. -/
def digits? (isDigit : Char → Bool) : List Char → Option (List Char)
  | [] => none
  | [digit] => if isDigit digit then some [digit] else none
  | digit :: '_' :: rest =>
      if isDigit digit then (digits? isDigit rest).map (digit :: ·) else none
  | digit :: rest => if isDigit digit then (digits? isDigit rest).map (digit :: ·) else none

/-- The digits of a decimal number: no zero stands before other digits. -/
def decimalDigits? (text : List Char) : Option (List Char) :=
  match digits? Char.isDigit text with
  | some ('0' :: _ :: _) => none
  | found => found

def basedNumber? (base : Nat) (text : List Char) : Option Int :=
  let value? (digit : Char) := (Json.hexDigit? digit).filter (· < base)
  (digits? (fun digit => (value? digit).isSome) text).bind fun digits =>
    digits.foldlM (fun value digit =>
      (value? digit).map fun digit => value * base + (digit : Int)) 0

def splitSign : List Char → Bool × List Char
  | '-' :: rest => (true, rest)
  | '+' :: rest => (false, rest)
  | text => (false, text)

def whole? (word : List Char) : Option Int :=
  let value? := match word with
    | '0' :: 'x' :: rest => basedNumber? 16 rest
    | '0' :: 'o' :: rest => basedNumber? 8 rest
    | '0' :: 'b' :: rest => basedNumber? 2 rest
    | word =>
        let (negative, digits) := splitSign word
        (decimalDigits? digits).map fun digits =>
          if negative then -(Json.natOfDigits digits : Int) else Json.natOfDigits digits
  value?.filter isWhole

/-- The part of a number before a mark, and the part after it if there is one. -/
def splitAt (isMark : Char → Bool) (text : List Char) : List Char × Option (List Char) :=
  let before := text.takeWhile fun char => !isMark char
  match text.drop before.length with
  | [] => (before, none)
  | _ :: rest => (before, some rest)

/-- The decimal text of a float without underscores: a whole part, and after it
places, a power of ten, or both. -/
def floatDigits? (text : List Char) : Option (List Char) := do
  let (front, power) := splitAt (fun char => char = 'e' || char = 'E') text
  let (whole, places) := splitAt (· = '.') front
  if power.isNone && places.isNone then failure
  let whole ← decimalDigits? whole
  let places ← match places with
    | some places => (digits? Char.isDigit places).map ('.' :: ·)
    | none => some []
  let power ← match power with
    | some power =>
        let (negative, power) := splitSign power
        (digits? Char.isDigit power).map fun power =>
          'e' :: (if negative then '-' :: power else power)
    | none => some []
  some (whole ++ places ++ power)

def float? (word : List Char) : Option Float :=
  let (negative, text) := splitSign word
  let value? :=
    if text = "inf".toList then some (1.0 / 0.0 : Float)
    else if text = "nan".toList then some (0.0 / 0.0)
    else ((floatDigits? text).bind Decimal.float?).filter fun value => negative || value.isFinite
  value?.map fun value => if negative then -value else value

/-! ## Dates and times -/

/-- The number of a fixed count of digits, and the text after them. -/
def takeNumber? (width : Nat) (text : List Char) : Option (Nat × List Char) :=
  let digits := text.take width
  if digits.length = width ∧ digits.all Char.isDigit then
    some (Json.natOfDigits digits, text.drop width)
  else none

def daysOf (year month : Nat) : Nat :=
  if month = 2 then
    if year % 4 = 0 ∧ (year % 100 ≠ 0 ∨ year % 400 = 0) then 29 else 28
  else if month ∈ [4, 6, 9, 11] then 30
  else 31

def afterDate? (text : List Char) : Option (List Char) := do
  let (year, text) ← takeNumber? 4 text
  let text ← (if text.head? = some '-' then some (text.drop 1) else none)
  let (month, text) ← takeNumber? 2 text
  let text ← (if text.head? = some '-' then some (text.drop 1) else none)
  let (day, text) ← takeNumber? 2 text
  if 1 ≤ month ∧ month ≤ 12 ∧ 1 ≤ day ∧ day ≤ daysOf year month then some text else none

def afterTime? (text : List Char) : Option (List Char) := do
  let (hour, text) ← takeNumber? 2 text
  let text ← (if text.head? = some ':' then some (text.drop 1) else none)
  let (minute, text) ← takeNumber? 2 text
  let text ← (if text.head? = some ':' then some (text.drop 1) else none)
  let (second, text) ← takeNumber? 2 text
  if hour ≤ 23 ∧ minute ≤ 59 ∧ second ≤ 60 then
    match text with
    | '.' :: rest =>
        let places := rest.takeWhile Char.isDigit
        if places.isEmpty then none else some (rest.drop places.length)
    | text => some text
  else none

/-- Whether a text is empty or the distance from universal time. -/
def isOffset : List Char → Bool
  | [] => true
  | [mark] => mark = 'Z' || mark = 'z'
  | sign :: rest =>
      (sign = '+' || sign = '-') &&
        (match takeNumber? 2 rest with
          | some (hours, ':' :: rest) =>
              match takeNumber? 2 rest with
              | some (minutes, []) => hours ≤ 23 && minutes ≤ 59
              | _ => false
          | _ => false)

/-- Whether a word is a date, a time, or both. -/
def isMoment (word : List Char) : Bool :=
  match afterDate? word with
  | some [] => true
  | some (mark :: rest) =>
      (mark = 'T' || mark = 't' || mark = ' ') &&
        (match afterTime? rest with
          | some rest => isOffset rest
          | none => false)
  | none => afterTime? word = some []

/-- The key under which a date or a time stands as a mapping. -/
def momentKey : String := "moment"

def wordDatum? (word : List Char) : Option Datum :=
  if word = "true".toList then some (.scalar none (some (.bool true)))
  else if word = "false".toList then some (.scalar none (some (.bool false)))
  else match whole? word with
    | some value => some (.scalar none (some (.whole value)))
    | none =>
        match float? word with
        | some value =>
            some (.scalar none (some (((Number.ofFloat? value).map Value.number).getD .null)))
        | none =>
            if isMoment word then
              let text := String.ofList word
              some (.mapping [(momentKey, .scalar (some text) (some (.string text)))])
            else none

def isWordChar (char : Char) : Bool :=
  isKeyChar char || char = '+' || char = '.' || char = ':'

/-- Reads a word.  A blank belongs to it when a date stands before the blank and
a digit after it. -/
def readWord (text : List Char) : Except Fault (Datum × List Char) :=
  let first := text.takeWhile isWordChar
  let word := match text.drop first.length with
    | ' ' :: next :: rest =>
        if afterDate? first = some [] ∧ next.isDigit then
          first ++ ' ' :: (next :: rest).takeWhile isWordChar
        else first
    | _ => first
  if word.isEmpty then refuse text
  else match wordDatum? word with
    | some datum => .ok (datum, text.drop word.length)
    | none => .error (.badScalar (String.ofList word))

end Stencil.Toml
