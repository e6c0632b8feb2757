import Stencil.Value.Basic

/-!
# Reading JSON

The reader takes one value with blanks around it and nothing else.  Containers
may be nested to a fixed depth.  A whole number that fits in 64 bits is kept
exactly.  Every other number becomes a binary64 float: the first digits that
fit in 64 bits, multiplied or divided by a power of ten.
-/

namespace Stencil.Json

/-- Why a text is not JSON. -/
inductive Fault where
  | endOfText
  | unexpected (char : Char)
  | controlCharacter
  | badEscape
  | loneSurrogate
  | badNumber
  | numberTooLarge
  | tooDeep
  | trailingText
deriving DecidableEq, Repr

namespace Fault

def message : Fault → String
  | endOfText => "unexpected end of text"
  | unexpected char => "unexpected character " ++ char.toString
  | controlCharacter => "control character in a string"
  | badEscape => "invalid escape in a string"
  | loneSurrogate => "half of a surrogate pair in a string"
  | badNumber => "invalid number"
  | numberTooLarge => "number out of range"
  | tooDeep => "nesting limit exceeded"
  | trailingText => "trailing characters"

end Fault

/-- The rest of a text after something has been read from it. -/
abbrev Read (α : Type) := Except Fault (α × List Char)

/-- How deep containers may be nested. -/
def maxDepth : Nat := 127

def isGap (char : Char) : Bool :=
  char = ' ' || char = '\n' || char = '\t' || char = '\r'

/-- The text without the blanks at its start. -/
def skipGap (text : List Char) : List Char :=
  text.dropWhile isGap

/-! ## Numbers -/

def natOfDigits (digits : List Char) : Nat :=
  digits.foldl (fun value digit => value * 10 + (digit.toNat - '0'.toNat)) 0

/-- Takes in digits while the number stays below 2⁶⁴; gives the number and how
many digits were taken. -/
def absorb (start : Nat) : List Char → Nat × Nat
  | [] => (start, 0)
  | digit :: rest =>
      let next := start * 10 + (digit.toNat - '0'.toNat)
      if next < Nat.pow 2 64 then
        let (value, count) := absorb next rest
        (value, count + 1)
      else (start, 0)

private def powerOfTen (exponent : Nat) : Float :=
  Float.ofScientific 1 false exponent

/-- Divides by `10 ^ exponent` in steps that a float can hold. -/
private def scaleDown (fuel : Nat) (value : Float) (exponent : Nat) : Float :=
  match fuel with
  | 0 => value
  | fuel + 1 =>
      if exponent ≤ 308 then value / powerOfTen exponent
      else if value == 0.0 then value
      else scaleDown fuel (value / powerOfTen 308) (exponent - 308)

def scaled (negative : Bool) (significand : Nat) (exponent : Int) : Except Fault Number :=
  let start := (UInt64.ofNat significand).toFloat
  let finish (value : Float) : Number := .float (if negative then -value else value).toBits
  if exponent < 0 then .ok (finish (scaleDown 8 start exponent.natAbs))
  else if exponent ≤ 308 then
    let value := start * powerOfTen exponent.toNat
    if value.isInf then .error .numberTooLarge else .ok (finish value)
  else if start == 0.0 then .ok (finish start)
  else .error .numberTooLarge

/-- The largest power of ten that may be written. -/
private def maxPower : Nat := Nat.pow 2 31 - 1

/-- Reads an optional power of ten after the digits of a float. -/
private def readPower (negative : Bool) (significand : Nat) (exponent : Int) (text : List Char) :
    Read Number :=
  match text with
  | mark :: rest =>
      if mark = 'e' || mark = 'E' then
        let (down, rest) := match rest with
          | '-' :: rest => (true, rest)
          | '+' :: rest => (false, rest)
          | rest => (false, rest)
        let digits := rest.takeWhile Char.isDigit
        let rest := rest.dropWhile Char.isDigit
        if digits.isEmpty then .error .badNumber
        else
          let power := natOfDigits digits
          if power > maxPower then
            if significand ≠ 0 ∧ !down then .error .numberTooLarge
            else .ok (.float (if negative then -0.0 else (0.0 : Float)).toBits, rest)
          else
            (scaled negative significand (exponent + (if down then -(power : Int) else power))).map
              fun number => (number, rest)
      else (scaled negative significand exponent).map fun number => (number, text)
  | [] => (scaled negative significand exponent).map fun number => (number, [])

private def wholeNumber (negative : Bool) (digits : List Char) : Except Fault Number :=
  let (significand, count) := absorb 0 digits
  if count < digits.length then scaled negative significand (digits.length - count : Nat)
  else if !negative then .ok (.whole significand)
  else if significand = 0 || significand > Nat.pow 2 63 then scaled true significand 0
  else .ok (.whole (-(significand : Int)))

def readUnsigned (negative : Bool) (text : List Char) : Read Number :=
  let digits := text.takeWhile Char.isDigit
  let rest := text.dropWhile Char.isDigit
  match digits with
  | [] => .error (match rest with | [] => .endOfText | _ => .badNumber)
  | '0' :: _ :: _ => .error .badNumber
  | digits =>
      let (significand, count) := absorb 0 digits
      let dropped := digits.length - count
      match rest with
      | '.' :: rest =>
          let places := rest.takeWhile Char.isDigit
          let rest := rest.dropWhile Char.isDigit
          if places.isEmpty then .error .badNumber
          else
            let (significand, count) := absorb significand places
            readPower negative significand ((dropped : Int) - count) rest
      | 'e' :: _ => readPower negative significand dropped rest
      | 'E' :: _ => readPower negative significand dropped rest
      | rest => (wholeNumber negative digits).map fun number => (number, rest)

def readNumber : List Char → Read Number
  | '-' :: rest => readUnsigned true rest
  | text => readUnsigned false text

/-! ## Strings -/

def hexDigit? (char : Char) : Option Nat :=
  if char.isDigit then some (char.toNat - '0'.toNat)
  else if 'a' ≤ char ∧ char ≤ 'f' then some (char.toNat - 'a'.toNat + 10)
  else if 'A' ≤ char ∧ char ≤ 'F' then some (char.toNat - 'A'.toNat + 10)
  else none

/-- Reads four hexadecimal digits. -/
def readUnit : List Char → Read Nat
  | a :: b :: c :: d :: rest =>
      match hexDigit? a, hexDigit? b, hexDigit? c, hexDigit? d with
      | some a, some b, some c, some d => .ok (((a * 16 + b) * 16 + c) * 16 + d, rest)
      | _, _, _, _ => .error .badEscape
  | _ => .error .endOfText

/-- Reads the character after `\u`: one unit, or a surrogate pair. -/
def readCodePoint (text : List Char) : Except Fault (Char × List Char) := do
  let (first, rest) ← readUnit text
  if 0xDC00 ≤ first ∧ first ≤ 0xDFFF then .error .loneSurrogate
  else if 0xD800 ≤ first ∧ first ≤ 0xDBFF then
    match rest with
    | '\\' :: 'u' :: rest =>
        let (second, rest) ← readUnit rest
        if 0xDC00 ≤ second ∧ second ≤ 0xDFFF then
          .ok (Char.ofNat (0x10000 + (first - 0xD800) * 0x400 + (second - 0xDC00)), rest)
        else .error .loneSurrogate
    | _ => .error .loneSurrogate
  else .ok (Char.ofNat first, rest)

def readEscape : List Char → Read Char
  | '"' :: rest => .ok ('"', rest)
  | '\\' :: rest => .ok ('\\', rest)
  | '/' :: rest => .ok ('/', rest)
  | 'b' :: rest => .ok ('\x08', rest)
  | 'f' :: rest => .ok ('\x0c', rest)
  | 'n' :: rest => .ok ('\n', rest)
  | 'r' :: rest => .ok ('\r', rest)
  | 't' :: rest => .ok ('\t', rest)
  | 'u' :: rest => readCodePoint rest
  | [] => .error .endOfText
  | _ => .error .badEscape

/-- Reads the rest of a string after its opening quote.  Each round takes at
least one character, so the length of the text bounds the rounds. -/
def readStringFrom (fuel : Nat) (taken : List Char) (text : List Char) :
    Except Fault (String × List Char) :=
  match fuel, text with
  | 0, _ => .error .endOfText
  | _, [] => .error .endOfText
  | _, '"' :: rest => .ok (String.ofList taken.reverse, rest)
  | fuel + 1, '\\' :: rest => do
      let (char, rest) ← readEscape rest
      readStringFrom fuel (char :: taken) rest
  | fuel + 1, char :: rest =>
      if char.toNat < 0x20 then .error .controlCharacter
      else readStringFrom fuel (char :: taken) rest

/-! ## Values -/

def readWord (word : List Char) (value : Value) (text : List Char) : Read Value :=
  if word.isPrefixOf text then .ok (value, text.drop word.length)
  else .error (match text with | [] => .endOfText | char :: _ => .unexpected char)

mutual

/-- Reads a value that starts here.  `depth` counts the containers that may
still be opened.  No two rounds in a row leave the text as it is, so twice its
length bounds the rounds. -/
def readValue (fuel depth : Nat) (text : List Char) : Read Value :=
  match fuel with
  | 0 => .error .endOfText
  | fuel + 1 =>
      match text with
      | [] => .error .endOfText
      | '"' :: rest => (readStringFrom fuel [] rest).map fun (text, rest) => (.string text, rest)
      | '[' :: rest =>
          match depth with
          | 0 => .error .tooDeep
          | depth + 1 =>
              match skipGap rest with
              | ']' :: rest => .ok (.array [], rest)
              | rest => (readItems fuel depth [] rest).map fun (items, rest) => (.array items, rest)
      | '\x7b' :: rest =>
          match depth with
          | 0 => .error .tooDeep
          | depth + 1 =>
              match skipGap rest with
              | '\x7d' :: rest => .ok (.object [], rest)
              | rest =>
                  (readFields fuel depth [] rest).map fun (fields, rest) => (.object fields, rest)
      | 't' :: rest => readWord "rue".toList (.bool true) rest
      | 'f' :: rest => readWord "alse".toList (.bool false) rest
      | 'n' :: rest => readWord "ull".toList .null rest
      | char :: _ =>
          if char = '-' || char.isDigit then
            (readNumber text).map fun (number, rest) => (.number number, rest)
          else .error (.unexpected char)

def readItems (fuel depth : Nat) (taken : List Value) (text : List Char) : Read (List Value) :=
  match fuel with
  | 0 => .error .endOfText
  | fuel + 1 =>
      match readValue fuel depth (skipGap text) with
      | .error fault => .error fault
      | .ok (item, rest) =>
          match skipGap rest with
          | ',' :: rest => readItems fuel depth (item :: taken) rest
          | ']' :: rest => .ok ((item :: taken).reverse, rest)
          | [] => .error .endOfText
          | char :: _ => .error (.unexpected char)

/-- Reads the fields of an object from the first one on. -/
def readFields (fuel depth : Nat) (taken : Value.Fields) (text : List Char) :
    Read Value.Fields :=
  match fuel with
  | 0 => .error .endOfText
  | fuel + 1 =>
      match skipGap text with
      | '"' :: rest =>
          match readStringFrom fuel [] rest with
          | .error fault => .error fault
          | .ok (key, rest) =>
              match skipGap rest with
              | ':' :: rest =>
                  match readValue fuel depth (skipGap rest) with
                  | .error fault => .error fault
                  | .ok (value, rest) =>
                      match skipGap rest with
                      | ',' :: rest => readFields fuel depth ((key, value) :: taken) rest
                      | '\x7d' :: rest => .ok (((key, value) :: taken).reverse, rest)
                      | [] => .error .endOfText
                      | char :: _ => .error (.unexpected char)
              | [] => .error .endOfText
              | char :: _ => .error (.unexpected char)
      | [] => .error .endOfText
      | char :: _ => .error (.unexpected char)

end

/-- Reads a document: one value with blanks around it.  Repeated keys are kept
as they are written. -/
def readRaw (text : String) : Except Fault Value :=
  let chars := text.toList
  match readValue (2 * chars.length + 2) maxDepth (skipGap chars) with
  | .error fault => .error fault
  | .ok (value, rest) =>
      match skipGap rest with
      | [] => .ok value
      | _ => .error .trailingText

/-- Reads a document; a repeated key keeps its first place and its last value. -/
def read (text : String) : Except Fault Value :=
  (readRaw text).map Value.settled

end Stencil.Json
