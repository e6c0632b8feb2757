import Stencil.Text.Letter
import Stencil.Value.Json

/-!
# Addresses on the web

A source is remote when it is a complete address of the scheme `http` or
`https`.  Blanks around it, tabs and line ends inside it, the letter case of the
scheme, backslashes instead of slashes and the number of slashes do not matter.
The host must be a name, four numbers or an address in brackets, and the number
after its colon must fit in sixteen bits.
-/

namespace Stencil.Source

open Stencil.Text

/-! ## Numbers and addresses of hosts -/

/-- Whether a text has at least one character and all of them satisfy a test. -/
def allOf (test : Char → Bool) (text : List Char) : Bool :=
  !text.isEmpty && text.all test

def numberOf? (base : Nat) (digits : List Char) : Option Nat :=
  digits.foldlM (fun value digit =>
    ((Json.hexDigit? digit).filter (· < base)).map (value * base + ·)) 0

/-- One of the numbers of a host: decimal, octal after a zero, hexadecimal after
`0x`. -/
def hostNumber? : List Char → Option Nat
  | [] => none
  | '0' :: 'x' :: rest => numberOf? 16 rest
  | '0' :: 'X' :: rest => numberOf? 16 rest
  | '0' :: first :: rest => numberOf? 8 (first :: rest)
  | text => numberOf? 10 text

/-- The parts of a host name; one dot at its end does not count. -/
def hostParts (host : List Char) : List (List Char) :=
  let parts := pieces '.' host
  if parts.length > 1 ∧ parts.getLast? = some [] then parts.dropLast else parts

/-- Whether the last part of a host is a number, so that the host must be an
address of numbers. -/
def endsInNumber (host : List Char) : Bool :=
  match (hostParts host).getLast? with
  | some last => allOf Char.isDigit last || (hostNumber? last).isSome
  | none => false

/-- Whether a host is an address of up to four numbers.  All but the last fit in
eight bits, the last fills what is left of 32 bits. -/
def isNumberAddress (host : List Char) : Bool :=
  match (hostParts host).mapM hostNumber? with
  | none => false
  | some numbers =>
      numbers.length ≤ 4 && numbers.dropLast.all (· < 256) &&
        (match numbers.getLast? with
          | some last => last < Nat.pow 256 (5 - numbers.length)
          | none => false)

/-- Whether a text is one of four decimal numbers inside brackets. -/
def isByteText (text : List Char) : Bool :=
  allOf Char.isDigit text && text.length ≤ 3 && (text.length = 1 || text.head? != some '0') &&
    Json.natOfDigits text < 256

/-- The number of 16-bit groups that a list of pieces fills, absent when one of
them is no group.  Four decimal numbers may stand at the end for two groups. -/
def groupCount? : List (List Char) → Option Nat
  | [] => some 0
  | [last] =>
      if last.contains '.' then
        let parts := pieces '.' last
        if parts.length = 4 ∧ parts.all isByteText then some 2 else none
      else if isGroup last then some 1 else none
  | group :: rest => if isGroup group then (groupCount? rest).map (· + 1) else none
where
  /-- One to four hexadecimal digits. -/
  isGroup (text : List Char) : Bool :=
    allOf (fun char => (Json.hexDigit? char).isSome) text && text.length ≤ 4

/-- Splits at the first pair of colons. -/
def splitAtGap? : List Char → Option (List Char × List Char)
  | ':' :: ':' :: rest => some ([], rest)
  | char :: rest => (splitAtGap? rest).map fun (front, back) => (char :: front, back)
  | [] => none

/-- The pieces of a text between colons; none for the empty text. -/
def colonPieces (text : List Char) : List (List Char) :=
  if text.isEmpty then [] else pieces ':' text

/-- Whether a text is an address of eight groups, where two colons may stand for
one or more groups of zeros. -/
def isGroupAddress (text : List Char) : Bool :=
  match splitAtGap? text with
  | none => groupCount? (colonPieces text) == some 8
  | some (front, back) =>
      !front.contains '.' &&
        (match groupCount? (colonPieces front), groupCount? (colonPieces back) with
          | some front, some back => front + back ≤ 7
          | _, _ => false)

/-! ## Hosts -/

/-- The bytes of a text with the escapes of a percent sign and two hexadecimal
digits decoded. -/
def decodePercent : List UInt8 → List UInt8
  | [] => []
  | [byte] => [byte]
  | [first, second] => [first, second]
  | first :: second :: third :: rest =>
      match digit? second, digit? third with
      | some high, some low =>
          if first = 0x25 then UInt8.ofNat (16 * high + low) :: decodePercent rest
          else first :: decodePercent (second :: third :: rest)
      | _, _ => first :: decodePercent (second :: third :: rest)
where
  /-- The value of a hexadecimal digit. -/
  digit? (byte : UInt8) : Option Nat :=
    Json.hexDigit? (Char.ofNat byte.toNat)

def isForbidden (char : Char) : Bool :=
  char.toNat ≤ 0x20 || char.toNat = 0x7F || "%#/:<>?@[\\]^\x60\x7b|\x7d".toList.contains char

def isHost (host : List Char) : Bool :=
  match host with
  | '[' :: rest =>
      match rest.getLast? with
      | some ']' => isGroupAddress rest.dropLast
      | _ => false
  | host =>
      let bytes := decodePercent (String.ofList host).toUTF8.toList
      match String.fromUTF8? ⟨bytes.toArray⟩ with
      | none => false
      | some name =>
          let name := name.toList.filter (· ≠ '\u00ad')
          !name.isEmpty && !name.any isForbidden &&
            (!endsInNumber name || isNumberAddress name)

/-- Whether a text can be the number of a service at a host, which may be left out. -/
def isServiceNumber (number : List Char) : Bool :=
  number.all Char.isDigit && Json.natOfDigits number < Nat.pow 2 16

/-! ## Addresses -/

/-- The text without blanks and control characters around it, and without tabs
and line ends inside. -/
def tidied (text : List Char) : List Char :=
  let isOuter (char : Char) : Bool := char.toNat ≤ 0x20
  let start := text.dropWhile isOuter
  let inner := (start.reverse.dropWhile isOuter).reverse
  inner.filter fun char => char ≠ '\t' && char ≠ '\n' && char ≠ '\r'

/-- The text after one of the two web schemes and its colon. -/
def afterScheme? (text : List Char) : Option (List Char) :=
  let scheme := text.takeWhile (· ≠ ':')
  let word := String.ofList (scheme.map Char.toLower)
  if word = "http" ∨ word = "https" then
    match text.drop scheme.length with
    | _ :: rest => some rest
    | [] => none
  else none

/-- Whether a character ends the host of an address and the number after it. -/
def endsAuthority (char : Char) : Bool :=
  char = '/' || char = '\\' || char = '?' || char = '#'

/-- What follows the last occurrence of a character, or the whole text. -/
def afterLast (char : Char) (text : List Char) : List Char :=
  (text.reverse.takeWhile (· ≠ char)).reverse

/-- The host of an authority: up to the first colon outside of brackets. -/
def hostLength (inBrackets : Bool) : List Char → Nat
  | [] => 0
  | char :: rest =>
      if char = ':' ∧ !inBrackets then 0
      else hostLength ((inBrackets || char = '[') && char ≠ ']') rest + 1

/-- Whether a source is a complete web address. -/
def isRemote (source : String) : Bool :=
  match afterScheme? (tidied source.toList) with
  | none => false
  | some rest =>
      let authority := (rest.dropWhile fun char => char = '/' || char = '\\').takeWhile
        fun char => !endsAuthority char
      let site := afterLast '@' authority
      let length := hostLength false site
      isHost (site.take length) && isServiceNumber (site.drop (length + 1))

end Stencil.Source
