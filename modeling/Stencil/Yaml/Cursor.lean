/-!
# Places in a YAML text

A cursor is the rest of a text together with its distance from the start, its
line and its column.  Columns matter because indentation is structure, lines
and distances because a key must be short and on one line.
-/

namespace Stencil.Yaml

/-- Why a text is not a YAML document. -/
inductive Fault where
  | badCharacter
  | badStart
  | missingColon
  | misplaced (indicator : Char)
  | badDirective
  | badAnchor
  | badTag
  | badEscape
  | badIndentation
  | openQuote
  | badScalar
  | missing (what : String)
  | unknownAnchor (name : String)
  | openAnchor (name : String)
  | severalDocuments
  | badKey
  | tooDeep
  | tooManyAliases
  | tooLong
deriving DecidableEq, Repr

namespace Fault

def message : Fault → String
  | badCharacter => "control characters are not allowed"
  | badStart => "found character that cannot start any token"
  | missingColon => "could not find expected ':'"
  | misplaced indicator => "'" ++ indicator.toString ++ "' is not allowed in this context"
  | badDirective => "invalid directive"
  | badAnchor => "did not find expected alphabetic or numeric character"
  | badTag => "invalid tag"
  | badEscape => "found unknown escape character"
  | badIndentation => "found a tab character that violates indentation"
  | openQuote => "found unexpected end of a quoted scalar"
  | badScalar => "invalid scalar"
  | missing what => "did not find expected " ++ what
  | unknownAnchor name => "unknown anchor " ++ name
  | openAnchor name => "anchor " ++ name ++ " contains itself"
  | severalDocuments => "deserializing from YAML containing more than one document is not supported"
  | badKey => "invalid key of a mapping"
  | tooDeep => "recursion limit exceeded"
  | tooManyAliases => "repetition limit exceeded"
  | tooLong => "the text is too long"

end Fault

/-- A place in a text. -/
structure Cursor where
  /-- What follows. -/
  rest : List Char
  /-- How many characters are behind. -/
  index : Nat
  line : Nat
  column : Nat
deriving Inhabited

def isBreak (char : Char) : Bool :=
  char = '\n' || char = '\r' || char = '\u0085' || char = '\u2028' || char = '\u2029'

/-- The blanks within a line. -/
def isSpaceOrTab (char : Char) : Bool :=
  char = ' ' || char = '\t'

/-- The characters of anchors and tag handles. -/
def isNameChar (char : Char) : Bool :=
  char.isAlphanum || char = '_' || char = '-'

/-- The characters that a YAML text may hold. -/
def isPrintable (char : Char) : Bool :=
  let code := char.toNat
  code = 0x9 || code = 0xA || code = 0xD || (0x20 ≤ code && code ≤ 0x7E) || code = 0x85 ||
    (0xA0 ≤ code && code ≤ 0xD7FF) || (0xE000 ≤ code && code ≤ 0xFFFD) || 0x10000 ≤ code

namespace Cursor

def start (text : List Char) : Cursor := ⟨text, 0, 0, 0⟩

def peek (cursor : Cursor) : Option Char :=
  cursor.rest.head?

def peekAt (cursor : Cursor) (distance : Nat) : Option Char :=
  cursor.rest[distance]?

def sees (cursor : Cursor) (char : Char) : Bool :=
  cursor.rest.head? == some char

/-- Whether the text ends at a distance, or has a blank or a line end there. -/
def blankAt (cursor : Cursor) (distance : Nat) : Bool :=
  match cursor.peekAt distance with
  | none => true
  | some char => isSpaceOrTab char || isBreak char

def atLineEnd (cursor : Cursor) : Bool :=
  match cursor.peek with
  | none => true
  | some char => isBreak char

/-- The place after a number of characters of the same line. -/
def skip (cursor : Cursor) (count : Nat) : Cursor :=
  ⟨cursor.rest.drop count, cursor.index + count, cursor.line, cursor.column + count⟩

def skipWhile (cursor : Cursor) (test : Char → Bool) : Cursor :=
  cursor.skip (cursor.rest.takeWhile test).length

/-- The characters that satisfy a test, and the place after them. -/
def takeWhile (cursor : Cursor) (test : Char → Bool) : List Char × Cursor :=
  (cursor.rest.takeWhile test, cursor.skipWhile test)

/-- The line end that comes next in its common form, and the place after it. -/
def takeBreak (cursor : Cursor) : List Char × Cursor :=
  match cursor.rest with
  | '\r' :: '\n' :: rest => (['\n'], ⟨rest, cursor.index + 2, cursor.line + 1, 0⟩)
  | char :: rest =>
      if isBreak char then
        (if char = '\u2028' ∨ char = '\u2029' then [char] else ['\n'],
          ⟨rest, cursor.index + 1, cursor.line + 1, 0⟩)
      else ([], cursor)
  | [] => ([], cursor)

/-- The place after the line end that comes next. -/
def skipBreak (cursor : Cursor) : Cursor :=
  cursor.takeBreak.2

/-- Whether three of a character and then a blank come next at the start of a
line. -/
def atMarker (cursor : Cursor) (char : Char) : Bool :=
  cursor.column == 0 && cursor.rest.take 3 == [char, char, char] && cursor.blankAt 3

/-- Whether a document starts or ends here. -/
def atDocumentMarker (cursor : Cursor) : Bool :=
  cursor.atMarker '-' || cursor.atMarker '.'

/-- Past blanks and a comment to the end of the line; anything else there is
refused. -/
def skipToLineEnd (cursor : Cursor) (fault : Fault) : Except Fault Cursor :=
  let cursor := cursor.skipWhile isSpaceOrTab
  let cursor := if cursor.sees '#' then cursor.skipWhile fun char => !isBreak char else cursor
  if cursor.atLineEnd then .ok cursor.skipBreak else .error fault

end Cursor

end Stencil.Yaml
