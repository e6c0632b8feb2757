import Stencil.Text.Letter

/-!
# Words of an identifier

Identifiers come in many spellings: `findPets`, `FindPets`, `find-pets`,
`find pets`.  Snake case is the common form from which the others are made.  It
is produced by one pass over the text that remembers what separates the next
kept character from the one before.
-/

namespace Stencil.Text

/-- The four characters that separate words. -/
def isSeparator (char : Char) : Bool :=
  char = '-' || char = '_' || char = ' ' || char = '.'

/-- Characters after which an uppercase letter starts a word. -/
def endsWord (char : Char) : Bool :=
  isLowercase char || char.isDigit

/-- What the pass over an identifier remembers of the text behind it. -/
structure Boundary where
  /-- Some character has been written. -/
  started : Bool
  /-- A separator has been read since the last written character. -/
  gap : Bool
  /-- The last kept character, unless a separator followed it, ends a word
  before an uppercase letter. -/
  rising : Bool
deriving DecidableEq

namespace Boundary

def initial : Boundary := ⟨false, false, false⟩

def mark (boundary : Boundary) (due : Bool) : List Char :=
  if boundary.started && due then ['_'] else []

end Boundary

/-- Snake case of the rest of an identifier.  Uppercase letters are lowered,
separators become at most one underscore between written characters, and all
other characters that are not alphanumeric disappear. -/
def snakeFrom : Boundary → List Char → List Char
  | _, [] => []
  | boundary, char :: rest =>
      if isUppercase char then
        boundary.mark (boundary.gap || boundary.rising) ++ lowercase char ++
          snakeFrom ⟨true, false, false⟩ rest
      else if isAlphanumeric char then
        boundary.mark boundary.gap ++ char :: snakeFrom ⟨true, false, endsWord char⟩ rest
      else if isSeparator char then
        snakeFrom ⟨boundary.started, true, false⟩ rest
      else
        snakeFrom boundary rest

/-- Words in lower case joined by single underscores. -/
def snake (text : List Char) : List Char :=
  snakeFrom Boundary.initial text

/-- The words of an identifier in lower case. -/
def words (text : List Char) : List (List Char) :=
  (pieces '_' (snake text)).filter fun word => !word.isEmpty

/-- The word with the uppercase mapping of its first character. -/
def capitalized : List Char → List Char
  | [] => []
  | first :: rest => uppercase first ++ rest

/-- Capitalized words with nothing between them. -/
def pascal (text : List Char) : List Char :=
  (words text).flatMap capitalized

/-- Pascal case whose first character is lowered. -/
def camel (text : List Char) : List Char :=
  match pascal text with
  | [] => []
  | first :: rest => lowercase first ++ rest

/-- Words in lower case joined by single hyphens. -/
def kebab (text : List Char) : List Char :=
  (snake text).map fun char => if char = '_' then '-' else char

/-- `find_pets_by_status` -/
def snakeCase (text : String) : String :=
  String.ofList (snake text.toList)

/-- `FindPetsByStatus` -/
def pascalCase (text : String) : String :=
  String.ofList (pascal text.toList)

/-- `findPetsByStatus` -/
def camelCase (text : String) : String :=
  String.ofList (camel text.toList)

/-- `find-pets-by-status` -/
def kebabCase (text : String) : String :=
  String.ofList (kebab text.toList)

/-- The text with an underscore in place of every character that is not
alphanumeric. -/
def masked (text : List Char) : List Char :=
  text.map fun char => if isAlphanumeric char then char else '_'

/-- The identifier of an operation that has none: the words of its method and
of its path, in snake case. -/
def routeIdentifier (method path : String) : String :=
  String.ofList (snake (masked (method.toList ++ '_' :: path.toList)))

end Stencil.Text
