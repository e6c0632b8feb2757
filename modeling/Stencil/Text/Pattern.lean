import Stencil.Text.Letter

/-!
# Patterns in texts

A pattern is a text that is looked for in another text.  Its occurrences are
taken from left to right and do not overlap.  The empty pattern occurs at both
ends of a text and between every two characters.
-/

namespace Stencil.Text

/-- The text in front of the first occurrence of a pattern, and the text after
it. -/
def splitFirst? (pattern : List Char) (text : List Char) : Option (List Char × List Char) :=
  match afterPrefix? pattern text with
  | some after => some ([], after)
  | none =>
      match text with
      | [] => none
      | char :: rest =>
          (splitFirst? pattern rest).map fun (front, after) => (char :: front, after)

def occurs (pattern text : List Char) : Bool :=
  (splitFirst? pattern text).isSome

/-- The pieces between the first occurrences of a pattern, of which at most
`limit` are taken. -/
def splitsUpTo (pattern : List Char) : Nat → List Char → List (List Char)
  | 0, text => [text]
  | limit + 1, text =>
      match splitFirst? pattern text with
      | some (front, after) => front :: splitsUpTo pattern limit after
      | none => [text]

def splits (pattern text : List Char) : List (List Char) :=
  if pattern.isEmpty then [] :: (text.map ([·]) ++ [[]]) else splitsUpTo pattern text.length text

/-- The text with another text in place of every occurrence of a pattern. -/
def replaced (pattern replacement text : List Char) : List Char :=
  List.intercalate replacement (splits pattern text)

/-- The text with another text in place of every occurrence of a pattern. -/
def replace (pattern replacement text : String) : String :=
  String.ofList (replaced pattern.toList replacement.toList text.toList)

end Stencil.Text
