import Stencil.Decimal.Reading
import Stencil.Text.Letter

/-!
# Tokens of templates

A reader takes something from the front of a text, or fails.  A choice takes the
first alternative that succeeds and never comes back to it.  Tokens are read
without blanks inside.
-/

namespace Stencil.Template

open Stencil.Text

/-- Reads something from the front of a text, or fails. -/
abbrev Reader (α : Type) := StateT (List Char) Option α

namespace Reader

/-- Repeats a reader until it fails, at most once for each character of the
bound. -/
def manyFrom {α : Type} (bound : List Char) (item : Reader α) (text : List Char) :
    List α × List Char :=
  match bound with
  | [] => ([], text)
  | _ :: bound =>
      match item text with
      | none => ([], text)
      | some (first, rest) =>
          let (others, rest) := manyFrom bound item rest
          (first :: others, rest)

/-- Repeats a reader that takes at least one character until it fails. -/
def many {α : Type} (item : Reader α) : Reader (List α) :=
  fun text => some (manyFrom text item text)

def perhaps {α : Type} (item : Reader α) : Reader (Option α) :=
  some <$> item <|> pure none

def present (item : Reader Unit) : Reader Bool :=
  (do item; pure true) <|> pure false

def word (word : String) : Reader Unit :=
  fun text => (afterPrefix? word.toList text).map fun rest => ((), rest)

def takeWhile (test : Char → Bool) : Reader (List Char) :=
  fun text => some (text.takeWhile test, text.dropWhile test)

def one (test : Char → Bool) : Reader Char
  | char :: rest => if test char then some (char, rest) else none
  | [] => none

/-- Takes at least one character, and all that satisfy a test. -/
def some1 (test : Char → Bool) : Reader (List Char) := do
  let first ← one test
  let rest ← takeWhile test
  pure (first :: rest)

def isGap (char : Char) : Bool :=
  char = ' ' || char = '\t' || char = '\r' || char = '\n'

/-- Takes the blanks in front. -/
def gap : Reader Unit :=
  fun text => some ((), text.dropWhile isGap)

/-- Takes at least one blank. -/
def space : Reader Unit := do
  let _ ← one isGap
  gap

/-- Blanks, and then a fixed text. -/
def symbol (text : String) : Reader Unit := do
  gap
  word text

/-- Succeeds only at the end of the text. -/
def finish : Reader Unit
  | [] => some ((), [])
  | _ :: _ => none

end Reader

open Reader

def isNameStart (char : Char) : Bool :=
  char.isAlpha || char = '_'

def isNameChar (char : Char) : Bool :=
  char.isAlphanum || char = '_'

def readName : Reader String := do
  let first ← one isNameStart
  let rest ← takeWhile isNameChar
  pure (String.ofList (first :: rest))

/-- Reads the digits in front of a point: no zero stands before other digits. -/
def readLeading : Reader (List Char)
  | '0' :: rest => some (['0'], rest)
  | text => some1 Char.isDigit text

def readMinus : Reader (List Char) :=
  (do word "-"; pure ['-']) <|> pure []

def numberOf (digits : List Char) : Nat :=
  digits.foldl (fun value digit => value * 10 + (digit.toNat - '0'.toNat)) 0

def readWholeText : Reader (List Char) := do
  let minus ← readMinus
  let digits ← readLeading
  pure (minus ++ digits)

def readWhole : Reader Int := do
  let minus ← readMinus
  let digits ← readLeading
  let value : Int := if minus.isEmpty then numberOf digits else -(numberOf digits : Int)
  if -(Int.pow 2 63) ≤ value ∧ value < Int.pow 2 63 then pure value else failure

/-- Reads a number with a point in it as a binary64 word. -/
def readFloat : Reader UInt64 := do
  let minus ← readMinus
  let leading ← readLeading
  word "."
  let places ← some1 Char.isDigit
  match Decimal.float? (minus ++ leading ++ '.' :: places) with
  | some value => pure value.toBits
  | none => failure

def readBetween (quote : Char) : Reader (List Char) := do
  let _ ← one (· = quote)
  let inside ← takeWhile (· ≠ quote)
  let _ ← one (· = quote)
  pure inside

/-- Reads a text in double quotes, single quotes or grave accents. -/
def readText : Reader String :=
  String.ofList <$> (readBetween '"' <|> readBetween '\'' <|> readBetween '\x60')

def readTextAsWritten : Reader (List Char) :=
  quotedWith '"' <|> quotedWith '\'' <|> quotedWith '\x60'
where
  /-- Reads a text between quotes of one kind, and keeps them. -/
  quotedWith (quote : Char) : Reader (List Char) := do
    let inside ← readBetween quote
    pure (quote :: inside ++ [quote])

/-- Reads a dot and the name or number after it. -/
def readMember : Reader (List Char) := do
  word "."
  let name ← some1 isNameChar
  pure ('.' :: name)

/-- Reads a path: a name, and after it members and brackets.  In brackets stands
a number, a text or a path.  Every path inside has fewer characters, so the
text bounds their nesting. -/
def readPathText (bound : List Char) : Reader (List Char) :=
  match bound with
  | [] => failure
  | _ :: bound => do
      let first ← one isNameStart
      let rest ← takeWhile isNameChar
      let steps ← many (readMember <|> do
        word "["
        let inside ← readWholeText <|> readTextAsWritten <|> readPathText bound
        word "]"
        pure ('[' :: inside ++ [']']))
      pure (first :: rest ++ steps.flatten)

def readPath : Reader String :=
  fun text => (String.ofList <$> readPathText text) text

/-- Reads a truth value; what follows the word does not matter. -/
def readFlag : Reader Bool :=
  (do word "true"; pure true) <|> (do word "false"; pure false) <|>
    (do word "True"; pure true) <|> (do word "False"; pure false)

end Stencil.Template
