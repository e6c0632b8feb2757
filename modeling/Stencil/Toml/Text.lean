import Stencil.Value.Json

/-!
# Texts and keys of TOML

Texts are written in single or double quotes.  Three quotes open a text that may
run over several lines; a line end right after them does not count.  Keys are
words or one-line texts, joined by dots.
-/

namespace Stencil.Toml

/-- Why a text is not TOML. -/
inductive Fault where
  | endOfText
  | unexpected (char : Char)
  | badEscape
  | badScalar (text : String)
  | duplicateKey (key : String)
  | notTable (key : String)
  | tooDeep
deriving DecidableEq, Repr

namespace Fault

def message : Fault → String
  | endOfText => "unexpected end of text"
  | unexpected char => "unexpected character " ++ char.toString
  | badEscape => "invalid escape sequence"
  | badScalar text => "invalid value " ++ text
  | duplicateKey key => "duplicate key `" ++ key ++ "`"
  | notTable key => "dotted key `" ++ key ++ "` attempted to extend non-table type"
  | tooDeep => "recursion limit exceeded"

end Fault

/-- The fault of a text that does not go on as it should. -/
def refuse {α : Type} : List Char → Except Fault α
  | [] => .error .endOfText
  | char :: _ => .error (.unexpected char)

/-- The blanks within a line. -/
def isGap (char : Char) : Bool :=
  char = ' ' || char = '\t'

/-- The text without the blanks at its start. -/
def skipGap (text : List Char) : List Char :=
  text.dropWhile isGap

/-- Whether a character may stand in texts and comments: control characters
other than the tab may not. -/
def isOpen (char : Char) : Bool :=
  char = '\t' || (0x20 ≤ char.toNat && char.toNat ≠ 0x7F)

/-- What follows a line end. -/
def afterBreak? : List Char → Option (List Char)
  | '\n' :: rest => some rest
  | '\r' :: '\n' :: rest => some rest
  | _ => none

/-! ## Escapes -/

def escape? : Char → Option Char
  | 'b' => some '\x08'
  | 't' => some '\t'
  | 'n' => some '\n'
  | 'f' => some '\x0c'
  | 'r' => some '\r'
  | '"' => some '"'
  | '\\' => some '\\'
  | _ => none

/-- Reads a character given by a number of hexadecimal digits. -/
def readCode (width : Nat) (text : List Char) :
    Except Fault (Char × List Char) :=
  let digits := text.take width
  match digits.foldlM (fun code digit => (Json.hexDigit? digit).map (code * 16 + ·)) 0 with
  | some code =>
      if digits.length = width ∧ code.isValidChar then .ok (Char.ofNat code, text.drop width)
      else .error .badEscape
  | none => .error .badEscape

def readEscape : List Char → Except Fault (Char × List Char)
  | 'u' :: rest => readCode 4 rest
  | 'U' :: rest => readCode 8 rest
  | letter :: rest =>
      match escape? letter with
      | some char => .ok (char, rest)
      | none => .error .badEscape
  | [] => .error .endOfText

/-! ## Texts in quotes -/

/-- Reads the rest of a one-line text between double quotes. -/
def readQuoted (fuel : Nat) (taken : List Char) (text : List Char) :
    Except Fault (String × List Char) :=
  match fuel with
  | 0 => .error .endOfText
  | fuel + 1 =>
      match text with
      | '"' :: rest => .ok (String.ofList taken.reverse, rest)
      | '\\' :: rest => do
          let (char, rest) ← readEscape rest
          readQuoted fuel (char :: taken) rest
      | char :: rest =>
          if isOpen char then readQuoted fuel (char :: taken) rest else .error (.unexpected char)
      | [] => .error .endOfText

/-- Reads the rest of a one-line text between single quotes. -/
def readLiteral (text : List Char) :
    Except Fault (String × List Char) :=
  let inside := text.takeWhile fun char => isOpen char && char ≠ '\''
  match text.drop inside.length with
  | '\'' :: rest => .ok (String.ofList inside, rest)
  | rest => refuse rest

/-- The text without gaps and line ends in front. -/
def skipFold : List Char → List Char
  | '\n' :: rest => skipFold rest
  | '\r' :: '\n' :: rest => skipFold rest
  | char :: rest => if isGap char then skipFold rest else char :: rest
  | [] => []

/-- The text after a backslash at the end of a line: all blanks and line ends up
to the next word are left out. -/
def afterFoldedLine? (text : List Char) : Option (List Char) :=
  match afterBreak? (skipGap text) with
  | some rest => some (skipFold rest)
  | none => none

/-- Reads the rest of a text of several lines.  Up to two quotes may stand right
before the closing ones. -/
def readLines (fuel : Nat) (quote : Char) (taken : List Char) (text : List Char) :
    Except Fault (String × List Char) :=
  match fuel with
  | 0 => .error .endOfText
  | fuel + 1 =>
      match text with
      | [] => .error .endOfText
      | char :: rest =>
          if char = quote then
            let quotes := text.takeWhile (· = quote)
            if quotes.length < 3 then readLines fuel quote (char :: taken) rest
            else if quotes.length ≤ 5 then
              .ok (String.ofList ((quotes.drop 3) ++ taken).reverse, text.drop quotes.length)
            else
              .ok (String.ofList ([quote, quote] ++ taken).reverse, text.drop 5)
          else if char = '\\' ∧ quote = '"' then
            match afterFoldedLine? rest with
            | some rest => readLines fuel quote taken rest
            | none => do
                let (char, rest) ← readEscape rest
                readLines fuel quote (char :: taken) rest
          else match afterBreak? text with
            | some rest => readLines fuel quote ('\n' :: taken) rest
            | none =>
                if isOpen char then readLines fuel quote (char :: taken) rest
                else .error (.unexpected char)

/-- The text without the line end at its start. -/
private def skipFirstBreak (text : List Char) : List Char :=
  (afterBreak? text).getD text

def readText (fuel : Nat) : List Char → Except Fault (String × List Char)
  | '"' :: '"' :: '"' :: rest => readLines fuel '"' [] (skipFirstBreak rest)
  | '\'' :: '\'' :: '\'' :: rest => readLines fuel '\'' [] (skipFirstBreak rest)
  | '"' :: rest => readQuoted fuel [] rest
  | '\'' :: rest => readLiteral rest
  | text => refuse text

/-! ## Keys -/

def isKeyChar (char : Char) : Bool :=
  char.isAlphanum || char = '_' || char = '-'

def readKeyPart : List Char → Except Fault (String × List Char)
  | '"' :: rest => readQuoted (rest.length + 1) [] rest
  | '\'' :: rest => readLiteral rest
  | text =>
      let word := text.takeWhile isKeyChar
      if word.isEmpty then refuse text else .ok (String.ofList word, text.drop word.length)

/-- How many parts a key may have, and how deep values may be nested. -/
def maxDepth : Nat := 79

/-- Reads a key with up to the given number of parts; blanks around it are
skipped. -/
def readKey (parts : Nat) (text : List Char) : Except Fault (List String × List Char) :=
  match parts with
  | 0 => .error .tooDeep
  | parts + 1 => do
      let (part, rest) ← readKeyPart (skipGap text)
      match skipGap rest with
      | '.' :: rest => do
          let (later, rest) ← readKey parts rest
          .ok (part :: later, rest)
      | rest => .ok ([part], rest)

end Stencil.Toml
