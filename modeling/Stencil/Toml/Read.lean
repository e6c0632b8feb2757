import Stencil.Toml.Scalar
import Stencil.Toml.Table

/-!
# Reading TOML

A document is a sequence of lines.  A line opens a table, opens the next table
of an array, or puts a value under a key of the table opened last.  Values in
brackets may run over several lines, values in braces may not.
-/

namespace Stencil.Toml

/-- The text after blanks, line ends and comments. -/
def skipLines (fuel : Nat) (text : List Char) : List Char :=
  match fuel with
  | 0 => text
  | fuel + 1 =>
      match skipGap text with
      | '#' :: rest => skipLines fuel (rest.dropWhile isOpen)
      | text =>
          match afterBreak? text with
          | some rest => skipLines fuel rest
          | none => text

mutual

/-- Reads a value.  `depth` counts the brackets and braces that may still be
opened. -/
def readValue (fuel depth : Nat) (text : List Char) : Except Fault (Datum × List Char) :=
  match fuel with
  | 0 => .error .endOfText
  | fuel + 1 =>
      match text with
      | '[' :: rest =>
          match depth with
          | 0 => .error .tooDeep
          | depth + 1 => readItems fuel depth [] rest
      | '\x7b' :: rest =>
          match depth with
          | 0 => .error .tooDeep
          | depth + 1 =>
              match skipGap rest with
              | '\x7d' :: rest => .ok (.mapping [], rest)
              | rest => readFields fuel depth [] rest
      | '"' :: _ => textDatum fuel text
      | '\'' :: _ => textDatum fuel text
      | text => readWord text
where
  /-- Reads a text in quotes as a datum. -/
  textDatum (fuel : Nat) (text : List Char) : Except Fault (Datum × List Char) :=
    (readText fuel text).map fun (value, rest) =>
      (.scalar (some value) (some (.string value)), rest)

/-- Reads the items of an array up to its closing bracket. -/
def readItems (fuel depth : Nat) (taken : List Datum) (text : List Char) :
    Except Fault (Datum × List Char) :=
  match fuel with
  | 0 => .error .endOfText
  | fuel + 1 =>
      match skipLines fuel text with
      | ']' :: rest => .ok (.sequence taken.reverse, rest)
      | text => do
          let (item, rest) ← readValue fuel depth text
          match skipLines fuel rest with
          | ',' :: rest => readItems fuel depth (item :: taken) rest
          | ']' :: rest => .ok (.sequence (item :: taken).reverse, rest)
          | rest => refuse rest

/-- Reads the fields of a table in braces up to its closing brace. -/
def readFields (fuel depth : Nat) (taken : Entries) (text : List Char) :
    Except Fault (Datum × List Char) :=
  match fuel with
  | 0 => .error .endOfText
  | fuel + 1 => do
      let (key, rest) ← readKey maxDepth text
      match rest with
      | '=' :: rest =>
          let (value, rest) ← readValue fuel depth (skipGap rest)
          let taken ← taken.assign value key
          match skipGap rest with
          | ',' :: rest => readFields fuel depth taken rest
          | '\x7d' :: rest => .ok ((Entry.table .header taken).datum, rest)
          | rest => refuse rest
      | rest => refuse rest

end

/-- The text after the end of a line, with a comment in front of it or not. -/
def finishLine (text : List Char) : Except Fault (List Char) :=
  let rest := match skipGap text with
    | '#' :: rest => rest.dropWhile isOpen
    | rest => rest
  match rest with
  | [] => .ok []
  | rest =>
      match afterBreak? rest with
      | some rest => .ok rest
      | none => refuse rest

def readHeader (closing : List Char) (text : List Char) :
    Except Fault (List String × List Char) := do
  let (key, rest) ← readKey maxDepth text
  if closing.isPrefixOf rest then .ok (key, ← finishLine (rest.drop closing.length))
  else refuse rest

/-- Reads the lines of a document.  `path` leads to the table opened last, and
`limit` bounds the rounds of one value. -/
def readTables (limit fuel : Nat) (path : List String) (entries : Entries) (text : List Char) :
    Except Fault Entries :=
  match fuel with
  | 0 => .error .endOfText
  | fuel + 1 =>
      match skipLines limit text with
      | [] => .ok entries
      | '[' :: '[' :: rest => do
          let (path, rest) ← readHeader [']', ']'] rest
          readTables limit fuel path (← entries.openItem path) rest
      | '[' :: rest => do
          let (path, rest) ← readHeader [']'] rest
          readTables limit fuel path (← entries.openTable path) rest
      | text => do
          let (key, rest) ← readKey maxDepth text
          match rest with
          | '=' :: rest =>
              let rest := skipGap rest
              let (value, rest) ← readValue limit maxDepth rest
              let entries ← entries.changeAt (fun table => table.assign value key) path
              readTables limit fuel path entries (← finishLine rest)
          | rest => refuse rest

/-- The text without a byte order mark in front. -/
def withoutMark : List Char → List Char
  | '\uFEFF' :: rest => rest
  | text => text

def readDatum (text : String) : Except Fault Datum :=
  let chars := withoutMark text.toList
  let count := chars.length
  (readTables (2 * count + 2) (count + 1) [] [] chars).map fun entries =>
    .mapping (dataOfEntries entries)

end Stencil.Toml
