import Stencil.Yaml.Cursor
import Stencil.Value.Json

/-!
# Texts of YAML scalars

Plain and quoted scalars may run over several lines: one line end between words
becomes a blank, further line ends are kept.  Block scalars keep their lines
below an indentation; the folded kind joins lines as plain scalars do.
-/

namespace Stencil.Yaml

/-- The blanks between two words of a scalar. -/
structure Gap where
  /-- Blanks within a line. -/
  spaces : List Char
  /-- The first line end. -/
  first : List Char
  /-- The line ends after the first. -/
  later : List Char
  /-- A line has ended. -/
  broken : Bool

namespace Gap

/-- Nothing between two words. -/
def none : Gap := ⟨[], [], [], false⟩

/-- What stands between two words in the text of the scalar. -/
def folded (gap : Gap) : List Char :=
  if gap.broken then
    if gap.first = ['\n'] then (if gap.later.isEmpty then [' '] else gap.later)
    else gap.first ++ gap.later
  else gap.spaces

end Gap

/-- Reads the blanks and line ends between two words.  Tabs in front of the
given column are refused. -/
def readGap (fuel : Nat) (column : Option Nat) (gap : Gap) (cursor : Cursor) :
    Except Fault (Gap × Cursor) :=
  match fuel with
  | 0 => .error .tooLong
  | fuel + 1 =>
      match cursor.peek with
      | .none => .ok (gap, cursor)
      | some char =>
          if isSpaceOrTab char then
            if gap.broken then
              if char == '\t' && column.any (cursor.column < ·) then .error .badIndentation
              else readGap fuel column gap (cursor.skip 1)
            else readGap fuel column { gap with spaces := gap.spaces ++ [char] } (cursor.skip 1)
          else if isBreak char then
            let (text, cursor) := cursor.takeBreak
            if gap.broken then readGap fuel column { gap with later := gap.later ++ text } cursor
            else readGap fuel column { gap with spaces := [], first := text, broken := true } cursor
          else .ok (gap, cursor)

/-! ## Plain scalars -/

/-- The characters that end a flow collection or an item of it. -/
def isFlowIndicator (char : Char) : Bool :=
  char = ',' || char = '[' || char = ']' || char = '\x7b' || char = '\x7d'

def readPlainWord (fuel : Nat) (flow : Bool) (taken : List Char) (cursor : Cursor) :
    Except Fault (List Char × Cursor) :=
  match fuel with
  | 0 => .error .tooLong
  | fuel + 1 =>
      match cursor.rest with
      | [] => .ok (taken, cursor)
      | char :: _ =>
          if cursor.blankAt 0 then .ok (taken, cursor)
          else if flow && char == ':' &&
              (match cursor.peekAt 1 with
                | some next => isFlowIndicator next || next == '?'
                | none => false) then
            .error (.misplaced ':')
          else if (char == ':' && cursor.blankAt 1) || (flow && isFlowIndicator char) then
            .ok (taken, cursor)
          else readPlainWord fuel flow (char :: taken) (cursor.skip 1)

/-- Reads the rest of a plain scalar, in reverse, and whether it ends after a
line end. -/
def readPlainFrom (fuel : Nat) (flow : Bool) (column : Nat) (gap : Gap) (taken : List Char)
    (cursor : Cursor) : Except Fault (List Char × Bool × Cursor) :=
  match fuel with
  | 0 => .error .tooLong
  | fuel + 1 => do
      if cursor.atDocumentMarker || cursor.sees '#' then .ok (taken, gap.broken, cursor)
      else
        let (word, after) ← readPlainWord fuel flow [] cursor
        let broken := gap.broken && word.isEmpty
        let taken := if word.isEmpty then taken else word ++ (gap.folded.reverse ++ taken)
        if after.rest.isEmpty || !after.blankAt 0 then .ok (taken, broken, after)
        else
          let (gap, next) ← readGap fuel (some column) .none after
          if !flow && next.column < column then .ok (taken, gap.broken, next)
          else readPlainFrom fuel flow column gap taken next

/-! ## Quoted scalars -/

def escape? : Char → Option Char
  | '0' => some '\x00'
  | 'a' => some '\x07'
  | 'b' => some '\x08'
  | 't' => some '\t'
  | '\t' => some '\t'
  | 'n' => some '\n'
  | 'v' => some '\x0b'
  | 'f' => some '\x0c'
  | 'r' => some '\r'
  | 'e' => some '\x1b'
  | ' ' => some ' '
  | '"' => some '"'
  | '/' => some '/'
  | '\\' => some '\\'
  | 'N' => some '\u0085'
  | '_' => some '\u00a0'
  | 'L' => some '\u2028'
  | 'P' => some '\u2029'
  | _ => none

/-- The number of digits after the letter of a numeric escape. -/
def escapeWidth? : Char → Option Nat
  | 'x' => some 2
  | 'u' => some 4
  | 'U' => some 8
  | _ => none

def hexNumber? (digits : List Char) : Option Nat :=
  digits.foldlM (fun value digit => (Json.hexDigit? digit).map fun digit => value * 16 + digit) 0

def readEscape (cursor : Cursor) : Except Fault (Char × Cursor) :=
  match cursor.peek with
  | none => .error .badEscape
  | some letter =>
      match escape? letter with
      | some char => .ok (char, cursor.skip 1)
      | none =>
          match escapeWidth? letter with
          | none => .error .badEscape
          | some width =>
              let digits := (cursor.rest.drop 1).take width
              match hexNumber? digits with
              | some code =>
                  if digits.length = width ∧ code.isValidChar then
                    .ok (Char.ofNat code, cursor.skip (1 + width))
                  else .error .badEscape
              | none => .error .badEscape

/-- Reads a word of a quoted scalar, in reverse, and whether it ends in an
escaped line end. -/
def readQuotedWord (fuel : Nat) (single : Bool) (taken : List Char) (cursor : Cursor) :
    Except Fault (List Char × Bool × Cursor) :=
  match fuel with
  | 0 => .error .tooLong
  | fuel + 1 =>
      match cursor.rest with
      | [] => .ok (taken, false, cursor)
      | char :: rest =>
          if cursor.blankAt 0 then .ok (taken, false, cursor)
          else if single then
            if char = '\'' then
              if rest.head? = some '\'' then
                readQuotedWord fuel single ('\'' :: taken) (cursor.skip 2)
              else .ok (taken, false, cursor)
            else readQuotedWord fuel single (char :: taken) (cursor.skip 1)
          else if char = '"' then .ok (taken, false, cursor)
          else if char = '\\' then
            match rest with
            | [] => .error .badEscape
            | next :: _ =>
                if isBreak next then .ok (taken, true, (cursor.skip 1).skipBreak)
                else
                  match readEscape (cursor.skip 1) with
                  | .error fault => .error fault
                  | .ok (char, cursor) => readQuotedWord fuel single (char :: taken) cursor
          else readQuotedWord fuel single (char :: taken) (cursor.skip 1)

/-- Reads the rest of a quoted scalar, in reverse. -/
def readQuotedFrom (fuel : Nat) (single : Bool) (taken : List Char) (cursor : Cursor) :
    Except Fault (List Char × Cursor) :=
  match fuel with
  | 0 => .error .tooLong
  | fuel + 1 => do
      if cursor.atDocumentMarker || cursor.rest.isEmpty then .error .openQuote
      else
        let (word, escaped, cursor) ← readQuotedWord fuel single [] cursor
        let taken := word ++ taken
        if cursor.sees (if single then '\'' else '"') then .ok (taken, cursor.skip 1)
        else
          let (gap, cursor) ← readGap fuel none { Gap.none with broken := escaped } cursor
          readQuotedFrom fuel single (gap.folded.reverse ++ taken) cursor

/-! ## Block scalars -/

/-- What becomes of the line ends at the end of a block scalar. -/
inductive Chomping where
  | strip
  | clip
  | keep
deriving DecidableEq

def chomping? : Char → Option Chomping
  | '-' => some .strip
  | '+' => some .keep
  | _ => none

/-- Reads the digit and the chomping after the indicator of a block scalar, in
either order. -/
def readBlockHeader (cursor : Cursor) : Except Fault (Chomping × Nat × Cursor) := do
  let takeChomping (cursor : Cursor) : Option Chomping × Cursor :=
    match cursor.peek.bind chomping? with
    | some chomping => (some chomping, cursor.skip 1)
    | none => (none, cursor)
  let takeDigit (cursor : Cursor) : Except Fault (Nat × Cursor) :=
    match cursor.peek with
    | some char =>
        if char = '0' then .error .badScalar
        else if char.isDigit then .ok (char.toNat - '0'.toNat, cursor.skip 1)
        else .ok (0, cursor)
    | none => .ok (0, cursor)
  let (early, cursor) := takeChomping cursor
  let (increment, cursor) ← takeDigit cursor
  let (late, cursor) :=
    if early.isNone && increment ≠ 0 then takeChomping cursor else (none, cursor)
  .ok ((early.or late).getD .clip, increment, cursor)

/-- Reads empty lines and the indentation of the next line.  An indentation of
zero is not known yet; then the deepest one seen is reported. -/
def readIndentation (fuel : Nat) (indentation deepest : Nat) (breaks : List Char)
    (cursor : Cursor) : Except Fault (List Char × Nat × Cursor) :=
  match fuel with
  | 0 => .error .tooLong
  | fuel + 1 =>
      let spaces := (cursor.rest.takeWhile (· == ' ')).length
      let cursor := cursor.skip
        (if indentation = 0 then spaces else min spaces (indentation - cursor.column))
      let deepest := max deepest cursor.column
      if (indentation = 0 ∨ cursor.column < indentation) ∧ cursor.sees '\t' then
        .error .badIndentation
      else if cursor.rest.isEmpty || !cursor.atLineEnd then .ok (breaks, deepest, cursor)
      else
        let (text, cursor) := cursor.takeBreak
        readIndentation fuel indentation deepest (breaks ++ text) cursor

/-- Reads the lines of a block scalar.  `ending` is the end of the line before,
`breaks` are the empty lines after it, and `indented` tells whether the line
before started with a blank. -/
def readBlockLines (fuel : Nat) (literal : Bool) (chomping : Chomping) (indentation : Nat)
    (taken ending breaks : List Char) (indented : Bool) (cursor : Cursor) :
    Except Fault (List Char × Cursor) :=
  match fuel with
  | 0 => .error .tooLong
  | fuel + 1 => do
      if cursor.column == indentation && !cursor.rest.isEmpty then
        let blank := match cursor.peek with
          | some char => isSpaceOrTab char
          | none => false
        let joint :=
          if !literal && ending.head? == some '\n' && !indented && !blank then
            (if breaks.isEmpty then [' '] else [])
          else ending
        let (line, cursor) := cursor.takeWhile fun char => !isBreak char
        let (ending, cursor) := cursor.takeBreak
        let taken' := line.reverse ++ (breaks.reverse ++ (joint.reverse ++ taken))
        let (breaks, _, cursor) ← readIndentation fuel indentation 0 [] cursor
        readBlockLines fuel literal chomping indentation taken' ending breaks blank cursor
      else
        .ok (match chomping with
          | .strip => taken
          | .clip => ending.reverse ++ taken
          | .keep => breaks.reverse ++ (ending.reverse ++ taken), cursor)

/-- Reads a block scalar after its indicator; `indent` is the indentation of the
collection around it, minus one outside of all. -/
def readBlock (fuel : Nat) (literal : Bool) (indent : Int) (cursor : Cursor) :
    Except Fault (List Char × Cursor) := do
  let (chomping, increment, cursor) ← readBlockHeader cursor
  let cursor ← cursor.skipToLineEnd .badScalar
  let known := if increment = 0 then 0 else (max indent 0).toNat + increment
  let (breaks, deepest, cursor) ← readIndentation fuel known 0 [] cursor
  let indentation := if known = 0 then max deepest (max (indent + 1).toNat 1) else known
  readBlockLines fuel literal chomping indentation [] [] breaks false cursor

end Stencil.Yaml
