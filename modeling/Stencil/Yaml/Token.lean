import Stencil.Yaml.Scalar

/-!
# YAML tokens

Scanning turns indentation into tokens that open and close collections.  A key
is recognised only by the colon after it, so the scanner remembers where a key
may have started and puts the tokens for it there afterwards.
-/

namespace Stencil.Yaml

inductive Token where
  | versionDirective (major minor : Nat)
  | tagDirective (handle expansion : String)
  | documentStart
  | documentEnd
  | blockSequenceStart
  | blockMappingStart
  | blockEnd
  | flowSequenceStart
  | flowSequenceEnd
  | flowMappingStart
  | flowMappingEnd
  | blockEntry
  | flowEntry
  | key
  | value
  | alias (name : String)
  | anchor (name : String)
  | tag (handle suffix : String)
  | scalar (text : String) (plain : Bool)
  | streamEnd
deriving DecidableEq, Repr, Inhabited

/-- A place where a key without indicator may have started. -/
structure KeyStart where
  /-- The number of tokens before it. -/
  token : Nat
  /-- In its column nothing but a key may stand. -/
  required : Bool
  cursor : Cursor

/-- The state of the scanner. -/
structure Scanner where
  cursor : Cursor
  tokens : Array Token
  /-- The column of the innermost block collection, minus one outside of all. -/
  indent : Int
  /-- The columns of the block collections around it. -/
  outer : List Int
  /-- A key may start here. -/
  keyAllowed : Bool
  /-- The possible key of the innermost flow level, or of the block level. -/
  keyStart : Option KeyStart
  /-- The possible keys of the levels around; one for each open bracket. -/
  outerKeys : List (Option KeyStart)
  finished : Bool
  /-- More than there are characters in the text; bounds the rounds of every
  loop. -/
  limit : Nat

namespace Scanner

def start (text : List Char) : Scanner :=
  ⟨Cursor.start text, #[], -1, [], true, none, [], false, text.length + 2⟩

/-- Whether the place is inside brackets. -/
def inFlow (scanner : Scanner) : Bool :=
  !scanner.outerKeys.isEmpty

def emit (scanner : Scanner) (token : Token) : Scanner :=
  { scanner with tokens := scanner.tokens.push token }

/-- Adds a token and moves past a number of characters. -/
def emitOver (scanner : Scanner) (token : Token) (count : Nat) : Scanner :=
  { scanner.emit token with cursor := scanner.cursor.skip count }

/-- Forgets a possible key; one that had to be a key is missed. -/
def dropKey (scanner : Scanner) : Except Fault Scanner :=
  match scanner.keyStart with
  | some key =>
      if key.required then .error .missingColon else .ok { scanner with keyStart := none }
  | none => .ok scanner

/-- Remembers that a key may start here. -/
def saveKey (scanner : Scanner) : Except Fault Scanner :=
  if scanner.keyAllowed then do
    let required := !scanner.inFlow && scanner.indent == (scanner.cursor.column : Int)
    let scanner ← scanner.dropKey
    .ok { scanner with keyStart := some ⟨scanner.tokens.size, required, scanner.cursor⟩ }
  else .ok scanner

/-- Whether a key that started there is still short enough and on its line. -/
def keyIsFresh (scanner : Scanner) (key : KeyStart) : Bool :=
  key.cursor.line == scanner.cursor.line && scanner.cursor.index ≤ key.cursor.index + 1024

/-- A possible key that is still fresh; a required one that is stale is missed. -/
def freshKey (scanner : Scanner) : Option KeyStart → Except Fault (Option KeyStart)
  | none => .ok none
  | some key =>
      if scanner.keyIsFresh key then .ok (some key)
      else if key.required then .error .missingColon
      else .ok none

/-- Forgets the possible keys that are no longer fresh. -/
def dropStaleKeys (scanner : Scanner) : Except Fault Scanner := do
  let outerKeys ← scanner.outerKeys.mapM scanner.freshKey
  let keyStart ← scanner.freshKey scanner.keyStart
  .ok { scanner with outerKeys := outerKeys, keyStart := keyStart }

/-- Opens a block collection when a column is deeper than the indentation.  Its
token goes to a place among the tokens, or to the end. -/
def openBlock (scanner : Scanner) (column : Nat) (place : Option Nat) (token : Token) : Scanner :=
  if scanner.inFlow || (column : Int) ≤ scanner.indent then scanner
  else
    let tokens := match place with
      | some place => scanner.tokens.insertIdxIfInBounds place token
      | none => scanner.tokens.push token
    { scanner with
      outer := scanner.indent :: scanner.outer, indent := column, tokens := tokens }

def closeBlocks (scanner : Scanner) (column : Int) : Scanner :=
  if scanner.inFlow then scanner else go scanner.outer scanner
where
  /-- Closes collections as long as there is one deeper than the column. -/
  go : List Int → Scanner → Scanner
    | [], scanner => scanner
    | indent :: outer, scanner =>
        if scanner.indent ≤ column then scanner
        else go outer { scanner.emit .blockEnd with indent := indent, outer := outer }

/-- Moves past blanks, comments and line ends. -/
def skipBlanks (fuel : Nat) (scanner : Scanner) : Scanner :=
  match fuel with
  | 0 => scanner
  | fuel + 1 =>
      let cursor := scanner.cursor
      let cursor :=
        if cursor.index == 0 && cursor.sees '\ufeff' then cursor.skip 1 else cursor
      let tabs := scanner.inFlow || !scanner.keyAllowed
      let cursor := cursor.skipWhile fun char => char == ' ' || (tabs && char == '\t')
      let cursor := if cursor.sees '#' then cursor.skipWhile fun char => !isBreak char else cursor
      if cursor.rest.isEmpty || !cursor.atLineEnd then { scanner with cursor := cursor }
      else
        skipBlanks fuel { scanner with
          cursor := cursor.skipBreak, keyAllowed := scanner.keyAllowed || !scanner.inFlow }

/-! ## Directives, anchors and tags -/

private def readDigits (cursor : Cursor) : Except Fault (Nat × Cursor) :=
  let (digits, cursor) := cursor.takeWhile Char.isDigit
  if digits.isEmpty ∨ digits.length > 9 then .error .badDirective
  else .ok (Json.natOfDigits digits, cursor)

/-- Reads the handle of a tag: text between exclamation marks.  Outside of
directives the closing mark may be missing. -/
def readHandle (directive : Bool) (cursor : Cursor) : Except Fault (List Char × Cursor) :=
  if !cursor.sees '!' then .error .badTag
  else
    let (name, cursor) := (cursor.skip 1).takeWhile isNameChar
    if cursor.sees '!' then .ok ('!' :: (name ++ ['!']), cursor.skip 1)
    else if directive ∧ !name.isEmpty then .error .badTag
    else .ok ('!' :: name, cursor)

def isTagChar (wide : Bool) (char : Char) : Bool :=
  isNameChar char || ";/?:@&=+$.!~*'()".toList.contains char ||
    (wide && (char == ',' || char == '[' || char == ']'))

private def readTagBytes (count : Nat) (taken : List UInt8) (cursor : Cursor) :
    Except Fault (List UInt8 × Cursor) :=
  match count with
  | 0 => .ok (taken.reverse, cursor)
  | count + 1 =>
      match cursor.rest with
      | '%' :: high :: low :: _ =>
          match hexNumber? [high, low] with
          | some byte => readTagBytes count (UInt8.ofNat byte :: taken) (cursor.skip 3)
          | none => .error .badTag
      | _ => .error .badTag

/-- The length of the UTF-8 form that starts with a byte. -/
private def encodedLength? (byte : Nat) : Option Nat :=
  if byte < 0x80 then some 1
  else if 0xC0 ≤ byte ∧ byte < 0xE0 then some 2
  else if 0xE0 ≤ byte ∧ byte < 0xF0 then some 3
  else if 0xF0 ≤ byte ∧ byte < 0xF8 then some 4
  else none

private def readTagEscape (cursor : Cursor) : Except Fault (List Char × Cursor) :=
  match cursor.rest with
  | '%' :: high :: low :: _ =>
      match (hexNumber? [high, low]).bind encodedLength? with
      | some length => do
          let (bytes, cursor) ← readTagBytes length [] cursor
          match String.fromUTF8? ⟨bytes.toArray⟩ with
          | some text => .ok (text.toList, cursor)
          | none => .error .badTag
      | none => .error .badTag
  | _ => .error .badTag

/-- Reads the characters of a tag after the ones already taken. -/
def readTagText (fuel : Nat) (wide : Bool) (taken : List Char) (cursor : Cursor) :
    Except Fault (List Char × Cursor) :=
  match fuel with
  | 0 => .error .tooLong
  | fuel + 1 =>
      match cursor.rest with
      | [] => .ok (taken, cursor)
      | char :: _ =>
          if char = '%' then
            match readTagEscape cursor with
            | .error fault => .error fault
            | .ok (text, cursor) => readTagText fuel wide (taken ++ text) cursor
          else if isTagChar wide char then
            readTagText fuel wide (taken ++ [char]) (cursor.skip 1)
          else .ok (taken, cursor)

/-- Reads the characters of a tag; there has to be at least one, together with
the ones of the head. -/
def readTagSuffix (wide : Bool) (head : List Char) (cursor : Cursor) :
    Except Fault (List Char × Cursor) := do
  let (text, cursor) ← readTagText (cursor.rest.length + 1) wide (head.drop 1) cursor
  if text.isEmpty ∧ head.isEmpty then .error .badTag else .ok (text, cursor)

def readTag (inFlow : Bool) (cursor : Cursor) : Except Fault (Token × Cursor) := do
  let (handle, suffix, cursor) ←
    if cursor.peekAt 1 == some '<' then do
      let (suffix, cursor) ← readTagSuffix true [] (cursor.skip 2)
      if cursor.sees '>' then pure ([], suffix, cursor.skip 1) else .error .badTag
    else do
      let (handle, cursor) ← readHandle false cursor
      if handle.length > 1 ∧ handle.getLast? = some '!' then
        let (suffix, cursor) ← readTagSuffix false [] cursor
        pure (handle, suffix, cursor)
      else
        let (suffix, cursor) ← readTagSuffix false handle cursor
        if suffix.isEmpty then pure ([], ['!'], cursor) else pure (['!'], suffix, cursor)
  if (inFlow && cursor.sees ',') || cursor.blankAt 0 then
    .ok (.tag (String.ofList handle) (String.ofList suffix), cursor)
  else .error .badTag

/-- Reads the name of an anchor or alias after its indicator. -/
def readAnchorName (cursor : Cursor) : Except Fault (String × Cursor) :=
  let (name, cursor) := cursor.takeWhile isNameChar
  let ended := cursor.blankAt 0 || (match cursor.peek with
    | some char => "?:,]\x7d%@`".toList.contains char
    | none => true)
  if name.isEmpty || !ended then .error .badAnchor else .ok (String.ofList name, cursor)

def readDirective (cursor : Cursor) : Except Fault (Token × Cursor) := do
  let (name, cursor) := cursor.takeWhile isNameChar
  if name.isEmpty || !cursor.blankAt 0 then .error .badDirective
  else
    let (token, cursor) ←
      if name = "YAML".toList then do
        let (major, cursor) ← readDigits (cursor.skipWhile isSpaceOrTab)
        if cursor.sees '.' then
          let (minor, cursor) ← readDigits (cursor.skip 1)
          pure (Token.versionDirective major minor, cursor)
        else .error .badDirective
      else if name = "TAG".toList then do
        let (handle, cursor) ← readHandle true (cursor.skipWhile isSpaceOrTab)
        if !cursor.blankAt 0 || cursor.rest.isEmpty then .error .badDirective
        else
          let (expansion, cursor) ← readTagSuffix true [] (cursor.skipWhile isSpaceOrTab)
          if cursor.blankAt 0 then
            pure (Token.tagDirective (String.ofList handle) (String.ofList expansion), cursor)
          else .error .badDirective
      else .error .badDirective
    .ok (token, ← cursor.skipToLineEnd .badDirective)

/-! ## Tokens by their first character -/

/-- A dash, three dashes or three dots end all block collections. -/
private def fetchMarker (scanner : Scanner) (token : Token) : Except Fault Scanner := do
  let scanner ← (scanner.closeBlocks (-1)).dropKey
  .ok { scanner.emitOver token 3 with keyAllowed := false }

/-- A percent sign at the start of a line. -/
private def fetchDirective (scanner : Scanner) : Except Fault Scanner := do
  let scanner ← (scanner.closeBlocks (-1)).dropKey
  let (token, cursor) ← readDirective (scanner.cursor.skip 1)
  .ok { scanner.emit token with cursor := cursor, keyAllowed := false }

private def fetchFlowStart (scanner : Scanner) (token : Token) : Except Fault Scanner := do
  let scanner ← scanner.saveKey
  .ok { scanner.emitOver token 1 with
    outerKeys := scanner.keyStart :: scanner.outerKeys, keyStart := none, keyAllowed := true }

private def fetchFlowEnd (scanner : Scanner) (token : Token) : Except Fault Scanner := do
  let scanner ← scanner.dropKey
  let scanner := match scanner.outerKeys with
    | keyStart :: outerKeys => { scanner with keyStart := keyStart, outerKeys := outerKeys }
    | [] => scanner
  .ok { scanner.emitOver token 1 with keyAllowed := false }

private def fetchFlowEntry (scanner : Scanner) : Except Fault Scanner := do
  let scanner ← scanner.dropKey
  .ok { scanner.emitOver .flowEntry 1 with keyAllowed := true }

private def fetchBlockEntry (scanner : Scanner) : Except Fault Scanner := do
  if !scanner.inFlow && !scanner.keyAllowed then .error (.misplaced '-')
  else
    let scanner ← (scanner.openBlock scanner.cursor.column none .blockSequenceStart).dropKey
    .ok { scanner.emitOver .blockEntry 1 with keyAllowed := true }

private def fetchKey (scanner : Scanner) : Except Fault Scanner := do
  if !scanner.inFlow && !scanner.keyAllowed then .error (.misplaced '?')
  else
    let scanner ← (scanner.openBlock scanner.cursor.column none .blockMappingStart).dropKey
    .ok { scanner.emitOver .key 1 with keyAllowed := !scanner.inFlow }

/-- A colon before a value.  The key before it, if one was possible, gets its
token now. -/
private def fetchValue (scanner : Scanner) : Except Fault Scanner := do
  match scanner.keyStart with
  | some key =>
      let scanner := { scanner with
        tokens := scanner.tokens.insertIdxIfInBounds key.token .key, keyStart := none }
      let scanner := scanner.openBlock key.cursor.column (some key.token) .blockMappingStart
      .ok { scanner.emitOver .value 1 with keyAllowed := false }
  | none =>
      if !scanner.inFlow && !scanner.keyAllowed then .error (.misplaced ':')
      else
        let scanner := scanner.openBlock scanner.cursor.column none .blockMappingStart
        .ok { scanner.emitOver .value 1 with keyAllowed := !scanner.inFlow }

private def fetchAnchor (scanner : Scanner) (token : String → Token) : Except Fault Scanner := do
  let scanner ← scanner.saveKey
  let (name, cursor) ← readAnchorName (scanner.cursor.skip 1)
  .ok { scanner.emit (token name) with cursor := cursor, keyAllowed := false }

private def fetchTag (scanner : Scanner) : Except Fault Scanner := do
  let scanner ← scanner.saveKey
  let (token, cursor) ← readTag scanner.inFlow scanner.cursor
  .ok { scanner.emit token with cursor := cursor, keyAllowed := false }

private def fetchBlockScalar (scanner : Scanner) (literal : Bool) : Except Fault Scanner := do
  let scanner ← scanner.dropKey
  let (text, cursor) ← readBlock scanner.limit literal scanner.indent (scanner.cursor.skip 1)
  .ok { scanner.emit (.scalar (String.ofList text.reverse) false) with
    cursor := cursor, keyAllowed := true }

private def fetchQuoted (scanner : Scanner) (single : Bool) : Except Fault Scanner := do
  let scanner ← scanner.saveKey
  let cursor := scanner.cursor.skip 1
  let (text, cursor) ← readQuotedFrom scanner.limit single [] cursor
  .ok { scanner.emit (.scalar (String.ofList text.reverse) false) with
    cursor := cursor, keyAllowed := false }

/-- The first character of a plain scalar. -/
private def fetchPlain (scanner : Scanner) : Except Fault Scanner := do
  let scanner ← scanner.saveKey
  let (text, broken, cursor) ←
    readPlainFrom scanner.limit scanner.inFlow (scanner.indent + 1).toNat
      .none [] scanner.cursor
  .ok { scanner.emit (.scalar (String.ofList text.reverse) true) with
    cursor := cursor, keyAllowed := broken }

/-- The end of the text closes everything. -/
private def fetchEnd (scanner : Scanner) : Except Fault Scanner := do
  let scanner ← (scanner.closeBlocks (-1)).dropKey
  .ok { scanner.emit .streamEnd with keyAllowed := false, finished := true }

/-- The characters with which no plain scalar starts. -/
def isIndicator (char : Char) : Bool :=
  "-?:,[]\x7b\x7d#&*!|>'\"%@`".toList.contains char

def startsPlain (scanner : Scanner) (char : Char) : Bool :=
  let nextIsBlank := match scanner.cursor.peekAt 1 with
    | some next => isSpaceOrTab next
    | none => false
  (!scanner.cursor.blankAt 0 && !isIndicator char) ||
    (char == '-' && !nextIsBlank) ||
    (!scanner.inFlow && (char == '?' || char == ':') && !scanner.cursor.blankAt 1)

/-- Reads the next token. -/
def fetch (scanner : Scanner) : Except Fault Scanner := do
  let scanner := scanner.skipBlanks scanner.limit
  let scanner ← scanner.dropStaleKeys
  let scanner := scanner.closeBlocks scanner.cursor.column
  let cursor := scanner.cursor
  match cursor.peek with
  | none => scanner.fetchEnd
  | some char =>
      let flow := scanner.inFlow
      if cursor.column == 0 && char == '%' then scanner.fetchDirective
      else if cursor.atMarker '-' then scanner.fetchMarker .documentStart
      else if cursor.atMarker '.' then scanner.fetchMarker .documentEnd
      else if char == '[' then scanner.fetchFlowStart .flowSequenceStart
      else if char == '\x7b' then scanner.fetchFlowStart .flowMappingStart
      else if char == ']' then scanner.fetchFlowEnd .flowSequenceEnd
      else if char == '\x7d' then scanner.fetchFlowEnd .flowMappingEnd
      else if char == ',' then scanner.fetchFlowEntry
      else if char == '-' && cursor.blankAt 1 then scanner.fetchBlockEntry
      else if char == '?' && (flow || cursor.blankAt 1) then scanner.fetchKey
      else if char == ':' && (flow || cursor.blankAt 1) then scanner.fetchValue
      else if char == '*' then scanner.fetchAnchor .alias
      else if char == '&' then scanner.fetchAnchor .anchor
      else if char == '!' then scanner.fetchTag
      else if char == '|' && !flow then scanner.fetchBlockScalar true
      else if char == '>' && !flow then scanner.fetchBlockScalar false
      else if char == '\'' then scanner.fetchQuoted true
      else if char == '"' then scanner.fetchQuoted false
      else if scanner.startsPlain char then scanner.fetchPlain
      else .error .badStart

/-- Reads tokens to the end of the text.  Each round takes at least one
character, so the length of the text bounds the rounds. -/
def run (fuel : Nat) (scanner : Scanner) : Except Fault Scanner :=
  match fuel with
  | 0 => .error .tooLong
  | fuel + 1 =>
      match scanner.fetch with
      | .error fault => .error fault
      | .ok scanner => if scanner.finished then .ok scanner else run fuel scanner

end Scanner

def tokensOf (text : String) : Except Fault (List Token) :=
  let chars := text.toList
  if chars.all isPrintable then
    let scanner := Scanner.start chars
    (scanner.run scanner.limit).map fun scanner => scanner.tokens.toList
  else .error .badCharacter

end Stencil.Yaml
