import Stencil.Template.Formula

/-!
# Reading templates

What may stand in a body depends on where the body is: macros are defined and
imported outside of other statements, blocks do not stand in loops and macros,
and a loop is left only from inside.
-/

namespace Stencil.Template

open Reader

/-- Where a body is. -/
inductive Region where
  | document
  | block
  | loop
  | definition
  | filtered
deriving DecidableEq, Repr

/-! ## Marks -/

/-- Reads a mark with or without a dash after it, and whether there is one. -/
def readOpening (mark : String) : Reader Bool := do
  word mark
  present (word "-")

/-- Reads a mark with or without a dash in front of it, and whether there is
one. -/
def readClosing (mark : String) : Reader Bool :=
  (do word ("-" ++ mark); pure true) <|> (do word mark; pure false)

/-- What stands between two marks, with blanks around it. -/
def between {α : Type} (opening closing : String) (inside : Reader α) : Reader (Trim × α) := do
  let before ← readOpening opening
  gap
  let inside ← inside
  gap
  let after ← readClosing closing
  pure (⟨before, after⟩, inside)

/-- Reads a statement: a word, and what follows it. -/
def readTag {α : Type} (keyword : String) (inside : Reader α) : Reader (Trim × α) :=
  between "\x7b%" "%\x7d" do
    word keyword
    inside

def readWordTag (keyword : String) : Reader Trim :=
  Prod.fst <$> readTag keyword (pure ())

/-- Reads the end of a statement, which may repeat its name. -/
def readEndTag (keyword : String) : Reader Trim :=
  Prod.fst <$> readTag keyword do
    gap
    let _ ← perhaps readName
    pure ()

/-! ## Statements without a body -/

/-- Splits a text before the first of the marks that open something. -/
def splitPlain : List Char → List Char × List Char
  | '{' :: '{' :: rest => ([], '{' :: '{' :: rest)
  | '{' :: '%' :: rest => ([], '{' :: '%' :: rest)
  | '{' :: '#' :: rest => ([], '{' :: '#' :: rest)
  | char :: rest =>
      let (plain, rest) := splitPlain rest
      (char :: plain, rest)
  | [] => ([], [])

def readPlain : Reader Node := fun text =>
  match splitPlain text with
  | ([], _) => none
  | (plain, rest) => some (.text (String.ofList plain), rest)

/-- Splits a text before the first place where a reader succeeds. -/
def splitBefore {α : Type} (stop : Reader α) (text : List Char) : List Char × List Char :=
  match text with
  | [] => ([], [])
  | char :: rest =>
      if (stop text).isSome then ([], text)
      else
        let (front, rest) := splitBefore stop rest
        (char :: front, rest)

def readComment : Reader Node := do
  let before ← readOpening "\x7b#"
  let _ ← fun text => some (splitBefore (readClosing "#\x7d") text)
  let after ← readClosing "#\x7d"
  pure (.comment ⟨before, after⟩)

def readRaw : Reader Node := do
  let opening ← readWordTag "raw"
  let inside ← fun text => some (splitBefore (readWordTag "endraw") text)
  let closing ← readWordTag "endraw"
  pure (.raw opening (String.ofList inside) closing)

def readOutput (inner : Inner) : Reader Node := do
  let (trim, expression) ← between "\x7b\x7b" "\x7d\x7d"
    (inner.condition <|> readFilteredList inner)
  pure (.output trim expression)

def readParentBlock : Reader Node := do
  let _ ← between "\x7b\x7b" "\x7d\x7d" (word "super()")
  pure .parentBlock

def readAssignment (inner : Inner) (keyword : String) (outside : Bool) : Reader Node := do
  let (trim, name, value) ← readTag keyword do
    space
    let name ← readName
    symbol "="
    gap
    let value ← inner.condition <|> readFilteredList inner
    pure (name, value)
  pure (.assign trim name value outside)

/-- Reads the names of templates: one text, or a list of texts. -/
def readSources : Reader (List String) :=
  List.singleton <$> readText <|> do
    word "["
    gap
    let names ← many do
      let name ← readText
      symbol ","
      gap
      pure name
    let last ← perhaps readText
    symbol "]"
    pure (names ++ last.toList)

def readInclusion : Reader Node := do
  let (trim, names, optional) ← readTag "include" do
    space
    let names ← readSources
    gap
    let optional ← present (word "ignore missing")
    pure (names, optional)
  pure (.inclusion trim names optional)

def readImport : Reader Node := do
  let (trim, source, name) ← readTag "import" do
    space
    let source ← readText
    space
    word "as"
    space
    let name ← readName
    pure (source, name)
  pure (.importing trim source name)

def readExtension : Reader Node := do
  let (trim, parent) ← readTag "extends" do
    space
    readText
  pure (.extension trim parent)

/-! ## Statements with a body -/

abbrev Bodies := Region → Reader (List Node)

/-- Reads a section whose text goes through a filter. -/
def readFiltered (inner : Inner) (bodies : Bodies) : Reader Node := do
  let (opening, filter) ← readTag "filter" do
    space
    readCall inner <|> (fun name => .mk name []) <$> readName
  let body ← bodies .filtered
  let closing ← readWordTag "endfilter"
  pure (.filtered opening filter body closing)

def readBlock (bodies : Bodies) : Reader Node := do
  let (opening, name) ← readTag "block" do
    space
    readName
  let body ← bodies .block
  let closing ← readEndTag "endblock"
  pure (.block opening name body closing)

/-- Reads the value that a parameter has when its argument is left out. -/
def readDefault : Reader Expression :=
  Expression.of <$> (Operand.flag <$> readFlag <|> Operand.text <$> readText <|>
    Operand.float <$> readFloat <|> Operand.whole <$> readWhole)

def readParameter : Reader (String × Option Expression) :=
  (do
    let name ← readName
    symbol "="
    gap
    let value ← readDefault
    pure (name, some value)) <|> (fun name => (name, none)) <$> readName

/-- Puts a parameter among the ones before it; a later one replaces an earlier
one of the same name. -/
def putParameter (parameters : List (String × Option Expression))
    (parameter : String × Option Expression) : List (String × Option Expression) :=
  match parameters with
  | [] => [parameter]
  | first :: rest =>
      if first.1 = parameter.1 then parameter :: rest else first :: putParameter rest parameter

def readDefinition (bodies : Bodies) : Reader Node := do
  let (opening, name, parameters) ← readTag "macro" do
    space
    let name ← readName
    symbol "("
    gap
    let parameters ← perhaps (separatedLoosely readParameter)
    symbol ")"
    pure (name, (parameters.getD []).foldl putParameter [])
  let body ← bodies .definition
  let closing ← readEndTag "endmacro"
  pure (.definition opening name parameters body closing)

def readLoop (inner : Inner) (bodies : Bodies) : Reader Node := do
  let (opening, first, second, container) ← readTag "for" do
    space
    let first ← readName
    let second ← perhaps do
      word ","
      gap
      readName
    space
    word "in"
    space
    let container ← readFilteredSum inner <|> readFilteredList inner
    pure (first, second, container)
  let body ← bodies .loop
  let otherwise ← perhaps do
    let _ ← readWordTag "else"
    bodies .loop
  let closing ← readWordTag "endfor"
  match second with
  | some item => pure (.loop opening (some first) item container body otherwise closing)
  | none => pure (.loop opening none first container body otherwise closing)

/-- Reads a branch: its condition and its body. -/
def readBranch (inner : Inner) (body : Reader (List Node)) (keyword : String) :
    Reader (Trim × Expression × List Node) := do
  let (trim, condition) ← readTag keyword do
    space
    inner.condition
  let body ← body
  pure (trim, condition, body)

def readBranches (inner : Inner) (body : Reader (List Node)) : Reader Node := do
  let first ← readBranch inner body "if"
  let others ← many (readBranch inner body "elif")
  let otherwise ← perhaps do
    let trim ← readWordTag "else"
    let body ← body
    pure (trim, body)
  let closing ← readWordTag "endif"
  pure (.branches (first :: others) otherwise closing)

def readOfRegion (bodies : Bodies) : Region → Reader Node
  | .document => readImport <|> readDefinition bodies <|> readBlock bodies
  | .block => readParentBlock <|> readBlock bodies
  | .loop => Node.leave <$> readWordTag "break" <|> Node.next <$> readWordTag "continue"
  | .definition => failure
  | .filtered => readParentBlock <|> readBlock bodies

def readNodeWith (inner : Inner) (bodies : Bodies) (region : Region) : Reader Node :=
  readPlain <|> readComment <|> readRaw <|> readOfRegion bodies region <|> readOutput inner <|>
    readAssignment inner "set" false <|> readAssignment inner "set_global" true <|>
    readInclusion <|> readFiltered inner bodies <|> readLoop inner bodies <|>
    readBranches inner (bodies region)

/-- Reads a part of a template whose bodies are nested less than a number of
levels. -/
def readNode (inner : Inner) : Nat → Region → Reader Node
  | 0, _ => failure
  | depth + 1, region => fun text =>
      readNodeWith inner (fun region => many (readNode inner depth region)) region text

/-- Reads a template: comments, the name of the parent, and everything else. -/
def readDocument (inner : Inner) (depth : Nat) : Reader (List Node) := do
  let comments ← many readComment
  let parent ← perhaps readExtension
  let nodes ← many (readNode inner depth .document)
  finish
  pure (comments ++ parent.toList ++ nodes)

/-- The parts of a template as written, absent when the text is no template. -/
def parse? (text : String) : Option (List Node) :=
  let chars := text.toList
  let depth := chars.length + 1
  (readDocument (Inner.upTo depth) depth chars).map Prod.fst

end Stencil.Template
