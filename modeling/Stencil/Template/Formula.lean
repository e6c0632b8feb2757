import Stencil.Template.Syntax
import Stencil.Template.Token

/-!
# Reading expressions

Blanks may stand between the tokens of an expression.  Multiplication binds
tighter than addition, comparison comes next, then `and`, then `or`.  Filters
belong to the sum in front of them.  Expressions inside of an expression are
read by a reader for smaller depth, which every rule takes as an argument.
-/

namespace Stencil.Template

open Reader

/-- The readers for what stands in brackets inside of an expression. -/
structure Inner where
  /-- Conditions that `and` and `or` join. -/
  condition : Reader Expression
  /-- One condition, as it stands in lists. -/
  item : Reader Expression
  /-- A sum. -/
  sum : Reader Operand

/-! ## Operators -/

/-- Groups operands that operators join from left to right; the operators that
bind tightly come first. -/
def grouped {α β : Type} (isTight : β → Bool) (join : β → α → α → α) (first : α)
    (rest : List (β × α)) : α :=
  let finish (outer : Option (α × β)) (term : α) : α :=
    match outer with
    | some (left, operator) => join operator left term
    | none => term
  let (outer, term) := rest.foldl (fun (outer, term) (operator, operand) =>
    if isTight operator then (outer, join operator term operand)
    else (some (finish outer term, operator), operand)) (none, first)
  finish outer term

def readChain {α β : Type} (operator : Reader β) (operand : Reader α) :
    Reader (α × List (β × α)) := do
  let first ← operand
  let rest ← many do
    gap
    let operator ← operator
    gap
    let operand ← operand
    pure (operator, operand)
  pure (first, rest)

def readMathOperator : Reader MathOperator :=
  (do word "+"; pure .plus) <|> (do word "-"; pure .minus) <|> (do word "*"; pure .times) <|>
    (do word "/"; pure .over) <|> (do word "%"; pure .modulo)

/-- Whether an operator of arithmetic binds tightly. -/
def MathOperator.isTight : MathOperator → Bool
  | .plus => false
  | .minus => false
  | _ => true

def readComparison : Reader LogicOperator :=
  (do word "<="; pure .atMost) <|> (do word ">="; pure .atLeast) <|>
    (do word ">"; pure .greater) <|> (do word "<"; pure .less) <|>
    (do word "=="; pure .equal) <|> (do word "!="; pure .unequal)

def readConnective : Reader LogicOperator :=
  (do word "or"; let _ ← one isGap; pure .either) <|>
    (do word "and"; let _ ← one isGap; pure .both)

def readNot : Reader Unit := do
  word "not"
  let _ ← one isGap

/-! ## Calls and lists -/

def separated {α : Type} (item : Reader α) : Reader (List α) := do
  let first ← item
  let rest ← many do
    symbol ","
    gap
    item
  pure (first :: rest)

/-- Items with commas between them; one more comma may follow. -/
def separatedLoosely {α : Type} (item : Reader α) : Reader (List α) := do
  let items ← separated item
  let _ ← perhaps (symbol ",")
  pure items

def readTerm (inner : Inner) (simple : Reader Expression) : Reader Expression :=
  (do
    let negated ← present do
      readNot
      gap
    let expression ← simple
    pure (expression.withNegation negated)) <|>
  (do
    word "("
    gap
    let expression ← inner.condition
    symbol ")"
    pure (expression.withNegation false))

/-- Puts an argument among the ones before it; a later one replaces an earlier
one of the same name. -/
def putArgument (arguments : List (String × Expression)) (argument : String × Expression) :
    List (String × Expression) :=
  match arguments with
  | [] => [argument]
  | first :: rest =>
      if first.1 = argument.1 then argument :: rest else first :: putArgument rest argument

def readArguments (argument : Reader Expression) : Reader (List (String × Expression)) := do
  word "("
  gap
  let arguments ← perhaps (separatedLoosely do
    let name ← readName
    symbol "="
    gap
    let value ← argument
    pure (name, value))
  symbol ")"
  pure ((arguments.getD []).foldl putArgument [])

def readCallWith (argument : Reader Expression) : Reader Call := do
  let name ← readName
  gap
  let arguments ← readArguments argument
  pure (.mk name arguments)

def readFilterWith (argument : Reader Expression) : Reader Call := do
  word "|"
  gap
  readCallWith argument <|> (fun name => .mk name []) <$> readName

def withFilters (argument : Reader Expression) (operand : Reader Operand) : Reader Expression := do
  let operand ← operand
  let filters ← many do
    gap
    readFilterWith argument
  pure (.mk operand false filters)

/-! ## The rules that need each other

A list holds conditions, arguments are conditions or lists, and conditions hold
calls.  All of them see smaller conditions only through the argument `inner`. -/

def readList (inner : Inner) : Reader Operand := do
  word "["
  gap
  let items ← many do
    let item ← inner.item
    symbol ","
    gap
    pure item
  let last ← perhaps inner.item
  symbol "]"
  pure (.list (items ++ last.toList))

/-- Reads an argument: a condition, or a list with filters. -/
def readArgument (inner : Inner) : Reader Expression :=
  inner.condition <|> withFilters inner.condition (readList inner)

def readCall (inner : Inner) : Reader Call :=
  readCallWith (readArgument inner)

def readExpansion (inner : Inner) : Reader Operand := do
  let space ← readName
  symbol "::"
  gap
  let name ← readName
  gap
  let arguments ← readArguments (readArgument inner)
  pure (.expansion space name arguments)

def readCheck (inner : Inner) (negated : Bool) : Reader Operand := do
  let path ← readPath
  symbol "is"
  if negated then symbol "not"
  gap
  let name ← readName
  let arguments ← perhaps do
    symbol "("
    gap
    let arguments ← separated (readArgument inner)
    symbol ")"
    pure arguments
  pure (.check path name (arguments.getD []) negated)

def readValue (inner : Inner) : Reader Operand :=
  Operand.flag <$> readFlag <|> readCheck inner true <|> readCheck inner false <|>
    readExpansion inner <|> Operand.call <$> readCall inner <|> Operand.path <$> readPath <|>
    Operand.float <$> readFloat <|> Operand.whole <$> readWhole

def readSum (inner : Inner) : Reader Operand := do
  let value : Reader Operand :=
    (do
      word "("
      gap
      let sum ← inner.sum
      symbol ")"
      pure sum) <|> readValue inner
  let (first, rest) ← readChain readMathOperator value
  pure (grouped MathOperator.isTight
    (fun operator left right => .math operator (.of left) (.of right)) first rest)

def readFilteredSum (inner : Inner) : Reader Expression :=
  withFilters (readArgument inner) (readSum inner)

/-- Adds a part to the parts of a joined text in front of it; neighbouring texts
become one. -/
def consPart (part : Operand) (rest : List Operand) : List Operand :=
  match part, rest with
  | .text left, .text right :: rest => .text (left ++ right) :: rest
  | part, rest => part :: rest

/-- Reads texts, numbers, variables and calls that tildes join. -/
def readJoined (inner : Inner) : Reader Operand := do
  let part : Reader Operand :=
    Operand.call <$> readCall inner <|> Operand.float <$> readFloat <|>
      Operand.whole <$> readWhole <|> Operand.text <$> readText <|> Operand.path <$> readPath
  let first ← part
  let second ← tildeAnd part
  let others ← many (tildeAnd part)
  pure (.joined ((first :: second :: others).foldr consPart []))
where
  /-- A tilde and a part. -/
  tildeAnd (part : Reader Operand) : Reader Operand := do
    symbol "~"
    gap
    part

/-- Reads a text, or a joined text, with filters. -/
def readFilteredText (inner : Inner) : Reader Expression :=
  withFilters (readArgument inner) (readJoined inner <|> Operand.text <$> readText)

/-- Reads a sum of filtered sums. -/
def readTotal (inner : Inner) : Reader Expression := do
  let (first, rest) ← readChain readMathOperator (readFilteredSum inner)
  pure (grouped MathOperator.isTight
    (fun operator left right => .of (.math operator left right)) first rest)

def readSide (inner : Inner) : Reader Expression :=
  readFilteredText inner <|> readTotal inner

/-- Reads a side, or two with a comparison between them. -/
def readCompared (inner : Inner) : Reader Expression := do
  let left ← readSide inner
  let right ← perhaps do
    gap
    let operator ← readComparison
    gap
    let right ← readSide inner
    pure (operator, right)
  match right with
  | some (operator, right) => pure (.of (.logic operator left right))
  | none => pure left

def readFilteredList (inner : Inner) : Reader Expression :=
  withFilters (readArgument inner) (readList inner)

/-- Reads a question whether something is in a container. -/
def readMembership (inner : Inner) : Reader Expression := do
  let item ← readFilteredText inner <|> readFilteredSum inner
  gap
  let negated ← present readNot
  symbol "in"
  gap
  let container ← readFilteredText inner <|> readFilteredList inner <|>
    (Expression.of ∘ Operand.path) <$> readPath
  pure (.of (.membership item container negated))

/-- Reads a condition without `and` and `or` outside of parentheses. -/
def readCondition (inner : Inner) : Reader Expression :=
  readTerm inner (readMembership inner <|> readCompared inner)

/-- Whether a connective binds tightly. -/
def LogicOperator.isTight : LogicOperator → Bool
  | .either => false
  | _ => true

def readConditions (inner : Inner) : Reader Expression := do
  let (first, rest) ← readChain readConnective (readCondition inner)
  pure (grouped LogicOperator.isTight
    (fun operator left right => .of (.logic operator left right)) first rest)

/-- The readers for expressions that are nested less than a number of levels. -/
def Inner.upTo : Nat → Inner
  | 0 => ⟨failure, failure, failure⟩
  | depth + 1 => {
      condition := fun text => readConditions (upTo depth) text
      item := fun text => readCondition (upTo depth) text
      sum := fun text => readSum (upTo depth) text }

end Stencil.Template
