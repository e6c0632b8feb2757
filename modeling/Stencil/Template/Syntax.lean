import Stencil.Value.Basic

/-!
# Syntax of templates

A template is a list of nodes: text, outputs, and statements with bodies.
Statements keep on which of their sides blanks are to be removed.
-/

namespace Stencil.Template

/-- The operators of arithmetic. -/
inductive MathOperator where
  | plus
  | minus
  | times
  | over
  | modulo
deriving DecidableEq, Repr

/-- The operators of comparison and logic. -/
inductive LogicOperator where
  | greater
  | atLeast
  | less
  | atMost
  | equal
  | unequal
  | both
  | either
deriving DecidableEq, Repr

mutual

/-- An operand with a negation and filters. -/
inductive Expression where
  | mk (operand : Operand) (negated : Bool) (filters : List Call)

/-- What an expression is about. -/
inductive Operand where
  | text (text : String)
  | whole (value : Int)
  | float (bits : UInt64)
  | flag (flag : Bool)
  /-- A variable: names, indices and brackets as written. -/
  | path (path : String)
  /-- Texts, numbers, variables and calls, joined to one text. -/
  | joined (parts : List Operand)
  | math (operator : MathOperator) (left right : Expression)
  | logic (operator : LogicOperator) (left right : Expression)
  | membership (item container : Expression) (negated : Bool)
  /-- A named test of a variable, which need not be defined. -/
  | check (path name : String) (arguments : List Expression) (negated : Bool)
  | call (call : Call)
  /-- The expansion of a macro. -/
  | expansion (space name : String) (arguments : List (String × Expression))
  | list (items : List Expression)

/-- A function or a filter with its arguments. -/
inductive Call where
  | mk (name : String) (arguments : List (String × Expression))

end

namespace Expression

def operand : Expression → Operand
  | mk operand _ _ => operand

def negated : Expression → Bool
  | mk _ negated _ => negated

def filters : Expression → List Call
  | mk _ _ filters => filters

def of (operand : Operand) : Expression :=
  mk operand false []

def withNegation (negated : Bool) : Expression → Expression
  | mk operand _ filters => mk operand negated filters

end Expression

namespace Call

def name : Call → String
  | mk name _ => name

def arguments : Call → List (String × Expression)
  | mk _ arguments => arguments

end Call

instance : Inhabited Expression := ⟨.of (.flag false)⟩

/-- On which sides of a statement blanks are removed. -/
structure Trim where
  before : Bool
  after : Bool
deriving DecidableEq, Repr, Inhabited

/-- A part of a template. -/
inductive Node where
  | text (text : String)
  | comment (trim : Trim)
  | output (trim : Trim) (expression : Expression)
  /-- Sets a variable here, or outside of all loops. -/
  | assign (trim : Trim) (name : String) (value : Expression) (outside : Bool)
  /-- The first of several templates that exists. -/
  | inclusion (trim : Trim) (names : List String) (optional : Bool)
  | importing (trim : Trim) (source space : String)
  | extension (trim : Trim) (parent : String)
  /-- The text of the same block in the parent template. -/
  | parentBlock
  | leave (trim : Trim)
  | next (trim : Trim)
  | raw (opening : Trim) (text : String) (closing : Trim)
  | filtered (opening : Trim) (filter : Call) (body : List Node) (closing : Trim)
  | block (opening : Trim) (name : String) (body : List Node) (closing : Trim)
  | definition (opening : Trim) (name : String) (parameters : List (String × Option Expression))
      (body : List Node) (closing : Trim)
  /-- A loop over a container; the other body is for a container without items. -/
  | loop (opening : Trim) (key : Option String) (item : String) (container : Expression)
      (body : List Node) (otherwise : Option (List Node)) (closing : Trim)
  /-- The body of the first branch whose condition holds, or the other body. -/
  | branches (branches : List (Trim × Expression × List Node))
      (otherwise : Option (Trim × List Node)) (closing : Trim)

instance : Inhabited Node := ⟨.parentBlock⟩

end Stencil.Template
