import Stencil.Template.Arithmetic
import Stencil.Template.Check
import Stencil.Template.Function
import Stencil.Template.Library

/-!
# Faults of rendering

A fault has a headline and, when something else went wrong below it, a cause.
Its message is the chain of headlines from the outermost fault to the innermost.
-/

namespace Stencil.Template

/-- Why a template cannot be rendered. -/
inductive Fault where
  /-- Where the cause happened. -/
  | located (place : String) (cause : Fault)
  | noTemplate (name : String)
  /-- The evaluation is nested too deeply. -/
  | tooDeep
  -- Variables
  | noVariable (path page : String)
  | noElement (path page evaluated : String)
  | badIndex (index path : String)
  | noIndex (path : String) (cause : Fault)
  | noDefault
  -- Calls
  | noFilter (name : String)
  | noCheck (name : String)
  | noFunction (name : String)
  | inFilter (name : String) (cause : Fault)
  | inCheck (name : String) (cause : Fault)
  | inFunction (name : String) (cause : Fault)
  | filter (fault : FilterFault)
  | check (fault : CheckFault)
  | function (fault : FunctionFault)
  -- Macros
  | noSpace (space page : String)
  | noMacro (space name page : String)
  | noArgument (macroName parameter : String)
  -- Expressions
  | joinedPath (path : String)
  | joinedCall (name : String)
  | arithmetic (fault : ArithmeticFault) (left right : Expression)
  /-- A fault in an operand of an expression that keeps nothing but its headline. -/
  | headline (cause : Fault)
  | pathNoNumber (path : String)
  | callNoNumber (name : String)
  | expressionNoNumber
  | textNoNumber (text : String)
  | flagNoNumber (flag : Bool)
  | joinedNoNumber (parts : List Operand)
  | checkNoNumber (name : String)
  | operandNoNumber (operand : Operand)
  | comparedToNothing
  | callNoFlag (name : String)
  | inTextNoText (value : Value)
  | inObjectNoText (value : Value)
  | inNoContainer
  -- Statements
  | loopOverOperand (operand : Operand)
  | loopWithKey (container : String)
  | loopWithoutKey (container : String)
  | loopOverOther (container : String)
  | leaveOutside
  | nextOutside
  | extensionInside (parent : String)
  | noParentBlock

namespace Fault

def line : Fault → String
  | located place _ => place
  | noTemplate name => "Template '" ++ name ++ "' not found"
  | tooDeep => "Templates are nested too deeply"
  | noVariable path page =>
      "Variable `" ++ path ++ "` not found in context while rendering '" ++ page ++ "'"
  | noElement path page evaluated =>
      "Variable `" ++ path ++ "` not found in context while rendering '" ++ page ++
        "': the evaluated version was `" ++ evaluated ++ "`. Maybe the index is out of bounds?"
  | badIndex index path =>
      "Only variables evaluating to String or Number can be used as index (`" ++ index ++
        "` of `" ++ path ++ "`)"
  | noIndex path cause => "Variable " ++ path ++ " can not be evaluated because: " ++ cause.line
  | noDefault => "The `default` filter requires a `value` argument."
  | noFilter name => "Filter '" ++ name ++ "' not found"
  | noCheck name => "Test '" ++ name ++ "' not found"
  | noFunction name => "Function '" ++ name ++ "' not found"
  | inFilter name _ => "Filter call '" ++ name ++ "' failed"
  | inCheck name _ => "Test call '" ++ name ++ "' failed"
  | inFunction name _ => "Function call '" ++ name ++ "' failed"
  | filter fault => fault.message
  | check fault => fault.message
  | function fault => fault.message
  | noSpace space page =>
      "Macro namespace `" ++ space ++ "` was not found in template `" ++ page ++
        "`. Have you maybe forgotten to import it, or misspelled it?"
  | noMacro space name page =>
      "Macro `" ++ space ++ "::" ++ name ++ "` not found in template `" ++ page ++ "`"
  | noArgument macroName parameter =>
      "Macro `" ++ macroName ++ "` is missing the argument `" ++ parameter ++ "`"
  | joinedPath path =>
      "Tried to concat a value that is not a string or a number from ident " ++ path
  | joinedCall name =>
      "Tried to concat a value that is not a string or a number from function call " ++ name
  | arithmetic fault left right => fault.message left right
  | headline cause => cause.line
  | pathNoNumber path =>
      "Variable `" ++ path ++ "` was used in a math operation but is not a number"
  | callNoNumber name =>
      "Function `" ++ name ++ "` was used in a math operation but is not returning a number"
  | expressionNoNumber => "Tried to do math with an expression not resulting in a number"
  | textNoNumber text => "Tried to do math with a string: `" ++ text ++ "`"
  | flagNoNumber flag => "Tried to do math with a boolean: `" ++ Dump.flag flag ++ "`"
  | joinedNoNumber parts =>
      "Tried to do math with a string concatenation: " ++
        String.intercalate " ~ " (parts.map Operand.joinedText)
  | checkNoNumber name => "Tried to do math with a test: " ++ name
  | operandNoNumber operand => "Tried to do math with: " ++ operand.dump
  | comparedToNothing => "Comparison to NaN"
  | callNoFlag name =>
      "Function `" ++ name ++ "` was used in a logic expression but is not returning a boolean"
  | inTextNoText value =>
      "Tried to check if " ++ value.dump ++ " is in a string, but it isn't a string"
  | inObjectNoText value =>
      "Tried to check if " ++ value.dump ++ " is in a object, but it isn't a string"
  | inNoContainer => "The `in` operator only supports strings, arrays and objects."
  | loopOverOperand operand =>
      "Forloop containers have to be an ident or a function call (tried to iterate on '" ++
        operand.dump ++ "')"
  | loopWithKey container =>
      "Tried to iterate using key value on variable `" ++ container ++
        "`, but it isn't an object/map"
  | loopWithoutKey container =>
      "Tried to iterate using key value on variable `" ++ container ++
        "`, but it is missing a key"
  | loopOverOther container =>
      "Tried to iterate on a container (`" ++ container ++ "`) that has a unsupported type"
  | leaveOutside => "Attempted `break` while not in `for loop`"
  | nextOutside => "Attempted `continue` while not in `for loop`"
  | extensionInside parent =>
      "Inheritance in included templates is currently not supported: extended `" ++ parent ++ "`"
  | noParentBlock => "Tried to use super() in the top level block"

/-- The headlines from the fault down to its innermost cause. -/
def lines : Fault → List String
  | located place cause => place :: cause.lines
  | inFilter name cause => line (inFilter name cause) :: cause.lines
  | inCheck name cause => line (inCheck name cause) :: cause.lines
  | inFunction name cause => line (inFunction name cause) :: cause.lines
  | fault => [fault.line]

def message (fault : Fault) : String :=
  String.intercalate ": " fault.lines

end Fault

end Stencil.Template
