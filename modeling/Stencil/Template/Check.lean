import Stencil.Template.Arithmetic
import Stencil.Text.Pattern

/-!
# Checks

A check answers a question about a variable, which need not have a value.  The
check of a text against a regular expression is left out.
-/

namespace Stencil.Template

open Stencil.Text

/-- Why a check has no answer. -/
inductive CheckFault where
  | takesNoArguments (check : String)
  | tooManyArguments (check : String) (given allowed : Nat)
  | undefinedVariable (check : String)
  | notANumber (check : String)
  | parameterNotANumber (check : String)
  | notAText (check : String)
  | parameterNotAText (check : String)
  | noContainer
  | missingParameter
deriving DecidableEq, Repr

namespace CheckFault

def message : CheckFault → String
  | takesNoArguments check =>
      "Tester `" ++ check ++ "` was called with some args but this test doesn't take args"
  | tooManyArguments check given allowed =>
      "Tester `" ++ check ++ "` was called with " ++ toString given ++
        " args, the max number is " ++ toString allowed
  | undefinedVariable check => "Tester `" ++ check ++ "` was called on an undefined variable"
  | notANumber check => "Tester `" ++ check ++ "` was called on a variable that isn't a number"
  | parameterNotANumber check =>
      "Tester `" ++ check ++ "` was called with a parameter that isn't a number"
  | notAText check => "Tester `" ++ check ++ "` was called on a variable that isn't a string"
  | parameterNotAText check =>
      "Tester `" ++ check ++ "` was called with a parameter that isn't a string"
  | noContainer => "Tester `containing` can only be used on string, array or map"
  | missingParameter => "Tester `containing` was called without a parameter"

end CheckFault

abbrev Check := Option Value → List Value → Except CheckFault Bool

/-- Refuses more arguments than a check takes. -/
def allowArguments (check : String) (allowed : Nat) (arguments : List Value) :
    Except CheckFault Unit :=
  if arguments.length ≤ allowed then .ok ()
  else if allowed = 0 then .error (.takesNoArguments check)
  else .error (.tooManyArguments check arguments.length allowed)

def definedValue (check : String) (value? : Option Value) : Except CheckFault Value :=
  match value? with
  | some value => .ok value
  | none => .error (.undefinedVariable check)

def kindCheck (check : String) (test : Value → Bool) : Check := fun value? arguments => do
  allowArguments check 0 arguments
  let value ← definedValue check value?
  .ok (test value)

def definedCheck (check : String) (wanted : Bool) : Check := fun value? arguments => do
  allowArguments check 0 arguments
  .ok (value?.isSome == wanted)

/-- Whether a number leaves a remainder when divided by two. -/
def oddCheck : Check := fun value? arguments => do
  allowArguments "odd" 0 arguments
  match ← definedValue "odd" value? with
  | .number value => .ok (floatRemainder value.toFloat 2 != 0)
  | _ => .error (.notANumber "odd")

/-- Whether a number leaves no remainder when divided by two. -/
def evenCheck : Check := fun value? arguments => do
  allowArguments "even" 0 arguments
  let value ← definedValue "even" value?
  let odd ← oddCheck (some value) []
  .ok (!odd)

/-- Whether a number leaves no remainder when divided by the argument. -/
def divisibleCheck : Check := fun value? arguments => do
  allowArguments "divisibleby" 1 arguments
  match ← definedValue "divisibleby" value? with
  | .number value =>
      match arguments with
      | .number divisor :: _ => .ok (floatRemainder value.toFloat divisor.toFloat == 0)
      | _ => .error (.parameterNotANumber "divisibleby")
  | _ => .error (.notANumber "divisibleby")

def textParameter (check : String) (arguments : List Value) : Except CheckFault String :=
  match arguments with
  | .string text :: _ => .ok text
  | _ => .error (.parameterNotAText check)

def textCheck (check : String) (test : List Char → List Char → Bool) : Check :=
  fun value? arguments => do
    allowArguments check 1 arguments
    match ← definedValue check value? with
    | .string text =>
        let parameter ← textParameter check arguments
        .ok (test parameter.toList text.toList)
    | _ => .error (.notAText check)

/-- Whether a text, an array or an object contains the argument. -/
def containingCheck : Check := fun value? arguments => do
  allowArguments "containing" 1 arguments
  match ← definedValue "containing" value? with
  | .string text =>
      let parameter ← textParameter "containing" arguments
      .ok (occurs parameter.toList text.toList)
  | .array items =>
      match arguments with
      | parameter :: _ => .ok (items.any fun item => item.same parameter)
      | [] => .error .missingParameter
  | .object fields =>
      let parameter ← textParameter "containing" arguments
      .ok (Value.hasField fields parameter)
  | _ => .error .noContainer

def check? (name : String) : Option Check :=
  match name with
  | "defined" => some (definedCheck name true)
  | "undefined" => some (definedCheck name false)
  | "odd" => some oddCheck
  | "even" => some evenCheck
  | "divisibleby" => some divisibleCheck
  | "number" => some (kindCheck name fun value => match value with | .number _ => true | _ => false)
  | "string" => some (kindCheck name fun value => value.string?.isSome)
  | "object" => some (kindCheck name fun value => value.fields?.isSome)
  | "iterable" => some (kindCheck name fun value => value.items?.isSome || value.fields?.isSome)
  | "starting_with" => some (textCheck name List.isPrefixOf)
  | "ending_with" => some (textCheck name List.isSuffixOf)
  | "containing" => some containingCheck
  | _ => none

end Stencil.Template
