import Stencil.Template.Filter

/-!
# Functions

A function makes a value from named arguments alone.  Those that ask for the
time, for chance or for the environment are left out.
-/

namespace Stencil.Template

/-- Why a function has no result. -/
inductive FunctionFault where
  | wrongBound (argument shown : String) (value : Value)
  | missingEnd
  | startAfterEnd
  | endless
  | missingMessage
  | wrongMessage (value : Value)
  /-- The message of a template that gives up. -/
  | thrown (message : String)

namespace FunctionFault

def message : FunctionFault → String
  | wrongBound argument shown value =>
      "Function `range` received " ++ argument ++ "=" ++ value.compact ++ " but `" ++ shown ++
        "` can only be a number"
  | missingEnd => "Function `range` was called without a `end` argument"
  | startAfterEnd =>
      "Function `range` was called with a `start` argument greater than the `end` one"
  | endless => "Function `range` was called with a `step_by` argument of zero"
  | missingMessage => "Function `throw` was called without a `message` argument"
  | wrongMessage value =>
      "Function `throw` received message=" ++ value.compact ++
        " but `message` can only be a string"
  | thrown message => message

end FunctionFault

abbrev Function := Arguments → Except FunctionFault Value

def bound? (argument shown : String) (arguments : Arguments) :
    Except FunctionFault (Option Nat) :=
  match Value.field? arguments argument with
  | none => .ok none
  | some (.number (.whole (.ofNat bound))) => .ok (some bound)
  | some value => .error (.wrongBound argument shown value)

/-- Numbers from a start in equal steps to below an end. -/
def steps (start step stop : Nat) : List Nat :=
  (List.range ((stop - start + step - 1) / step)).map fun index => start + index * step

/-- Numbers from `start` in steps of `step_by` to below `end`.  Steps of zero never
get there from below, so they are refused. -/
def rangeFunction : Function := fun arguments => do
  let start := (← bound? "start" "start" arguments).getD 0
  let step := (← bound? "step_by" "step" arguments).getD 1
  match ← bound? "end" "end" arguments with
  | none => .error .missingEnd
  | some stop =>
      if start > stop then .error .startAfterEnd
      else if step = 0 ∧ start < stop then .error .endless
      else .ok (.array ((steps start step stop).map fun (value : Nat) => Value.whole value))

def throwFunction : Function := fun arguments =>
  match Value.field? arguments "message" with
  | some (.string message) => .error (.thrown message)
  | some value => .error (.wrongMessage value)
  | none => .error .missingMessage

def function? (name : String) : Option Function :=
  match name with
  | "range" => some rangeFunction
  | "throw" => some throwFunction
  | _ => none

end Stencil.Template
