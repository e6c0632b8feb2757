import Stencil.Template.Library
import Stencil.Text.Pattern
import Stencil.Value.Pointer
import Stencil.Value.Text

/-!
# Scopes of templates

While a template is rendered, loops, macros and included templates open frames
that hold variables of their own.  A variable is looked for from the innermost
frame outward, and last in the context that the whole rendering was given.  The
variables of the caller are hidden from a macro.
-/

namespace Stencil.Template

open Stencil.Text

/-! ## Paths into values -/

/-- The steps of a dotted path without quotes. -/
def plainSteps (path : List Char) : List (List Char) :=
  pieces '.' path

/-- The steps of a path in which quotes may stand around a step: a quote up to
the next quote, or everything up to the next dot. -/
def quotedStepsUpTo : Nat → List Char → List (List Char)
  | 0, _ => []
  | _, [] => []
  | rounds + 1, '.' :: rest => quotedStepsUpTo rounds rest
  | rounds + 1, '"' :: rest =>
      match splitFirst? ['"'] rest with
      | some (step, after) => step :: quotedStepsUpTo rounds after
      | none =>
          let isInside (char : Char) : Bool := char != '.'
          rest.takeWhile isInside :: quotedStepsUpTo rounds (rest.dropWhile isInside)
  | rounds + 1, char :: rest =>
      let isInside (char : Char) : Bool := char != '.'
      let step := char :: rest.takeWhile isInside
      (step.reverse.dropWhile (· = '"')).reverse ::
        quotedStepsUpTo rounds (rest.dropWhile isInside)

def stepKey (step : List Char) : String :=
  String.ofList (replaced ['~', '0'] ['~'] (replaced ['~', '1'] ['/'] step))

def pathKeys (path : String) : List String :=
  let chars := path.toList
  (if chars.contains '"' then quotedStepsUpTo chars.length chars else plainSteps chars).map stepKey

def follow? (path : String) (value : Value) : Option Value :=
  if path.isEmpty then some value else value.descend? (pathKeys path)

/-- The name in front of the first dot, and the path after it. -/
def splitPath (path : String) : String × Option String :=
  match splitFirst? ['.'] path.toList with
  | some (name, rest) => (String.ofList name, some (String.ofList rest))
  | none => (path, none)

def resolve? (fields : Value.Fields) (path : String) : Option Value :=
  match splitPath path with
  | (name, none) => Value.field? fields name
  | (name, some rest) => (Value.field? fields name).bind (follow? rest)

/-! ## Frames -/

/-- What happens after the rest of the body of a loop has been skipped. -/
inductive Course where
  | onward
  | next
  | leave
deriving DecidableEq, Repr

/-- A running loop. -/
structure Iteration where
  /-- The variable for the keys of an object. -/
  key? : Option String
  /-- The variable for the items. -/
  item : String
  /-- How many items are done. -/
  index : Nat
  /-- The current item with its key. -/
  current : String × Value
  /-- The items after the current one. -/
  remaining : List (String × Value)
  course : Course

/-- What opened a frame. -/
inductive Opening where
  | page
  | inclusion
  | loop (iteration : Iteration)
  | expansion (space name : String)

/-- Variables that belong together. -/
structure Frame where
  opening : Opening
  /-- The template that is being rendered. -/
  page : Page
  bindings : Value.Fields

namespace Iteration

/-- A variable of the loop itself. -/
def special? (iteration : Iteration) (path : String) : Option Value :=
  match path with
  | "loop.index" => some (.whole (iteration.index + 1))
  | "loop.index0" => some (.whole iteration.index)
  | "loop.first" => some (.bool (iteration.index == 0))
  | "loop.last" => some (.bool iteration.remaining.isEmpty)
  | _ => none

def find? (iteration : Iteration) (path : String) : Option Value :=
  match iteration.special? path with
  | some value => some value
  | none =>
      match splitPath path with
      | (name, none) =>
          if name = iteration.item then some iteration.current.2
          else if some name = iteration.key? then some (.string iteration.current.1)
          else none
      | (name, some rest) =>
          if name = iteration.item then follow? rest iteration.current.2 else none

/-- The loop at its next item. -/
def advance? (iteration : Iteration) : Option Iteration :=
  match iteration.remaining with
  | [] => none
  | next :: others =>
      some { iteration with
        index := iteration.index + 1, current := next, remaining := others, course := .onward }

def bindings (iteration : Iteration) : Value.Fields :=
  (iteration.item, iteration.current.2) ::
    (iteration.key?.map fun key => (key, Value.string iteration.current.1)).toList

end Iteration

namespace Frame

def iteration? (frame : Frame) : Option Iteration :=
  match frame.opening with
  | .loop iteration => some iteration
  | _ => none

/-- The value of a path in a frame: variables that were set come before those of
the loop. -/
def find? (frame : Frame) (path : String) : Option Value :=
  match resolve? frame.bindings path with
  | some value => some value
  | none => frame.iteration?.bind fun iteration => iteration.find? path

def isClosed (frame : Frame) : Bool :=
  match frame.opening with
  | .page => true
  | .expansion _ _ => true
  | _ => false

def set (frame : Frame) (name : String) (value : Value) : Frame :=
  { frame with bindings := Value.put name value frame.bindings }

end Frame

/-- The frames that are open: the innermost one and those around it. -/
structure Frames where
  top : Frame
  outer : List Frame

namespace Frames

def findIn? (path : String) : List Frame → Option Value
  | [] => none
  | frame :: rest =>
      match frame.find? path with
      | some value => some value
      | none => if frame.isClosed then none else findIn? path rest

def lookup? (frames : Frames) (context : Value.Fields) (path : String) : Option Value :=
  match findIn? path (frames.top :: frames.outer) with
  | some value => some value
  | none => resolve? context path

def push (frames : Frames) (frame : Frame) : Frames :=
  ⟨frame, frames.top :: frames.outer⟩

/-- Closes the innermost frame; the last one stays open. -/
def pop (frames : Frames) : Frames :=
  match frames.outer with
  | [] => frames
  | frame :: rest => ⟨frame, rest⟩

def set (frames : Frames) (name : String) (value : Value) : Frames :=
  { frames with top := frames.top.set name value }

/-- Sets a variable in the innermost of some frames that is no loop. -/
def setOutsideIn (name : String) (value : Value) : List Frame → List Frame
  | [] => []
  | frame :: rest =>
      if frame.iteration?.isSome then frame :: setOutsideIn name value rest
      else frame.set name value :: rest

def setOutside (frames : Frames) (name : String) (value : Value) : Frames :=
  match frames.top.iteration? with
  | some _ => { frames with outer := setOutsideIn name value frames.outer }
  | none => frames.set name value

/-- The variables of all frames up to the nearest macro.  Those of outer frames
come last. -/
def visible : List Frame → Value.Fields
  | [] => []
  | frame :: rest =>
      let own := frame.bindings ++ (frame.iteration?.map Iteration.bindings).getD []
      match frame.opening with
      | .expansion _ _ => own
      | _ => own ++ visible rest

/-- Everything that is visible, sorted by name, as JSON text.  Variables of outer
frames hide those of inner ones. -/
def overview (frames : Frames) (context : Value.Fields) : String :=
  let all := frames.top :: frames.outer
  let inMacro := all.any fun frame =>
    match frame.opening with
    | .expansion _ _ => true
    | _ => false
  let merged := (visible all).foldl (fun fields entry => Value.put entry.1 entry.2 fields)
    (if inMacro then [] else context)
  (Value.object (merged.mergeSort fun left right => !(right.1 < left.1))).wide

end Frames

/-! ## Brackets in paths -/

/-- The text up to the bracket that closes an open one, and the text after it;
the number counts the brackets that are open inside. -/
def splitBracket : Nat → List Char → List Char × List Char
  | _, [] => ([], [])
  | 0, ']' :: rest => ([], rest)
  | depth + 1, ']' :: rest =>
      let (inside, after) := splitBracket depth rest
      (']' :: inside, after)
  | depth, '[' :: rest =>
      let (inside, after) := splitBracket (depth + 1) rest
      ('[' :: inside, after)
  | depth, char :: rest =>
      let (inside, after) := splitBracket depth rest
      (char :: inside, after)

/-- Whether a text writes an index: digits, after a plus sign at most. -/
def isIndex (text : List Char) : Bool :=
  let digits := match text with
    | '+' :: rest => rest
    | text => text
  !digits.isEmpty && digits.all Char.isDigit && (String.ofList digits).toNat?.any (· < Nat.pow 2 64)

/-- The variables that stand as indices in the brackets of a path. -/
def indicesUpTo : Nat → List Char → List String
  | 0, _ => []
  | _, [] => []
  | rounds + 1, '[' :: '"' :: rest => indicesUpTo rounds rest
  | rounds + 1, '[' :: '\'' :: rest => indicesUpTo rounds rest
  | rounds + 1, '[' :: rest =>
      let (inside, after) := splitBracket 0 rest
      let others := indicesUpTo rounds after
      if isIndex inside then others else String.ofList inside :: others
  | rounds + 1, _ :: rest => indicesUpTo rounds rest

/-- The variables that stand as indices in the brackets of a path. -/
def indices (path : String) : List String :=
  let chars := path.toList
  indicesUpTo chars.length chars

def indexStep? : Value → Option String
  | .string text => some ("\"" ++ text ++ "\"")
  | .number number => some number.text
  | _ => none

/-- The path with a step in place of an index in brackets. -/
def putIndex (path index step : String) : String :=
  match splitFirst? ("[" ++ index ++ "]").toList path.toList with
  | some (front, after) => String.ofList front ++ "." ++ step ++ String.ofList after
  | none => path ++ "." ++ step

def withoutBrackets (path : String) : String :=
  [("/", "~1"), ("['", ".\""), ("[\"", ".\""), ("[", "."), ("']", "\""), ("\"]", "\""),
    ("]", "")].foldl (fun path (old, new) => replace old new path) path

end Stencil.Template
