import Stencil.Template.Fault
import Stencil.Template.Filter
import Stencil.Template.Scope

/-!
# Evaluating templates

Expressions have values, and bodies have texts.  Evaluation goes from an
expression to its parts, from a statement to its bodies, and from a call to the
macro, block or template that it names; the last kind of step may go in circles,
so evaluation is allowed a number of nested steps.  Every rule below is given an
evaluator for the next step inward and does not call itself through it.

What has been opened when a fault occurs stays open, because the place of a fault
is told from it, and because a condition turns faults of a variable into false.
-/

namespace Stencil.Template

/-- A block whose body has been entered. -/
structure BlockUse where
  name : String
  /-- The template that the body belongs to. -/
  page : Page
  /-- How many parents above the rendered template it was found. -/
  level : Nat

/-- What changes while a template is rendered. -/
structure Machine where
  frames : Frames
  /-- The blocks that have been entered, the last one first. -/
  blocks : List BlockUse

/-- What is rendered. -/
structure Task where
  library : Library
  page : Page
  context : Value.Fields

/-- A computation of rendering.  A fault leaves the machine as it is. -/
abbrev Run (α : Type) := ReaderT Task (ExceptT Fault (StateM Machine)) α

namespace Task

def ancestors (task : Task) : List Page :=
  task.library.lineage task.page

/-- The template whose nodes are rendered: the outermost ancestor. -/
def root (task : Task) : Page :=
  task.ancestors.getLast?.getD task.page

end Task

namespace Run

/-- The result of a plain function, with its fault. -/
def ofExcept {α ε : Type} (wrap : ε → Fault) : Except ε α → Run α
  | .ok result => pure result
  | .error fault => throw (wrap fault)

/-- A computation with its faults put inside of others. -/
def wrapping {α : Type} (wrap : Fault → Fault) (action : Run α) : Run α :=
  tryCatch action fun fault => throw (wrap fault)

def attempt {α : Type} (action : Run α) : Run (Except Fault α) :=
  tryCatch (Except.ok <$> action) fun fault => pure (.error fault)

def changeFrames (change : Frames → Frames) : Run Unit :=
  modify fun machine => { machine with frames := change machine.frames }

/-- A computation inside of a new frame. -/
def within {α : Type} (frame : Frame) (action : Run α) : Run α := do
  changeFrames fun frames => frames.push frame
  let result ← action
  changeFrames Frames.pop
  pure result

end Run

open Run

/-- The evaluators for one step inward. -/
structure Evaluator where
  value : Expression → Run Value
  truth : Expression → Run Bool
  number : Operand → Run (Option Number)
  body : List Node → Run String

/-! ## Variables -/

/-- The name under which templates see everything that is visible. -/
def overviewName : String := "__tera_context"

/-- The value of a path; indices in brackets are evaluated first. -/
def locate (context : Value.Fields) (frames : Frames) : Nat → String → Except Fault Value
  | 0, _ => .error .tooDeep
  | depth + 1, path =>
      if path.toList.contains '[' then do
        let evaluated ← (indices path).foldlM (fun evaluated index =>
          match locate context frames depth index with
          | .error fault => .error (.noIndex path fault)
          | .ok value =>
              match indexStep? value with
              | some step => .ok (putIndex evaluated index step)
              | none => .error (.badIndex index path)) path
        let evaluated := withoutBrackets evaluated
        match frames.lookup? context evaluated with
        | some value => .ok value
        | none => .error (.noElement path frames.top.page.name evaluated)
      else
        match frames.lookup? context path with
        | some value => .ok value
        | none => .error (.noVariable path frames.top.page.name)

def variableValue (path : String) : Run Value := do
  let task ← read
  let machine ← get
  if path = overviewName then pure (.string (machine.frames.overview task.context))
  else ofExcept id (locate task.context machine.frames (path.length + 1) path)

/-! ## Calls -/

section Rules

variable (inner : Evaluator)

def argumentValues (arguments : List (String × Expression)) : Run Arguments :=
  arguments.mapM fun (name, expression) => do
    let value ← inner.value expression
    pure (name, value)

def callValue (call : Call) : Run Value :=
  match function? call.name with
  | none => throw (.noFunction call.name)
  | some run => wrapping (.inFunction call.name) do
      let arguments ← argumentValues inner call.arguments
      ofExcept .function (run arguments)

/-- The filter with a name: one that comes with a library, or one of the engine. -/
def Library.filter? (library : Library) (name : String) : Option Filter :=
  match library.filters.lookup name with
  | some filter => some fun value arguments => (filter value arguments).mapError .told
  | none => ownFilter? follow? name

def filterValue (value : Value) (call : Call) : Run Value := do
  match (← read).library.filter? call.name with
  | none => throw (.noFilter call.name)
  | some run => wrapping (.inFilter call.name) do
      let arguments ← argumentValues inner call.arguments
      ofExcept .filter (run value arguments)

def checkAnswer (path name : String) (arguments : List Expression) (negated : Bool) : Run Bool :=
  match check? name with
  | none => throw (.noCheck name)
  | some run => do
      let values ← arguments.mapM fun argument => wrapping (.inCheck name) (inner.value argument)
      let value? ← attempt (variableValue path)
      let answer ← wrapping (.inCheck name) (ofExcept .check (run value?.toOption values))
      pure (answer != negated)

/-- The template in whose name a macro is looked for. -/
def callerPage (task : Task) (machine : Machine) : Page :=
  match machine.blocks with
  | use :: _ => use.page
  | [] => if task.page.name = task.root.name then machine.frames.top.page else task.root

/-- The argument of a macro, or the value that its parameter has without one. -/
def parameterValue (macroName : String) (arguments : List (String × Expression))
    (parameter : String × Option Expression) : Run (String × Value) :=
  match (arguments.lookup parameter.1).or parameter.2 with
  | some expression => do
      let value ← inner.value expression
      pure (parameter.1, value)
  | none => throw (.noArgument macroName parameter.1)

def expansionText (space name : String) (arguments : List (String × Expression)) : Run String := do
  let task ← read
  let caller := callerPage task (← get)
  match (task.library.spaces caller).lookup space with
  | none => throw (.noSpace space caller.name)
  | some owner =>
      match owner.macro? name with
      | none => throw (.noMacro space name caller.name)
      | some definition => do
          let bindings ← definition.parameters.mapM (parameterValue inner name arguments)
          within ⟨.expansion space name, owner, bindings⟩ (inner.body definition.body)

/-! ## Values -/

def joinedPart (part : Operand) : Run String :=
  match part with
  | .text words => pure words
  | .whole value => pure (toString value)
  | .float bits => pure (Decimal.plainText bits)
  | .path path => do
      match ← variableValue path with
      | .string words => pure words
      | .number number => pure number.text
      | _ => throw (.joinedPath path)
  | .call call => do
      match ← callValue inner call with
      | .string words => pure words
      | .number number => pure number.text
      | _ => throw (.joinedCall call.name)
  | _ => pure ""

def isMember (item container : Value) : Except Fault Bool :=
  match container with
  | .array items => .ok (items.any fun other => other.same item)
  | .string whole =>
      match item with
      | .string part => .ok (Text.occurs part.toList whole.toList)
      | item => .error (.inTextNoText item)
  | .object fields =>
      match item with
      | .string key => .ok (Value.hasField fields key)
      | item => .error (.inObjectNoText item)
  | _ => .error .inNoContainer

def membershipAnswer (item container : Expression) (negated : Bool) : Run Bool := do
  let item ← inner.value item
  let container ← inner.value container
  let answer ← ofExcept id (isMember item container)
  pure (answer != negated)

/-- Whether the first filter gives a value to variables without one. -/
def hasDefault (expression : Expression) : Bool :=
  match expression.filters with
  | filter :: _ => filter.name = "default"
  | [] => false

/-- The value that a variable has when it has none of its own. -/
def defaultValue (expression : Expression) : Run Value :=
  match expression.filters with
  | filter :: _ =>
      match filter.arguments.lookup "value" with
      | some expression => inner.value expression
      | none => throw .noDefault
  | [] => throw .noDefault

/-- The value after all filters.  Those that mark a text as safe or that give a
value to variables without one have no effect here. -/
def filteredValue (value : Value) (filters : List Call) : Run Value :=
  filters.foldlM (fun value call =>
    if call.name = "safe" ∨ call.name = "default" then pure value
    else filterValue inner value call) value

def finishedValue (expression : Expression) (value : Value) : Run Value := do
  let value ← filteredValue inner value expression.filters
  pure (if expression.negated then .bool !value.isTruthy else value)

/-- The value of an expression about a variable.  A negated variable without a
value is true. -/
def pathValue (expression : Expression) (path : String) : Run Value := do
  match ← attempt (variableValue path) with
  | .ok .null =>
      if hasDefault expression then finishedValue inner expression (← defaultValue inner expression)
      else finishedValue inner expression .null
  | .ok value => finishedValue inner expression value
  | .error fault =>
      if hasDefault expression then finishedValue inner expression (← defaultValue inner expression)
      else if expression.negated then pure (.bool true)
      else throw fault

def operandValue (expression : Expression) : Run Value :=
  match expression.operand with
  | .text words => pure (.string words)
  | .whole value => pure (.whole value)
  | .float bits => pure (.number (.float bits))
  | .flag flag => pure (.bool flag)
  | .path path => variableValue path
  | .joined parts => do
      let parts ← parts.mapM (joinedPart inner)
      pure (.string (String.join parts))
  | .math _ _ _ => do
      match ← attempt (inner.number expression.operand) with
      | .ok (some number) => pure (.number number)
      | .ok none => pure (.string "NaN")
      | .error fault => throw (.headline fault)
  | .logic _ _ _ => Value.bool <$> inner.truth expression
  | .membership item container negated =>
      Value.bool <$> membershipAnswer inner item container negated
  | .check path name arguments negated =>
      Value.bool <$> checkAnswer inner path name arguments negated
  | .call call => callValue inner call
  | .expansion space name arguments =>
      Value.string <$> expansionText inner space name arguments
  | .list items => Value.array <$> items.mapM inner.value

def expressionValue (expression : Expression) : Run Value := do
  match expression.operand with
  | .path path => pathValue inner expression path
  | _ => finishedValue inner expression (← operandValue inner expression)

/-! ## Numbers -/

/-- The number of an operand; it is missing when it is no finite number. -/
def operandNumber (operand : Operand) : Run (Option Number) := do
  match operand with
  | .whole value => pure (some (.whole value))
  | .float bits => pure (some (.float bits))
  | .path path =>
      match ← variableValue path with
      | .number number => pure (some number)
      | _ => throw (.pathNoNumber path)
  | .call call =>
      match ← callValue inner call with
      | .number number => pure (some number)
      | _ => throw (.callNoNumber call.name)
  | .math operator left right =>
      let leftNumber ← side left
      let rightNumber ← side right
      match leftNumber, rightNumber with
      | some leftNumber, some rightNumber =>
          ofExcept (fun fault => .arithmetic fault left right)
            (combine operator leftNumber rightNumber)
      | _, _ => pure none
  | .text words => throw (.textNoNumber words)
  | .flag flag => throw (.flagNoNumber flag)
  | .joined parts => throw (.joinedNoNumber parts)
  | .check _ name _ _ => throw (.checkNoNumber name)
  | operand => throw (.operandNoNumber operand)
where
  /-- The number of an expression. -/
  side (expression : Expression) : Run (Option Number) := do
    if expression.filters.isEmpty then inner.number expression.operand
    else
      match ← inner.value expression with
      | .number number => pure (some number)
      | _ => throw .expressionNoNumber

/-! ## Conditions -/

/-- Whether a comparison of two numbers holds. -/
def LogicOperator.compares (operator : LogicOperator) (left right : Float) : Bool :=
  match operator with
  | .greater => left > right
  | .atLeast => left >= right
  | .less => left < right
  | .atMost => left <= right
  | .equal => left == right
  | .unequal => left != right
  | _ => false

/-- Whether two values are equal, or unequal.  A number is compared with numbers
alone: with anything else it is neither equal nor unequal, whatever negation
stands in front. -/
def equality (operator : LogicOperator) (negated : Bool) (left right : Value) : Bool :=
  match left, right with
  | .number left, .number right => operator.compares left.toFloat right.toFloat != negated
  | .number _, _ => false
  | _, .number _ => false
  | left, right => (left.same right == decide (operator = .equal)) != negated

def logicTruth (negated : Bool) (operator : LogicOperator) (left right : Expression) :
    Run Bool := do
  match operator with
  | .either =>
      if ← inner.truth left then pure !negated
      else
        let second ← inner.truth right
        pure (second != negated)
  | .both =>
      if ← inner.truth left then
        let second ← inner.truth right
        pure (second != negated)
      else pure negated
  | .equal | .unequal =>
      let leftValue ← inner.value left
      let rightValue ← inner.value right
      pure (equality operator negated leftValue rightValue)
  | operator =>
      let leftNumber ← operandNumber.side inner left
      let rightNumber ← operandNumber.side inner right
      match leftNumber, rightNumber with
      | some leftNumber, some rightNumber =>
          pure (operator.compares leftNumber.toFloat rightNumber.toFloat != negated)
      | _, _ => throw .comparedToNothing

/-- Whether an expression holds.  Filters count only for variables and joined
texts. -/
def expressionTruth (expression : Expression) : Run Bool := do
  let negated := expression.negated
  match expression.operand with
  | .logic operator left right => logicTruth inner negated operator left right
  | .path _ =>
      match ← attempt (inner.value expression) with
      | .ok value => pure value.isTruthy
      | .error _ => pure false
  | .math _ _ _ | .whole _ | .float _ =>
      let number? ← inner.number expression.operand
      let holds := match number? with
        | some number => number.toFloat != 0
        | none => false
      pure (holds != negated)
  | .membership item container opposite =>
      let holds ← membershipAnswer inner item container opposite
      pure (holds != negated)
  | .check path name arguments opposite =>
      let holds ← checkAnswer inner path name arguments opposite
      pure (holds != negated)
  | .flag flag => pure (flag != negated)
  | .text words => pure (!words.isEmpty != negated)
  | .call call =>
      match ← callValue inner call with
      | .bool flag => pure (flag != negated)
      | _ => throw (.callNoFlag call.name)
  | .joined _ =>
      let value ← inner.value (expression.withNegation false)
      pure (value.isTruthy != negated)
  | .expansion space name arguments =>
      let text ← expansionText inner space name arguments
      pure (!text.isEmpty != negated)
  | .list items => pure (!items.isEmpty != negated)

/-! ## Loops -/

def containerName? (container : Expression) : Option String :=
  match container.operand with
  | .path path => some path
  | .call call => some call.name
  | .list _ => some "an array literal"
  | _ => none

/-- The items of a container with their keys.  A text is taken apart into
grapheme clusters. -/
def entriesOf (name : String) (key? : Option String) (container : Value) :
    Except Fault (List (String × Value)) :=
  match container, key? with
  | .array items, none => .ok (items.map fun item => ("", item))
  | .string text, none =>
      .ok ((Text.clusters text.toList).map fun part => ("", .string (String.ofList part)))
  | .object fields, some _ => .ok fields
  | .array _, some _ => .error (.loopWithKey name)
  | .string _, some _ => .error (.loopWithKey name)
  | .object _, none => .error (.loopWithoutKey name)
  | _, _ => .error (.loopOverOther name)

/-- How the innermost loop goes on. -/
def Frames.course (frames : Frames) : Course :=
  match frames.top.iteration? with
  | some iteration => iteration.course
  | none => .onward

/-- The frames with the innermost loop at its next item, and without the
variables that were set in it. -/
def Frames.advance (frames : Frames) : Frames :=
  match frames.top.iteration?.bind Iteration.advance? with
  | some iteration =>
      { frames with top := { frames.top with opening := .loop iteration, bindings := [] } }
  | none => frames

def roundTexts (nodes : List Node) : Nat → Run (List String)
  | 0 => pure []
  | count + 1 => do
      let text ← inner.body nodes
      if (← get).frames.course = .leave then pure [text]
      else
        changeFrames Frames.advance
        let others ← roundTexts nodes count
        pure (text :: others)

def loopText (key? : Option String) (item : String) (container : Expression) (nodes : List Node)
    (otherwise : Option (List Node)) : Run String := do
  match containerName? container with
  | none => throw (.loopOverOperand container.operand)
  | some name =>
      let value ← inner.value container
      match ← ofExcept id (entriesOf name key? value) with
      | [] =>
          match otherwise with
          | some nodes => inner.body nodes
          | none => pure ""
      | first :: rest =>
          let page := (← get).frames.top.page
          within ⟨.loop ⟨key?, item, 0, first, rest, .onward⟩, page, []⟩ do
            let texts ← roundTexts inner nodes (rest.length + 1)
            pure (String.join texts)

/-- Ends the current round of the innermost loop. -/
def endRound (course : Course) (fault : Fault) : Run Unit := do
  match (← get).frames.top.iteration? with
  | some iteration =>
      let opening := Opening.loop { iteration with course := course }
      changeFrames fun frames => { frames with top := { frames.top with opening := opening } }
  | none => throw fault

/-! ## Blocks -/

/-- The first of some templates that defines a block, with its place and the body
of the block. -/
def findBlock? (name : String) (level : Nat) : List Page → Option (BlockUse × List Node)
  | [] => none
  | page :: rest =>
      match page.block? name with
      | some nodes => some (⟨name, page, level⟩, nodes)
      | none => findBlock? name (level + 1) rest

/-- The text of a block: the nearest definition of it, seen from the template
that is being rendered. -/
def blockText (name : String) (nodes : List Node) : Run String := do
  let task ← read
  let page := (← get).frames.top.page
  match findBlock? name 0 (page :: task.library.lineage page) with
  | some (use, nodes) =>
      modify fun machine => { machine with blocks := use :: machine.blocks }
      inner.body nodes
  | none => inner.body nodes

/-- The text of the current block in the next template above that defines it.
After the last such template the block itself counts as left. -/
def parentBlockText : Run String := do
  let task ← read
  match (← get).blocks with
  | [] => throw .noParentBlock
  | current :: _ =>
      match findBlock? current.name (current.level + 1) (task.ancestors.drop current.level) with
      | none => throw .noParentBlock
      | some (use, nodes) =>
          modify fun machine => { machine with blocks := use :: machine.blocks }
          let text ← inner.body nodes
          let closed := if use.level < task.ancestors.length then 1 else 2
          modify fun machine => { machine with blocks := machine.blocks.drop closed }
          pure text

/-! ## Bodies -/

/-- The body of the first branch whose condition holds. -/
def chosenBody (otherwise : List Node) : List (Trim × Expression × List Node) → Run (List Node)
  | [] => pure otherwise
  | (_, condition, nodes) :: rest => do
      if ← inner.truth condition then pure nodes else chosenBody otherwise rest

def nodeText (node : Node) : Run String := do
  match node with
  | .text text => pure text
  | .raw _ text _ => pure text
  | .comment _ | .importing _ _ _ | .definition _ _ _ _ _ => pure ""
  | .output _ expression => Value.plain <$> inner.value expression
  | .assign _ name expression outside =>
      let value ← inner.value expression
      changeFrames fun frames =>
        if outside then frames.setOutside name value else frames.set name value
      pure ""
  | .inclusion _ names optional =>
      match names.findSome? (← read).library.page? with
      | some page => within ⟨.inclusion, page, []⟩ (inner.body page.nodes)
      | none =>
          if optional then pure ""
          else throw (.noTemplate ("[" ++ String.intercalate ", " names ++ "]"))
  | .extension _ parent => throw (.extensionInside parent)
  | .parentBlock => parentBlockText inner
  | .leave _ =>
      endRound .leave .leaveOutside
      pure ""
  | .next _ =>
      endRound .next .nextOutside
      pure ""
  | .filtered _ call nodes _ =>
      let text ← inner.body nodes
      if call.name = "safe" then pure text
      else Value.plain <$> filterValue inner (.string text) call
  | .block _ name nodes _ => blockText inner name nodes
  | .loop _ key? item container nodes otherwise _ =>
      loopText inner key? item container nodes otherwise
  | .branches branches otherwise _ =>
      let nodes ← chosenBody inner ((otherwise.map Prod.snd).getD []) branches
      inner.body nodes

/-- The texts of the parts of a body, up to the end of a round of a loop. -/
def nodeTexts : List Node → Run (List String)
  | [] => pure []
  | node :: rest => do
      let text ← nodeText inner node
      if (← get).frames.course = .onward then
        let others ← nodeTexts rest
        pure (text :: others)
      else pure [text]

def bodyText (nodes : List Node) : Run String :=
  String.join <$> nodeTexts inner nodes

end Rules

/-! ## Rendering -/

/-- The evaluators that are allowed a number of nested steps. -/
def Evaluator.upTo : Nat → Evaluator
  | 0 => {
      value := fun _ => throw .tooDeep
      truth := fun _ => throw .tooDeep
      number := fun _ => throw .tooDeep
      body := fun _ => throw .tooDeep }
  | depth + 1 => {
      value := fun expression => expressionValue (upTo depth) expression
      truth := fun expression => expressionTruth (upTo depth) expression
      number := fun operand => operandNumber (upTo depth) operand
      body := fun nodes => bodyText (upTo depth) nodes }

/-- How many steps may be nested. -/
def maxDepth : Nat := 10000

/-- Where a fault happened, told from what is open. -/
def faultPlace (task : Task) (machine : Machine) : String :=
  "Failed to render '" ++ task.page.name ++ "'" ++ inMacro ++ inBlock
where
  /-- The macro that is being expanded. -/
  inMacro : String :=
    match machine.frames.top.opening with
    | .expansion space name => ": error while rendering macro `" ++ space ++ "::" ++ name ++ "`"
    | _ => ""
  /-- The template of the block that is being rendered, when it is another one. -/
  inBlock : String :=
    match machine.blocks with
    | use :: _ =>
        match (task.library.definitionsOf task.page use.name)[use.level]? with
        | some (page, _) =>
            if page.name = task.page.name then ""
            else " (error happened in '" ++ page.name ++ "')."
        | none => " (error happened in a parent template)"
    | [] =>
        match task.ancestors.getLast? with
        | some ancestor => " (error happened in '" ++ ancestor.name ++ "')."
        | none => ""

def outerText (node : Node) : Run String :=
  tryCatch (nodeText (.upTo maxDepth) node) fun fault => do
    throw (.located (faultPlace (← read) (← get)) fault)

def taskText : Run String := do
  let texts ← (← read).root.nodes.mapM outerText
  pure (String.join texts)

namespace Library

/-- The text of a template among the templates of a library. -/
def renderPage (library : Library) (page : Page) (context : Value.Fields) : Except Fault String :=
  let start : Machine := ⟨⟨⟨.page, page, []⟩, []⟩, []⟩
  ((taskText.run ⟨library, page, context⟩).run.run start).1

def render (library : Library) (name : String) (context : Value.Fields) : Except Fault String :=
  match library.page? name with
  | none => .error (.noTemplate name)
  | some page => library.renderPage page context

end Library

/-- The engine whose templates are described here. -/
@[reducible]
def engine : Engine where
  Library := Library
  compile filters texts := (Library.ofTexts filters texts).mapError Defect.lines
  names := Library.names
  render library name context := (library.render name context).mapError Fault.lines
  renderText library name text context :=
    match Page.ofText name text with
    | .ok page => (library.renderPage page context).mapError Fault.lines
    | .error defect => .error defect.lines

end Stencil.Template
