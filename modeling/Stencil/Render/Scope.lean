import Stencil.Error

/-!
# Scopes and outcomes

The scope of a template says for what it is rendered.  The outcome of a file
says what a pass did with it.
-/

namespace Stencil

/-- For what a template is rendered. -/
inductive Scope where
  /-- Once, whatever the document holds. -/
  | supportOnce
  /-- Once for the document. -/
  | apiOnce
  /-- Once for every group of operations. -/
  | apiEach
  /-- Once for every operation. -/
  | operationEach
  /-- Once for every model. -/
  | modelEach
  /-- Once for every enumeration. -/
  | enumEach
deriving DecidableEq, Repr, Inhabited

namespace Scope

def all : List Scope :=
  [supportOnce, apiOnce, apiEach, operationEach, modelEach, enumEach]

/-- The word for a scope in manifests and on the command line. -/
def word : Scope → String
  | supportOnce => "support_once"
  | apiOnce => "api_once"
  | apiEach => "api_each"
  | operationEach => "operation_each"
  | modelEach => "model_each"
  | enumEach => "enum_each"

/-- Whether a template of this scope is rendered for each of several entities. -/
def isEach : Scope → Bool
  | supportOnce => false
  | apiOnce => false
  | _ => true

def ofWord? (word : String) : Option Scope :=
  all.find? fun scope => scope.word == word

/-- The scope that a word names, or the error for a word that names none. -/
def parse (word : String) : Except Error Scope :=
  match ofWord? word with
  | some scope => .ok scope
  | none => .error (.unknownScope word)

/-- Different scopes have different words. -/
theorem word_injective {left right : Scope} (hword : left.word = right.word) : left = right := by
  revert hword
  cases left <;> cases right <;> decide

theorem ofWord?_word (scope : Scope) : ofWord? scope.word = some scope := by
  cases scope <;> decide

end Scope

/-- What a pass did with a file. -/
inductive Outcome where
  /-- The file would have been written. -/
  | dryRun
  /-- The file was left out because of its name. -/
  | skippedByName
  /-- The file was left out because of its scope. -/
  | skippedByScope
  /-- The file was written. -/
  | rendered
deriving DecidableEq, Repr, Inhabited

namespace Outcome

def all : List Outcome :=
  [dryRun, skippedByName, skippedByScope, rendered]

def word : Outcome → String
  | dryRun => "dry-run"
  | skippedByName => "skipped-by-name"
  | skippedByScope => "skipped-by-scope"
  | rendered => "rendered"

/-- Whether the file was left out before it came to writing. -/
def isSkipped : Outcome → Bool
  | skippedByName => true
  | skippedByScope => true
  | _ => false

def ofWord? (word : String) : Option Outcome :=
  all.find? fun outcome => outcome.word == word

/-- The outcome that a word names, or the error for a word that names none. -/
def parse (word : String) : Except Error Outcome :=
  match ofWord? word with
  | some outcome => .ok outcome
  | none => .error (.unknownOutcome word)

theorem ofWord?_word (outcome : Outcome) : ofWord? outcome.word = some outcome := by
  cases outcome <;> decide

end Outcome

end Stencil
