import Stencil.Render.Scope
import Stencil.Value.Datum
import Stencil.Value.Text

/-!
# Records of a pass

A pass leaves one record for each file it considered.  The tally counts records
by outcome.
-/

namespace Stencil

/-- What became of one file. -/
structure Record where
  /-- Where the file is, or would have been. -/
  path : Path
  /-- The template from which it is rendered. -/
  template : String
  outcome : Outcome
deriving DecidableEq, Repr, Inhabited

namespace Record

def toValue (record : Record) : Value :=
  .object [("file", .string record.path.text), ("templateFile", .string record.template),
    ("state", .string record.outcome.word)]

/-- The outcome that a datum names: a word, or a word as the only key of a
mapping to null. -/
def outcomeOfDatum? : Datum → Option Outcome
  | .scalar (some word) _ => Outcome.ofWord? word
  | .mapping [(word, inner)] => if inner.isNull then Outcome.ofWord? word else none
  | _ => none

def ofParts? (path template outcome : Datum) : Option Record := do
  let path ← path.text?
  let template ← template.text?
  let outcome ← outcomeOfDatum? outcome
  some ⟨⟨path⟩, template, outcome⟩

/-- The only entry with a key; absent when there is none or several. -/
def onlyEntry? (entries : List (String × Datum)) (key : String) : Option Datum :=
  match entries.filter fun entry => entry.1 == key with
  | [entry] => some entry.2
  | _ => none

/-- The record that a datum describes.  Other keys of a mapping are left alone;
a sequence gives the fields in order. -/
def ofDatum? : Datum → Option Record
  | .mapping entries => do
      ofParts? (← onlyEntry? entries "file") (← onlyEntry? entries "templateFile")
        (← onlyEntry? entries "state")
  | .sequence [path, template, outcome] => ofParts? path template outcome
  | _ => none

end Record

def Record.listOfValue (value : Value) : Except Error (List Record) :=
  match Datum.ofValue value with
  | .sequence items =>
      match items.mapM Record.ofDatum? with
      | some records => .ok records
      | none => .error (.json "a record needs a file, a templateFile and a state")
  | _ => .error (.json "expected a sequence of records")

/-- How many records have each outcome. -/
structure Tally where
  rendered : Nat
  dryRun : Nat
  skippedByName : Nat
  skippedByScope : Nat
deriving DecidableEq, Repr, Inhabited

namespace Tally

def count (records : List Record) (outcome : Outcome) : Nat :=
  records.countP fun record => record.outcome == outcome

def ofRecords (records : List Record) : Tally :=
  ⟨count records .rendered, count records .dryRun, count records .skippedByName,
    count records .skippedByScope⟩

def total (tally : Tally) : Nat :=
  tally.rendered + tally.dryRun + tally.skippedByName + tally.skippedByScope

def text (tally : Tally) : String :=
  toString tally.rendered ++ " rendered, " ++ toString tally.dryRun ++ " dry-run, " ++
    toString tally.skippedByName ++ " skipped-by-name, " ++ toString tally.skippedByScope ++
    " skipped-by-scope"

def toValue (tally : Tally) : Value :=
  .object [("rendered", .whole tally.rendered), ("dryRun", .whole tally.dryRun),
    ("skippedByName", .whole tally.skippedByName),
    ("skippedByScope", .whole tally.skippedByScope)]

end Tally

end Stencil
