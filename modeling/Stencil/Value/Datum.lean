import Stencil.Value.Basic

/-!
# Data as written

Between the text of a document and the record it describes stands a tree that
still knows how a scalar was written.  In YAML the scalar `5` is the number five
where any value is wanted, and the text `5` where a text is wanted.  Repeated
keys are still there.
-/

namespace Stencil

/-- A document as its format writes it. -/
inductive Datum where
  /-- A scalar: its text where a text is wanted, and its value where any value
  is wanted.  Either may be missing. -/
  | scalar (text? : Option String) (value? : Option Value)
  /-- Nothing at all where a value could stand. -/
  | blank
  | sequence (items : List Datum)
  | mapping (entries : List (String × Datum))
  /-- A value with a tag of the document's own. -/
  | tagged (tag : String) (inner : Datum)
deriving Inhabited

namespace Datum

def text? : Datum → Option String
  | scalar text? _ => text?
  | blank => some ""
  | tagged _ inner => inner.text?
  | _ => none

/-- The text of a scalar that is a text and nothing else. -/
def plainText? : Datum → Option String
  | scalar _ (some (.string text)) => some text
  | _ => none

def isNull : Datum → Bool
  | scalar _ (some .null) => true
  | blank => true
  | _ => false

/-- The datum without a tag in front. -/
def untagged : Datum → Datum
  | tagged _ inner => inner
  | datum => datum

mutual

/-- The value of a datum: own tags are refused, repeated keys merged. -/
def value? : Datum → Option Value
  | scalar _ value? => value?
  | blank => some .null
  | sequence items => (valueItems? items).map .array
  | mapping entries => (valueFields? [] entries).map .object
  | tagged _ _ => none

def valueItems? : List Datum → Option (List Value)
  | [] => some []
  | item :: rest =>
      match value? item, valueItems? rest with
      | some item, some rest => some (item :: rest)
      | _, _ => none

def valueFields? (done : Value.Fields) : List (String × Datum) → Option Value.Fields
  | [] => some done
  | (key, datum) :: rest =>
      match value? datum with
      | some value => valueFields? (Value.put key value done) rest
      | none => none

end

mutual

/-- A JSON value as a datum: only strings have a text. -/
def ofValue : Value → Datum
  | .string text => scalar (some text) (some (.string text))
  | .array items => sequence (ofItems items)
  | .object fields => mapping (ofFields fields)
  | .null => scalar none (some .null)
  | .bool flag => scalar none (some (.bool flag))
  | .number number => scalar none (some (.number number))

def ofItems : List Value → List Datum
  | [] => []
  | item :: rest => ofValue item :: ofItems rest

def ofFields : List (String × Value) → List (String × Datum)
  | [] => []
  | (key, value) :: rest => (key, ofValue value) :: ofFields rest

end

end Datum

end Stencil
