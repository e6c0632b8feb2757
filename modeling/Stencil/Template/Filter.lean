import Stencil.Text.Cluster
import Stencil.Text.Pattern
import Stencil.Text.WholeCase
import Stencil.Text.WordCharacter
import Stencil.Value.Plain
import Stencil.Value.Text

/-!
# Filters

A filter makes a value from a value and named arguments.  Arguments that a
filter does not know are ignored.  The filters here are some of those that come
with engines of this kind, and a library may be given more.
-/

namespace Stencil.Template

open Stencil.Text

abbrev Arguments := Value.Fields

/-- Why a filter has no result. -/
inductive FilterFault where
  | wrongValue (filter expected : String) (value : Value)
  | wrongArgument (filter argument expected : String) (value : Value)
  | missingArgument (filter argument : String)
  | nothingToAppend
  | noLength
  | notReversible (value : Value)
  | notSortable (kind : String)
  | mixedItems (expected : String) (value : Value)
  | missingField (path : String)
  /-- The message of a filter from outside. -/
  | told (message : String)

namespace FilterFault

def message : FilterFault → String
  | wrongValue filter expected value =>
      "Filter `" ++ filter ++ "` was called on an incorrect value: got `" ++ value.compact ++
        "` but expected a " ++ expected
  | wrongArgument filter argument expected value =>
      "Filter `" ++ filter ++ "` received an incorrect type for arg `" ++ argument ++ "`: got `" ++
        value.compact ++ "` but expected a " ++ expected
  | missingArgument filter argument =>
      "Filter `" ++ filter ++ "` expected an arg called `" ++ argument ++ "`"
  | nothingToAppend => "The `concat` filter has to have a `with` argument"
  | noLength =>
      "Filter `length` was used on a value that isn't an array, an object, or a string."
  | notReversible value =>
      "Filter `reverse` received an incorrect type for arg `value`: got `" ++ value.compact ++
        "` but expected Array|String"
  | notSortable kind => kind ++ " is not a sortable value"
  | mixedItems expected value => "expected " ++ expected ++ " got " ++ value.compact
  | missingField path => "attribute '" ++ path ++ "' does not reference a field"
  | told message => message

end FilterFault

abbrev Filtered := Except FilterFault Value

abbrev Filter := Value → Arguments → Filtered

/-! ## Values and arguments of a fixed kind -/

def textOf (filter : String) (value : Value) : Except FilterFault String :=
  match value with
  | .string text => .ok text
  | value => .error (.wrongValue filter "String" value)

def itemsOf (filter : String) (value : Value) : Except FilterFault (List Value) :=
  match value with
  | .array items => .ok items
  | value => .error (.wrongValue filter "Vec<Value>" value)

def textArgument? (filter argument : String) (arguments : Arguments) :
    Except FilterFault (Option String) :=
  match Value.field? arguments argument with
  | none => .ok none
  | some (.string text) => .ok (some text)
  | some value => .error (.wrongArgument filter argument "String" value)

/-- A count argument: a whole number that is not negative. -/
def countArgument? (filter argument : String) (arguments : Arguments) :
    Except FilterFault (Option Nat) :=
  match Value.field? arguments argument with
  | none => .ok none
  | some (.number (.whole (.ofNat count))) => .ok (some count)
  | some value => .error (.wrongArgument filter argument "usize" value)

def neededText (filter argument : String) (arguments : Arguments) : Except FilterFault String := do
  match ← textArgument? filter argument arguments with
  | some text => .ok text
  | none => .error (.missingArgument filter argument)

def charFilter (filter : String) (change : List Char → List Char) : Filter := fun value _ => do
  let text ← textOf filter value
  .ok (.string (String.ofList (change text.toList)))

/-! ## Texts -/

/-- The first character in upper case, and all others in lower case. -/
def capital : List Char → List Char
  | [] => []
  | first :: rest => uppercase first ++ lower rest

/-- Letters of words and the apostrophes between them. -/
def isTitleCharacter (char : Char) : Bool :=
  isWordCharacter char || char = '\''

/-- A run of letters and apostrophes with a capital; the apostrophes at its ends
are no part of the word. -/
def titleRun (run : List Char) : List Char :=
  let isApostrophe (char : Char) : Bool := char = '\''
  let front := run.takeWhile isApostrophe
  let inner := run.dropWhile isApostrophe
  let word := (inner.reverse.dropWhile isApostrophe).reverse
  front ++ capital word ++ inner.drop word.length

/-- The text with a capital at the start of every word; `run` is the run of
letters and apostrophes in front of it, last character first. -/
def titleFrom (run : List Char) : List Char → List Char
  | [] => titleRun run.reverse
  | char :: rest =>
      if isTitleCharacter char then titleFrom (char :: run) rest
      else titleRun run.reverse ++ char :: titleFrom [] rest

/-- The text with line breaks and tabs in place of their escapes. -/
def unescaped (text : String) : String :=
  replace "\\t" "\t" (replace "\\n" "\n" text)

def replaceFilter : Filter := fun value arguments => do
  let text ← textOf "replace" value
  let pattern ← neededText "replace" "from" arguments
  let replacement ← neededText "replace" "to" arguments
  .ok (.string (replace pattern replacement text))

/-- Splits a text at every occurrence of `pat`. -/
def splitFilter : Filter := fun value arguments => do
  let text ← textOf "split" value
  let pattern ← neededText "split" "pat" arguments
  .ok (.array ((splits (unescaped pattern).toList text.toList).map fun piece =>
    .string (String.ofList piece)))

/-- Cuts a text after `length` grapheme clusters and adds `end`. -/
def truncateFilter : Filter := fun value arguments => do
  let text ← textOf "truncate" value
  let length := (← countArgument? "truncate" "length" arguments).getD 255
  let mark := (← textArgument? "truncate" "end" arguments).getD "…"
  let parts := clusters text.toList
  if parts.length ≤ length then .ok (.string text)
  else .ok (.string (String.ofList (parts.take length).flatten ++ mark))

/-- The character with an entity in place of what markup reserves. -/
def entity (char : Char) : List Char :=
  match char with
  | '&' => "&amp;".toList
  | '<' => "&lt;".toList
  | '>' => "&gt;".toList
  | '"' => "&quot;".toList
  | '\'' => "&#x27;".toList
  | '/' => "&#x2F;".toList
  | char => [char]

/-! ## Arrays -/

/-- Joins the texts of the items with `sep` between them. -/
def joinFilter : Filter := fun value arguments => do
  let items ← itemsOf "join" value
  let separator := (← textArgument? "truncate" "sep" arguments).getD ""
  .ok (.string (String.intercalate (unescaped separator) (items.map Value.plain)))

/-- The first item, or an empty text. -/
def firstFilter : Filter := fun value _ => do
  let items ← itemsOf "first" value
  .ok (items.head?.getD (.string ""))

/-- The last item, or an empty text. -/
def lastFilter : Filter := fun value _ => do
  let items ← itemsOf "last" value
  .ok (items.getLast?.getD (.string ""))

/-- The number of items, fields or characters. -/
def lengthFilter : Filter := fun value _ =>
  match value with
  | .array items => .ok (.whole items.length)
  | .object fields => .ok (.whole fields.length)
  | .string text => .ok (.whole text.length)
  | _ => .error .noLength

/-- The items or characters in reverse order. -/
def reverseFilter : Filter := fun value _ =>
  match value with
  | .array items => .ok (.array items.reverse)
  | .string text => .ok (.string (String.ofList text.toList.reverse))
  | value => .error (.notReversible value)

/-- Adds a value, or the items of an array, at the end. -/
def concatFilter : Filter := fun value arguments => do
  let items ← itemsOf "concat" value
  match Value.field? arguments "with" with
  | none => .error .nothingToAppend
  | some (.array others) => .ok (.array (items ++ others))
  | some other => .ok (.array (items ++ [other]))

/-! ## Order -/

/-- What items are sorted by. -/
inductive SortKey where
  | flag (flag : Bool)
  | number (value : Float)
  | text (text : String)
  | size (size : Nat)

namespace SortKey

/-- Whether a key may stand in front of another one of its kind. -/
def atMost : SortKey → SortKey → Bool
  | flag left, flag right => !left || right
  | number left, number right => left <= right
  | text left, text right => !(right < left)
  | size left, size right => left ≤ right
  | _, _ => true

/-- The key of a value: arrays are sorted by their length. -/
def ofValue? : Value → Except FilterFault SortKey
  | .null => .error (.notSortable "Null")
  | .object _ => .error (.notSortable "Object")
  | .bool value => .ok (flag value)
  | .number value => .ok (number value.toFloat)
  | .string value => .ok (text value)
  | .array items => .ok (size items.length)

def kind : SortKey → String
  | flag _ => "bool"
  | number _ => "number"
  | text _ => "string"
  | size _ => "array"

def like (first : SortKey) (value : Value) : Except FilterFault SortKey :=
  match ofValue? value with
  | .ok key => if key.kind = first.kind then .ok key else .error (.mixedItems first.kind value)
  | .error _ => .error (.mixedItems first.kind value)

end SortKey

/-- The items in the order of their keys; equal keys keep their order. -/
def sortedBy (keyOf : Value → Except FilterFault Value) (items : List Value) : Filtered :=
  match items with
  | [] => .ok (.array [])
  | item :: _ => do
      let first ← SortKey.ofValue? (← keyOf item)
      let keyed ← items.mapM fun item => do
        let key ← first.like (← keyOf item)
        .ok (key, item)
      .ok (.array ((keyed.mergeSort fun left right => left.1.atMost right.1).map Prod.snd))

/-- Sorts items, by an attribute when one is given; `follow?` finds what a dotted
path names inside of a value. -/
def sortFilter (follow? : String → Value → Option Value) : Filter := fun value arguments => do
  let items ← itemsOf "sort" value
  if items.isEmpty then .ok (.array [])
  else
    let path := (← textArgument? "sort" "attribute" arguments).getD ""
    sortedBy (fun item =>
      match follow? path item with
      | some key => .ok key
      | none => .error (.missingField path)) items

/-! ## Filters by name -/

def jsonFilter : Filter := fun value arguments =>
  match Value.field? arguments "pretty" with
  | some (.bool true) => .ok (.string value.wide)
  | _ => .ok (.string value.compact)

/-- The filter of the engine itself with the given name. -/
def ownFilter? (follow? : String → Value → Option Value) (name : String) : Option Filter :=
  match name with
  | "upper" => some (charFilter name upper)
  | "lower" => some (charFilter name lower)
  | "capitalize" => some (charFilter name capital)
  | "title" => some (charFilter name (titleFrom []))
  | "trim" => some (charFilter name trim)
  | "escape" => some (charFilter name fun text => text.flatMap entity)
  | "replace" => some replaceFilter
  | "split" => some splitFilter
  | "truncate" => some truncateFilter
  | "join" => some joinFilter
  | "first" => some firstFilter
  | "last" => some lastFilter
  | "length" => some lengthFilter
  | "reverse" => some reverseFilter
  | "sort" => some (sortFilter follow?)
  | "concat" => some concatFilter
  | "json_encode" => some jsonFilter
  | _ => none

end Stencil.Template
