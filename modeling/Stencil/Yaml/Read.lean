import Stencil.Value.Datum
import Stencil.Yaml.Node
import Stencil.Yaml.Resolve

/-!
# Reading YAML

A document becomes a datum: plain scalars are resolved, aliases are followed,
and keys become texts.  How deep collections may be nested and how often aliases
may be followed is limited.
-/

namespace Stencil.Yaml

/-- How deep collections may be nested. -/
def maxDepth : Nat := 128

/-- How often aliases may be followed for each step of the document. -/
def maxRepetition : Nat := 100

def coreTag (name : String) : String :=
  "tag:yaml.org,2002:" ++ name

/-- The name of a tag of the document's own. -/
def ownTag? (tag : Option String) : Option String :=
  match tag.map String.toList with
  | some ('!' :: first :: rest) => some (String.ofList (first :: rest))
  | _ => none

def untaggedScalar (text : String) (plain : Bool) : Datum :=
  if !plain then .scalar (some text) (some (.string text))
  else if text.isEmpty then .blank
  else .scalar (some text) (plainValue? text)

/-- A scalar with a tag that is not the document's own. -/
def taggedScalar (tag text : String) (plain : Bool) : Datum :=
  let value? :=
    if tag = coreTag "bool" then (boolWord? text).map .bool
    else if tag = coreTag "int" then (whole? text.toList).bind wholeValue?
    else if tag = coreTag "float" then floatValue? text
    else if tag = coreTag "null" then if isNullWord text then some .null else none
    else if tag = "!" ∧ plain then plainValue? text
    else some (.string text)
  .scalar (some text) value?

def scalarDatum (tag : Option String) (text : String) (plain : Bool) : Datum :=
  match ownTag? tag, tag with
  | some name, _ => .tagged name (untaggedScalar text plain)
  | none, some tag => taggedScalar tag text plain
  | none, none => untaggedScalar text plain

def collectionDatum (tag : Option String) (datum : Datum) : Datum :=
  match ownTag? tag with
  | some name => .tagged name datum
  | none => datum

/-- A walk through a document that counts the aliases it follows. -/
abbrev Walk := StateT Nat (Except Fault)

/-- Follows an alias unless that was done too often. -/
def followAlias (limit : Nat) : Walk Unit := do
  let followed := (← get) + 1
  if followed > limit then throw .tooManyAliases else set followed

def keyText (fuel limit : Nat) : Node → Walk String
  | .scalar _ text _ => return text
  | .alias target => do
      followAlias limit
      match fuel with
      | 0 => throw .badKey
      | fuel + 1 => keyText fuel limit target
  | _ => throw .badKey

mutual

/-- The datum of a node; `depth` counts the collections that may still be
opened. -/
def datum (limit depth : Nat) : Node → Walk Datum
  | .scalar tag text plain => return scalarDatum tag text plain
  | .sequence tag items =>
      match depth with
      | 0 => throw .tooDeep
      | depth + 1 => return collectionDatum tag (.sequence (← dataOf limit depth items))
  | .mapping tag entries =>
      match depth with
      | 0 => throw .tooDeep
      | depth + 1 => return collectionDatum tag (.mapping (← entriesOf limit depth entries))
  | .alias target => do
      followAlias limit
      datum limit depth target

def dataOf (limit depth : Nat) : List Node → Walk (List Datum)
  | [] => return []
  | item :: rest => do
      let item ← datum limit depth item
      return item :: (← dataOf limit depth rest)

def entriesOf (limit depth : Nat) : List (Node × Node) → Walk (List (String × Datum))
  | [] => return []
  | (key, value) :: rest => do
      let key ← keyText 1 limit key
      let value ← datum limit depth value
      return (key, value) :: (← entriesOf limit depth rest)

end

def readDatum (text : String) : Except Fault Datum := do
  let tree ← treeOfTokens (← tokensOf text)
  let (datum, _) ← (datum (maxRepetition * tree.size) maxDepth tree.root).run 0
  .ok datum

def read (text : String) : Except Fault Value := do
  match (← readDatum text).value? with
  | some value => .ok value
  | none => .error .badScalar

end Stencil.Yaml
