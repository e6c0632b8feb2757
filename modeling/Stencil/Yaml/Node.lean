import Stencil.Yaml.Token

/-!
# YAML nodes

Tokens form one document: a tree of scalars, sequences and mappings.  An alias
keeps the node that its anchor names.  Anchors are numbered, so that a name can
be given again and an alias inside its own anchor is noticed.
-/

namespace Stencil.Yaml

/-- A node of the tree. -/
inductive Node where
  | scalar (tag : Option String) (text : String) (plain : Bool)
  | sequence (tag : Option String) (items : List Node)
  | mapping (tag : Option String) (entries : List (Node × Node))
  | alias (target : Node)
deriving Inhabited

/-- A document: its root, and how many steps it takes to walk through it. -/
structure Tree where
  root : Node
  size : Nat

/-- What is known while nodes are composed. -/
structure Composer where
  tokens : List Token
  /-- The number of the node that each anchor names, latest first. -/
  anchors : List (String × Nat)
  /-- The finished nodes with anchors. -/
  finished : List (Nat × Node)
  /-- The expansions of tag handles. -/
  handles : List (String × String)
  size : Nat

/-- A step that consumes tokens. -/
abbrev Compose := StateT Composer (Except Fault)

namespace Compose

def peek : Compose Token := do
  return (← get).tokens.head?.getD .streamEnd

/-- Moves past a token. -/
def advance : Compose Unit :=
  modify fun composer => { composer with tokens := composer.tokens.drop 1 }

def fail {α : Type} (fault : Fault) : Compose α :=
  throw fault

/-- Counts steps of the walk through the document. -/
def count (steps : Nat) : Compose Unit :=
  modify fun composer => { composer with size := composer.size + steps }

/-- The scalar that stands where nothing is written. -/
def emptyScalar : Compose Node := do
  count 1
  return .scalar none "" true

def openAnchor (name : Option String) : Compose (Option Nat) := do
  match name with
  | none => return none
  | some name =>
      let composer ← get
      let number := composer.anchors.length
      set { composer with anchors := (name, number) :: composer.anchors }
      return some number

def closeAnchor (number : Option Nat) (node : Node) : Compose Node := do
  match number with
  | none => return node
  | some number =>
      modify fun composer => { composer with finished := (number, node) :: composer.finished }
      return node

def aliasNode (name : String) : Compose Node := do
  let composer ← get
  count 1
  match composer.anchors.lookup name with
  | none => fail (.unknownAnchor name)
  | some number =>
      match composer.finished.lookup number with
      | some node => return .alias node
      | none => fail (.openAnchor name)

def tagText (handle suffix : String) : Compose String := do
  if handle.isEmpty then return suffix
  else
    match (← get).handles.lookup handle with
    | some expansion => return expansion ++ suffix
    | none => fail .badTag

/-- Reads the tag that may come next. -/
def takeTag? : Compose (Option String) := do
  match ← peek with
  | .tag handle suffix =>
      advance
      return some (← tagText handle suffix)
  | _ => return none

/-- Reads the anchor that may come next. -/
def takeAnchor? : Compose (Option String) := do
  match ← peek with
  | .anchor name =>
      advance
      return some name
  | _ => return none

/-- Reads an anchor and a tag in either order. -/
def takeProperties : Compose (Option String × Option String) := do
  match ← takeAnchor? with
  | some anchor => return (some anchor, ← takeTag?)
  | none =>
      let tag ← takeTag?
      return (← takeAnchor?, tag)

mutual

/-- Composes a node.  In a block context block collections may come; where
`indentless` holds, a sequence need not be indented.  Every call goes on with
fewer tokens or is the only one at its place, so the fuel is a multiple of the
number of tokens. -/
def node (fuel : Nat) (block indentless : Bool) : Compose Node := do
  match fuel with
  | 0 => fail .tooLong
  | fuel + 1 =>
      match ← peek with
      | .alias name =>
          advance
          aliasNode name
      | _ =>
          let (anchor, tag) ← takeProperties
          let number ← openAnchor anchor
          let token ← peek
          if indentless && token == .blockEntry then
            count 2
            closeAnchor number (.sequence tag (← indentlessItems fuel []))
          else
            match token, block with
            | .scalar text plain, _ =>
                advance
                count 1
                closeAnchor number (.scalar tag text plain)
            | .flowSequenceStart, _ =>
                advance
                count 2
                closeAnchor number (.sequence tag (← flowItems fuel []))
            | .flowMappingStart, _ =>
                advance
                count 2
                closeAnchor number (.mapping tag (← flowEntries fuel []))
            | .blockSequenceStart, true =>
                advance
                count 2
                closeAnchor number (.sequence tag (← blockItems fuel []))
            | .blockMappingStart, true =>
                advance
                count 2
                closeAnchor number (.mapping tag (← blockEntries fuel []))
            | _, _ =>
                if anchor.isSome || tag.isSome then
                  count 1
                  closeAnchor number (.scalar tag "" true)
                else fail (.missing "node content")

def blockItems (fuel : Nat) (taken : List Node) : Compose (List Node) := do
  match fuel with
  | 0 => fail .tooLong
  | fuel + 1 =>
      match ← peek with
      | .blockEntry =>
          advance
          let item ← match ← peek with
            | .blockEntry => emptyScalar
            | .blockEnd => emptyScalar
            | _ => node fuel true false
          blockItems fuel (item :: taken)
      | .blockEnd =>
          advance
          return taken.reverse
      | _ => fail (.missing "'-' indicator")

/-- The items of a sequence at the indentation of the mapping around it. -/
def indentlessItems (fuel : Nat) (taken : List Node) : Compose (List Node) := do
  match fuel with
  | 0 => fail .tooLong
  | fuel + 1 =>
      match ← peek with
      | .blockEntry =>
          advance
          let item ← match ← peek with
            | .blockEntry => emptyScalar
            | .key => emptyScalar
            | .value => emptyScalar
            | .blockEnd => emptyScalar
            | _ => node fuel true false
          indentlessItems fuel (item :: taken)
      | _ => return taken.reverse

/-- The key or value after its indicator in a block mapping. -/
def blockPart (fuel : Nat) : Compose Node := do
  match fuel with
  | 0 => fail .tooLong
  | fuel + 1 =>
      match ← peek with
      | .key => emptyScalar
      | .value => emptyScalar
      | .blockEnd => emptyScalar
      | _ => node fuel true true

def blockEntries (fuel : Nat) (taken : List (Node × Node)) : Compose (List (Node × Node)) := do
  match fuel with
  | 0 => fail .tooLong
  | fuel + 1 =>
      match ← peek with
      | .key =>
          advance
          let key ← blockPart fuel
          let value ← match ← peek with
            | .value => do
                advance
                blockPart fuel
            | _ => emptyScalar
          blockEntries fuel ((key, value) :: taken)
      | .blockEnd =>
          advance
          return taken.reverse
      | _ => fail (.missing "key")

/-- The item of a flow collection that starts here, empty before the given
tokens. -/
def flowPart (fuel : Nat) (ends : List Token) : Compose Node := do
  match fuel with
  | 0 => fail .tooLong
  | fuel + 1 =>
      if (← peek) ∈ ends then emptyScalar else node fuel false false

/-- The value after a colon in a flow collection; empty without colon. -/
def flowValue (fuel : Nat) (closing : Token) : Compose Node := do
  match fuel with
  | 0 => fail .tooLong
  | fuel + 1 =>
      match ← peek with
      | .value =>
          advance
          flowPart fuel [.flowEntry, closing]
      | _ => emptyScalar

/-- The items of a flow sequence.  A key makes a mapping of one entry. -/
def flowItems (fuel : Nat) (taken : List Node) : Compose (List Node) := do
  match fuel with
  | 0 => fail .tooLong
  | fuel + 1 =>
      match ← peek with
      | .flowSequenceEnd =>
          advance
          return taken.reverse
      | token =>
          if !taken.isEmpty then
            if token == .flowEntry then advance else fail (.missing "',' or ']'")
          match ← peek with
          | .key =>
              advance
              count 2
              let key ← flowPart fuel [.value, .flowEntry, .flowSequenceEnd]
              let value ← flowValue fuel .flowSequenceEnd
              flowItems fuel (.mapping none [(key, value)] :: taken)
          | .flowSequenceEnd =>
              advance
              return taken.reverse
          | _ =>
              let item ← node fuel false false
              flowItems fuel (item :: taken)

def flowEntries (fuel : Nat) (taken : List (Node × Node)) : Compose (List (Node × Node)) := do
  match fuel with
  | 0 => fail .tooLong
  | fuel + 1 =>
      match ← peek with
      | .flowMappingEnd =>
          advance
          return taken.reverse
      | token =>
          if !taken.isEmpty then
            if token == .flowEntry then advance else fail (.missing "',' or '\x7d'")
          match ← peek with
          | .key =>
              advance
              let key ← flowPart fuel [.value, .flowEntry, .flowMappingEnd]
              let value ← flowValue fuel .flowMappingEnd
              flowEntries fuel ((key, value) :: taken)
          | .flowMappingEnd =>
              advance
              return taken.reverse
          | _ =>
              let key ← node fuel false false
              let value ← emptyScalar
              flowEntries fuel ((key, value) :: taken)

end

def commonHandles : List (String × String) :=
  [("!", "!"), ("!!", "tag:yaml.org,2002:")]

def directives (tokens : List Token) (version : Bool) (handles : List (String × String)) :
    Except Fault (List Token × List (String × String)) :=
  match tokens with
  | .versionDirective major minor :: rest =>
      if version || major ≠ 1 || !(minor == 1 || minor == 2) then .error .badDirective
      else directives rest true handles
  | .tagDirective handle expansion :: rest =>
      if (handles.lookup handle).isSome then .error .badDirective
      else directives rest version ((handle, expansion) :: handles)
  | tokens => .ok (tokens, handles)

/-- Whether a token cannot start the content of a document. -/
def endsContent : Token → Bool
  | .versionDirective _ _ => true
  | .tagDirective _ _ => true
  | .documentStart => true
  | .documentEnd => true
  | .streamEnd => true
  | _ => false

end Compose

private def composeRoot (tokens : List Token) (handles : List (String × String)) :
    Except Fault (Tree × List Token) := do
  let action : Compose Node := Compose.node (8 * tokens.length + 8) true false
  let (root, composer) ← action.run ⟨tokens, [], [], handles ++ Compose.commonHandles, 0⟩
  .ok (⟨root, composer.size⟩, composer.tokens)

/-- Composes the only document among tokens; nothing at all is an empty scalar. -/
def treeOfTokens (tokens : List Token) : Except Fault Tree := do
  let nothing : Tree := ⟨.scalar none "" true, 1⟩
  let (tree, rest) ← match tokens with
    | [] => .ok (nothing, [])
    | .streamEnd :: _ => .ok (nothing, [])
    | first :: _ =>
        if Compose.endsContent first && first ≠ .documentEnd then do
          let (tokens, handles) ← Compose.directives tokens false []
          match tokens with
          | .documentStart :: rest =>
              if Compose.endsContent (rest.head?.getD .streamEnd) then .ok (nothing, rest)
              else composeRoot rest handles
          | _ => .error (.missing "<document start>")
        else composeRoot tokens []
  match rest.dropWhile (· == .documentEnd) with
  | [] => .ok tree
  | .streamEnd :: _ => .ok tree
  | _ => .error .severalDocuments

end Stencil.Yaml
