import Stencil.Template.Syntax
import Stencil.Text.Letter

/-!
# Blanks around statements

A dash inside of a mark removes the blanks of the text on that side of it.
Removal never goes beyond the neighbouring text, and a text that becomes empty
is left out.  The dashes of a statement with a body work on both sides of its
first and its last mark.
-/

namespace Stencil.Template

open Stencil.Text

/-- The nodes, from the last to the first, without blanks at the end of the
last one. -/
def trimLast : List Node → List Node
  | .text text :: rest =>
      let kept := trimEnd text.toList
      if kept.isEmpty then rest else .text (String.ofList kept) :: rest
  | nodes => nodes

/-- A body whose blanks are being removed. -/
structure Tidying where
  /-- The nodes so far, from the last to the first. -/
  done : List Node
  /-- The node before was a text. -/
  afterText : Bool
  /-- Blanks at the start of a text that comes next are removed. -/
  trimNext : Bool

namespace Tidying

/-- Adds a node that is no text, with the dashes on its outer sides. -/
def add (state : Tidying) (before after : Bool) (node : Node) : Tidying :=
  ⟨node :: (if state.afterText && before then trimLast state.done else state.done), false, after⟩

def addText (state : Tidying) (text : String) : Tidying :=
  if state.trimNext then
    let kept := trimStart text.toList
    ⟨if kept.isEmpty then state.done else .text (String.ofList kept) :: state.done, true, false⟩
  else ⟨.text text :: state.done, true, false⟩

end Tidying

/-- Whether the first mark of the first branch has a dash in front. -/
def opensTrimmed : List (Trim × Expression × List Node) → Bool
  | (trim, _, _) :: _ => trim.before
  | [] => false

/-- A raw text without the blanks at the trimmed ends. -/
def trimRaw (start stop : Bool) (text : String) : String :=
  let chars := text.toList
  let chars := if start then trimStart chars else chars
  String.ofList (if stop then trimEnd chars else chars)

/-- Adds a node whose inner blanks have been removed. -/
def Tidying.step (state : Tidying) : Node → Tidying
  | .text text => state.addText text
  | .parentBlock => ⟨.parentBlock :: state.done, false, state.trimNext⟩
  | .comment trim => state.add trim.before trim.after (.comment trim)
  | .output trim expression => state.add trim.before trim.after (.output trim expression)
  | .assign trim name value outside =>
      state.add trim.before trim.after (.assign trim name value outside)
  | .inclusion trim names optional =>
      state.add trim.before trim.after (.inclusion trim names optional)
  | .importing trim source space => state.add trim.before trim.after (.importing trim source space)
  | .extension trim parent => state.add trim.before trim.after (.extension trim parent)
  | .leave trim => state.add trim.before trim.after (.leave trim)
  | .next trim => state.add trim.before trim.after (.next trim)
  | .raw opening text closing =>
      state.add opening.before closing.after
        (.raw opening (trimRaw opening.after closing.before text) closing)
  | .filtered opening filter body closing =>
      state.add opening.before closing.after (.filtered opening filter body closing)
  | .block opening name body closing =>
      state.add opening.before closing.after (.block opening name body closing)
  | .definition opening name parameters body closing =>
      state.add opening.before closing.after (.definition opening name parameters body closing)
  | .loop opening key item container body otherwise closing =>
      state.add opening.before closing.after
        (.loop opening key item container body otherwise closing)
  | .branches branches otherwise closing =>
      state.add (opensTrimmed branches) closing.after (.branches branches otherwise closing)

/-- A body whose nodes have had their inner blanks removed; the trim tells
whether there are dashes in the marks around the body. -/
def tidyBody (around : Trim) (nodes : List Node) : List Node :=
  let state := nodes.foldl Tidying.step ⟨[], false, around.after⟩
  (if around.before then trimLast state.done else state.done).reverse

/-- The dash in front of the mark after a branch. -/
def closesTrimmed (rest : List (Trim × Expression × List Node))
    (otherwise : Option (Trim × List Node)) (closing : Trim) : Bool :=
  match rest, otherwise with
  | (trim, _, _) :: _, _ => trim.before
  | [], some (trim, _) => trim.before
  | [], none => closing.before

mutual

/-- The node without the blanks that dashes inside of it remove. -/
def tidyInside : Node → Node
  | .filtered opening filter body closing =>
      .filtered opening filter (tidyBody ⟨closing.before, opening.after⟩ (tidyAll body)) closing
  | .block opening name body closing =>
      .block opening name (tidyBody ⟨closing.before, opening.after⟩ (tidyAll body)) closing
  | .definition opening name parameters body closing =>
      .definition opening name parameters
        (tidyBody ⟨closing.before, opening.after⟩ (tidyAll body)) closing
  | .loop opening key item container body otherwise closing =>
      .loop opening key item container (tidyBody ⟨closing.before, opening.after⟩ (tidyAll body))
        otherwise closing
  | .branches branches otherwise closing =>
      .branches (tidyBranches otherwise closing branches) (tidyOtherwise closing otherwise) closing
  | node => node

/-- The nodes without the blanks that dashes inside of each of them remove. -/
def tidyAll : List Node → List Node
  | [] => []
  | node :: rest => tidyInside node :: tidyAll rest

/-- Branches without the blanks that dashes at the ends of their bodies remove. -/
def tidyBranches (otherwise : Option (Trim × List Node)) (closing : Trim) :
    List (Trim × Expression × List Node) → List (Trim × Expression × List Node)
  | [] => []
  | (trim, condition, body) :: rest =>
      (trim, condition,
        tidyBody ⟨closesTrimmed rest otherwise closing, trim.after⟩ (tidyAll body)) ::
      tidyBranches otherwise closing rest

/-- The other body without the blanks at its trimmed ends. -/
def tidyOtherwise (closing : Trim) : Option (Trim × List Node) → Option (Trim × List Node)
  | some (trim, body) => some (trim, tidyBody ⟨closing.before, trim.after⟩ (tidyAll body))
  | none => none

end

/-- A template without the blanks that dashes remove. -/
def tidy (nodes : List Node) : List Node :=
  tidyBody ⟨false, false⟩ (tidyAll nodes)

end Stencil.Template
