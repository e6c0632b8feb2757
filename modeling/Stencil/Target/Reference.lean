import Stencil.Text.Words

/-!
# Leading-dot references

Target expressions may name a variable as `{{.PetName}}`.  Such a reference is
two opening braces, an optional dash, blank space, a dot and an ASCII
identifier.  It is rewritten to the variable of the same words in snake case:
`{{ pet_name`.
-/

namespace Stencil.Target

open Stencil.Text

/-- The letters and the underscore with which an identifier starts. -/
def isNameStart (char : Char) : Bool :=
  char.isAlpha || char = '_'

def isNameChar (char : Char) : Bool :=
  char.isAlphanum || char = '_'

/-- A reference found at the start of a text. -/
structure Reference where
  /-- A dash follows the opening braces. -/
  dash : Bool
  /-- The identifier after the dot. -/
  name : List Char
  /-- The text after the identifier. -/
  rest : List Char
deriving DecidableEq

namespace Reference

/-- Reads what follows the opening braces and the dash. -/
def afterDash? (dash : Bool) (text : List Char) : Option Reference :=
  match text.dropWhile isBlank with
  | '.' :: first :: rest =>
      if isNameStart first then
        some ⟨dash, first :: rest.takeWhile isNameChar, rest.dropWhile isNameChar⟩
      else none
  | _ => none

def find? : List Char → Option Reference
  | '{' :: '{' :: '-' :: rest => afterDash? true rest
  | '{' :: '{' :: rest => afterDash? false rest
  | _ => none

def variableName (reference : Reference) : List Char :=
  snake reference.name

/-- The text that takes the place of the reference. -/
def replacement (reference : Reference) : List Char :=
  '{' :: '{' :: ((if reference.dash then ['-'] else []) ++ ' ' :: reference.variableName)

end Reference

private theorem length_dropWhile_le {α : Type} (keep : α → Bool) (items : List α) :
    (items.dropWhile keep).length ≤ items.length :=
  (List.dropWhile_sublist keep).length_le

theorem Reference.length_rest_afterDash? {dash : Bool} {text : List Char} {reference : Reference}
    (hafter : Reference.afterDash? dash text = some reference) :
    reference.rest.length < text.length := by
  unfold Reference.afterDash? at hafter
  split at hafter
  · rename_i first rest htext
    split at hafter
    · simp only [Option.some.injEq] at hafter
      subst hafter
      have hblanks := length_dropWhile_le isBlank text
      have hname := length_dropWhile_le isNameChar rest
      rw [htext] at hblanks
      simp only [List.length_cons] at hblanks
      simp only
      omega
    · simp at hafter
  · simp at hafter

/-- What is left after a reference is shorter than the text, so the rewriting ends. -/
theorem Reference.length_rest {text : List Char} {reference : Reference}
    (hfind : Reference.find? text = some reference) : reference.rest.length < text.length := by
  unfold Reference.find? at hfind
  split at hfind
  · have hrest := Reference.length_rest_afterDash? hfind
    simp only [List.length_cons]
    omega
  · have hrest := Reference.length_rest_afterDash? hfind
    simp only [List.length_cons]
    omega
  · simp at hfind

/-- The text with every reference replaced, from left to right; a replaced
reference is not read again. -/
def rewriteReferences (text : List Char) : List Char :=
  match text with
  | [] => []
  | char :: rest =>
      match _hfind : Reference.find? (char :: rest) with
      | some reference => reference.replacement ++ rewriteReferences reference.rest
      | none => char :: rewriteReferences rest
termination_by text.length
decreasing_by
  · exact Reference.length_rest _hfind
  · simp

/-- The target expression in the form that the template language reads. -/
def normalizeExpression (expression : String) : String :=
  String.ofList (rewriteReferences expression.toList)

end Stencil.Target
