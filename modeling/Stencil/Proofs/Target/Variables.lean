import Stencil.Proofs.Text.Humps
import Stencil.Proofs.Target.References

/-!
# Variables named by references

The names of fields are spelled in Pascal case and the names of variables in snake case.
A reference to a field becomes the variable of the same words whenever these words can be
told apart in the name of the field.
-/

namespace Stencil.Target

open Stencil.Text

theorem isNameChar_of_isPlain {char : Char} (hplain : isPlain char = true) :
    isNameChar char = true := by
  simp [isNameChar, isAlphanum_of_isPlain hplain]

theorem isNameStart_toUpper {char : Char} (hlower : char.isLower = true) :
    isNameStart char.toUpper = true := by
  unfold isNameStart Char.isAlpha
  simp [isUpper_toUpper hlower]

theorem isName_capitalized {word : List Char} (hword : IsVariableWord word) :
    IsName (capitalized word) := by
  obtain ⟨first, rest, rfl, hlower, hcapitalized⟩ := exists_capital hword
  rw [hcapitalized]
  exact ⟨isNameStart_toUpper hlower, fun char hchar => isNameChar_of_isPlain (hword.2 char hchar)⟩

/-- A name stays one when characters of names are put behind it. -/
theorem isName_append {name more : List Char} (hname : IsName name)
    (hmore : ∀ char ∈ more, isNameChar char = true) : IsName (name ++ more) := by
  cases name with
  | nil => exact hname.elim
  | cons first rest =>
      refine ⟨hname.1, fun char hchar => ?_⟩
      exact (List.mem_append.mp hchar).elim (hname.2 char) (hmore char)

/-- The words of a variable make the name of a field. -/
theorem isName_pascal {first : List Char} {rest : List (List Char)}
    (hwords : ∀ word ∈ first :: rest, IsVariableWord word) :
    IsName (pascal (['_'].intercalate (first :: rest))) := by
  rw [pascal_intercalate hwords, List.flatMap_cons]
  apply isName_append (isName_capitalized (hwords first List.mem_cons_self))
  intro char hchar
  obtain ⟨word, hword, hchar⟩ := List.mem_flatMap.mp hchar
  have hname := isName_capitalized (hwords word (List.mem_cons_of_mem first hword))
  exact isNameChar_of_isName hname char hchar

/-- A reference that is closed right behind its name becomes a variable between blanks. -/
theorem rewriteReferences_of_isName {name : List Char} (hname : IsName name) :
    rewriteReferences ('{' :: '{' :: '.' :: (name ++ ['}', '}'])) =
      '{' :: '{' :: ' ' :: (snake name ++ ['}', '}']) := by
  have hstarts : Reference.StartsText ⟨false, name, ['}', '}']⟩
      ('{' :: '{' :: '.' :: (name ++ ['}', '}'])) :=
    ⟨hname, rfl, [], by simp, rfl⟩
  have hclosing : rewriteReferences ['}', '}'] = ['}', '}'] :=
    rewriteReferences_of_not_hasReference (by decide)
  rw [rewriteReferences_of_startsText hstarts, hclosing]
  rfl

/-- The words of a variable are found again in its Pascal case and in its camel case, so a
reference in Pascal case names the variable. -/
theorem variable_of_words {words : List String} (hne : words ≠ [])
    (hwords : ∀ word ∈ words, IsVariableWord word.toList)
    (hlong : ∀ word ∈ words.dropLast, 2 ≤ word.length) :
    snakeCase (pascalCase ("_".intercalate words)) = "_".intercalate words ∧
    snakeCase (camelCase ("_".intercalate words)) = "_".intercalate words ∧
    normalizeExpression ("\x7b\x7b." ++ pascalCase ("_".intercalate words) ++ "\x7d\x7d") =
      "\x7b\x7b " ++ "_".intercalate words ++ "\x7d\x7d" := by
  obtain ⟨word, rest, rfl⟩ := List.exists_cons_of_ne_nil hne
  have htext : ("_".intercalate (word :: rest)).toList =
      ['_'].intercalate (word.toList :: rest.map String.toList) := by
    rw [String.toList_intercalate]
    rfl
  have hparts : ∀ part ∈ word.toList :: rest.map String.toList, IsVariableWord part := by
    rw [← List.map_cons, List.forall_mem_map]
    exact hwords
  have hlengths : ∀ part ∈ (word.toList :: rest.map String.toList).dropLast,
      2 ≤ part.length := by
    rw [← List.map_cons, ← List.map_dropLast, List.forall_mem_map]
    exact hlong
  have hpascal := snake_pascal_intercalate hparts hlengths
  have hcamel := snake_camel_intercalate hparts hlengths
  have hname := isName_pascal hparts
  rw [← htext] at hpascal hcamel hname
  refine ⟨String.toList_injective ?_, String.toList_injective ?_, String.toList_injective ?_⟩
  · simpa only [snakeCase, pascalCase, String.toList_ofList] using hpascal
  · simpa only [snakeCase, camelCase, String.toList_ofList] using hcamel
  · have hrewritten := rewriteReferences_of_isName hname
    rw [hpascal] at hrewritten
    simpa [normalizeExpression, pascalCase] using hrewritten

theorem variable_of_words_pet :
    snakeCase "PetV2X" = "pet_v2_x" ∧
      normalizeExpression "\x7b\x7b.PetV2X\x7d\x7d" = "\x7b\x7b pet_v2_x\x7d\x7d" := by
  let words := ["pet", "v2", "x"]
  have hpascal : pascalCase ("_".intercalate words) = "PetV2X" := by decide +kernel
  have hname : "_".intercalate words = "pet_v2_x" := by decide +kernel
  have hne : words ≠ [] := List.cons_ne_nil _ _
  obtain ⟨hsnake, -, hexpression⟩ := variable_of_words hne (by decide) (by decide)
  rw [hpascal, hname] at hsnake hexpression
  exact ⟨hsnake, by simpa using hexpression⟩

end Stencil.Target
