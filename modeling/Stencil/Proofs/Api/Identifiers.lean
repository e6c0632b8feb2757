import Stencil.Api.Operations
import Stencil.Proofs.Text.Cases

/-!
# Identifiers made of routes

An operation that states no identifier gets one made of its method and its path.  The method
stays as it is, and the words of the path follow, each behind an underscore.  A method has no
underscore, so it can be told from the words: two routes have the same identifier when they
have the same method and the words of their paths are the same.
-/

namespace Stencil.Text

/-! ## The method and the words of the path -/

/-- One or more lowercase letters of ASCII. -/
def IsVerb (method : String) : Prop :=
  method ≠ "" ∧ ∀ char ∈ method.toList, char.isLower = true

instance : DecidablePred IsVerb := fun method =>
  have : Decidable (∀ char ∈ method.toList, char.isLower = true) := List.decidableBAll _ _
  inferInstanceAs (Decidable (_ ∧ _))

/-- The path with an underscore in place of what is neither a letter nor a digit. -/
def maskedPath (path : String) : String :=
  path.map fun char => if isAlphanumeric char then char else '_'

theorem takeWhile_underscored (words : List (List Char)) :
    (underscored words).takeWhile (· != '_') = [] := by
  cases words <;> simp [underscored]

/-- Snake case leaves out the underscore in front of the first word. -/
theorem underscored_writtenWords (text : List Char) :
    underscored (writtenWords text) = if snake text = [] then [] else '_' :: snake text := by
  have hsnake : snake text = (underscored (writtenWords text)).tail := by
    rw [snake_eq_intercalate, tail_underscored]
  cases hwords : writtenWords text with
  | nil => simp [hsnake, hwords, underscored]
  | cons word rest =>
      have hmem : word ∈ writtenWords text := by simp [hwords]
      have hne : lowered word ++ underscored rest ≠ [] :=
        List.append_ne_nil_of_left_ne_nil (lowered_ne_nil (ne_nil_of_mem_writtenWords hmem)) _
      rw [hsnake, hwords, underscored_cons, List.cons_append, List.tail_cons, if_neg hne]

/-- The words of an ASCII text are groups of lowercase letters and digits. -/
theorem exists_groups_of_isAscii {text : List Char} (hascii : ∀ char ∈ text, isAscii char = true) :
    ∃ groups : List (List Char),
      (∀ group ∈ groups, group ≠ [] ∧ ∀ char ∈ group, isPlain char = true) ∧
      underscored (writtenWords text) = groups.flatMap ('_' :: ·) := by
  refine ⟨(writtenWords text).map lowered, ?_, ?_⟩
  · rw [List.forall_mem_map]
    intro word hword
    refine ⟨lowered_ne_nil (ne_nil_of_mem_writtenWords hword), ?_⟩
    exact isPlain_of_mem_lowered
      (fun char hchar => hascii char (of_mem_writtenWords hword hchar).1)
      (fun char hchar => (of_mem_writtenWords hword hchar).2.2)
  · rw [List.flatMap_map]
    rfl

/-- Masking adds no letter from outside ASCII. -/
theorem isAscii_of_mem_maskedPath {path : String}
    (hascii : ∀ char ∈ path.toList, isAscii char = true) :
    ∀ char ∈ (maskedPath path).toList, isAscii char = true := by
  rw [maskedPath, String.toList_map, List.forall_mem_map]
  intro char hchar
  split
  · exact hascii char hchar
  · rfl

section Verb

variable {method : String} (hmethod : IsVerb method)
include hmethod

theorem isLow_of_isVerb : IsLow method.toList where
  ne_nil := mt String.toList_eq_nil_iff.mp hmethod.1
  isAlphanumeric char hchar :=
    isAlphanumeric_of_isPlain (isPlain_of_isLower (hmethod.2 char hchar))
  isUppercase char hchar := isUppercase_of_isPlain (isPlain_of_isLower (hmethod.2 char hchar))

/-- The words of a route are its method and the words of its path. -/
theorem toList_routeIdentifier (path : String) :
    (routeIdentifier method path).toList =
      method.toList ++ underscored (writtenWords (maskedPath path).toList) := by
  have hlow := isLow_of_isVerb hmethod
  have hkept : masked method.toList = method.toList := by
    apply (List.map_congr_left _).trans (List.map_id _)
    intro char hchar
    exact if_pos (hlow.isAlphanumeric char hchar)
  have hmasked : masked (method.toList ++ '_' :: path.toList) =
      method.toList ++ '_' :: (maskedPath path).toList := by
    rw [masked, List.map_append, ← masked, hkept, maskedPath, String.toList_map]
    rfl
  rw [routeIdentifier, String.toList_ofList, hmasked, snake_eq_intercalate,
    hlow.writtenWords_append rfl, ← tail_underscored, underscored_cons, List.cons_append,
    List.tail_cons, lowered_eq_self hlow.isUppercase]

/-- An identifier is the verb, followed by the path in snake case unless nothing is left of it. -/
theorem routeIdentifier_eq (path : String) :
    routeIdentifier method path =
      if snakeCase (maskedPath path) = "" then method
      else method ++ "_" ++ snakeCase (maskedPath path) := by
  apply String.toList_injective
  rw [toList_routeIdentifier hmethod, underscored_writtenWords, snakeCase]
  by_cases hempty : snake (maskedPath path).toList = []
  · simp [hempty]
  · have hsome : String.ofList (snake (maskedPath path).toList) ≠ "" :=
      mt String.ofList_eq_empty_iff.mp hempty
    rw [if_neg hempty, if_neg hsome]
    simp

/-- The method is what stands before the first underscore. -/
theorem takeWhile_routeIdentifier (path : String) :
    (routeIdentifier method path).toList.takeWhile (· != '_') = method.toList := by
  have hplain : ∀ char ∈ method.toList, (char != '_') = true := by
    intro char hchar
    rw [bne_iff_ne]
    rintro rfl
    exact absurd (hmethod.2 '_' hchar) (by decide)
  rw [toList_routeIdentifier hmethod, List.takeWhile_append_of_pos hplain,
    takeWhile_underscored, List.append_nil]

theorem routeIdentifier_eq_iff {other : String} (hother : IsVerb other) (path next : String) :
    routeIdentifier method path = routeIdentifier other next ↔
      method = other ∧ snakeCase (maskedPath path) = snakeCase (maskedPath next) := by
  constructor
  · intro heq
    -- Neither method has an underscore, so the words of the paths are what is left.
    obtain rfl : method = other := by
      apply String.toList_injective
      rw [← takeWhile_routeIdentifier hmethod path, heq, takeWhile_routeIdentifier hother next]
    have hwords : underscored (writtenWords (maskedPath path).toList) =
        underscored (writtenWords (maskedPath next).toList) := by
      have hlists := congrArg String.toList heq
      rw [toList_routeIdentifier hmethod, toList_routeIdentifier hmethod] at hlists
      exact List.append_cancel_left hlists
    refine ⟨rfl, ?_⟩
    rw [snakeCase, snakeCase, snake_eq_intercalate, snake_eq_intercalate, ← tail_underscored,
      ← tail_underscored, hwords]
  · rintro ⟨rfl, hsnake⟩
    rw [routeIdentifier_eq hmethod, routeIdentifier_eq hmethod, hsnake]

end Verb

/-- The identifier of a route is its method, with the snake case of its path behind an
underscore unless that is empty.  Two routes have the same one exactly when they have the same
method and the same snake case of their paths.  Of an ASCII path it has groups of lowercase
letters and digits, each behind an underscore. -/
theorem routeIdentifier_outcome {method : String} (hmethod : IsVerb method) (path : String) :
    (routeIdentifier method path =
      if snakeCase (maskedPath path) = "" then method
      else method ++ "_" ++ snakeCase (maskedPath path)) ∧
    (∀ other next : String, IsVerb other →
      (routeIdentifier method path = routeIdentifier other next ↔
        method = other ∧ snakeCase (maskedPath path) = snakeCase (maskedPath next))) ∧
    routeIdentifier method path ≠ "" ∧
    ((∀ char ∈ path.toList, isAscii char = true) →
      ∃ groups : List (List Char),
        (∀ group ∈ groups, group ≠ [] ∧ ∀ char ∈ group, char.isLower ∨ char.isDigit) ∧
        (routeIdentifier method path).toList = method.toList ++ groups.flatMap ('_' :: ·)) := by
  refine ⟨routeIdentifier_eq hmethod path,
    fun other next hother => routeIdentifier_eq_iff hmethod hother path next, ?_, ?_⟩
  · rw [ne_eq, ← String.toList_eq_nil_iff, toList_routeIdentifier hmethod]
    exact List.append_ne_nil_of_left_ne_nil (isLow_of_isVerb hmethod).ne_nil _
  · intro hascii
    obtain ⟨groups, hgroups, hwords⟩ :=
      exists_groups_of_isAscii (isAscii_of_mem_maskedPath hascii)
    refine ⟨groups, fun group hgroup => ?_, by rw [toList_routeIdentifier hmethod, hwords]⟩
    exact ⟨(hgroups group hgroup).1, fun char hchar => by
      simpa [isPlain] using (hgroups group hgroup).2 char hchar⟩

/-- A capital, a hyphen and an empty component make the same words as braces and humps do. -/
theorem routeIdentifier_outcome_pets :
    IsVerb "get" ∧ (∀ char ∈ "/pets/\x7bpetId\x7d".toList, isAscii char = true) ∧
      routeIdentifier "get" "/pets/\x7bpetId\x7d" = "get_pets_pet_id" ∧
      routeIdentifier "get" "/pets/\x7bpetId\x7d" = routeIdentifier "get" "/Pets//pet-id" ∧
      routeIdentifier "get" "/pets/\x7bpetId\x7d" ≠ routeIdentifier "getpets" "/petId" ∧
      ∃ groups : List (List Char),
        (∀ group ∈ groups, group ≠ [] ∧ ∀ char ∈ group, char.isLower ∨ char.isDigit) ∧
        (routeIdentifier "get" "/pets/\x7bpetId\x7d").toList =
          "get".toList ++ groups.flatMap ('_' :: ·) := by
  have hget : IsVerb "get" := by decide
  have hjoined : IsVerb "getpets" := by decide
  have hascii : ∀ char ∈ "/pets/\x7bpetId\x7d".toList, isAscii char = true :=
    List.all_eq_true.mp (by decide +kernel)
  have hsnake : snakeCase (maskedPath "/pets/\x7bpetId\x7d") = "pets_pet_id" := by
    decide +kernel
  have hagain : snakeCase (maskedPath "/Pets//pet-id") = "pets_pet_id" := by decide +kernel
  obtain ⟨hshape, hsame, -, hgroups⟩ := routeIdentifier_outcome hget "/pets/\x7bpetId\x7d"
  rw [hsnake] at hshape
  refine ⟨hget, hascii, hshape, ?_, ?_, hgroups hascii⟩
  · exact (hsame "get" "/Pets//pet-id" hget).mpr ⟨rfl, hsnake.trans hagain.symm⟩
  · intro heq
    exact absurd ((hsame "getpets" "/petId" hjoined).mp heq).1 (by decide)

end Stencil.Text

namespace Stencil.Api

open Text

/-! ## Operations that share an identifier -/

theorem isVerb_word (method : Method) : IsVerb method.word := by
  cases method <;> decide

theorem Method.word_injective {left right : Method} (hword : left.word = right.word) :
    left = right := by
  revert hword
  cases left <;> cases right <;> decide

/-- Two operations that state no identifier share one when they have the same method and the
words of their paths are the same. -/
theorem Site.id_eq_iff {left right : Site} (hleft : left.body.text? "operationId" = none)
    (hright : right.body.text? "operationId" = none) :
    left.id = right.id ↔
      left.method = right.method ∧
        snakeCase (maskedPath left.path) = snakeCase (maskedPath right.path) := by
  have hword : left.method.word = right.method.word ↔ left.method = right.method :=
    ⟨Method.word_injective, congrArg Method.word⟩
  rw [Site.id, Site.id, hleft, hright, Option.getD_none, Option.getD_none,
    routeIdentifier_eq_iff (isVerb_word _) (isVerb_word _), hword]

end Stencil.Api
