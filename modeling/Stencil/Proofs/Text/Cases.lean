import Stencil.Proofs.Text.Words

/-!
# Identifiers that are converted again

Words in lower case that are joined with separators are found again as they are, whichever
separators these are.  So snake case and kebab case are normal forms: the conversions take
an identifier in these cases for the identifier that it was made of.  That holds as long as
no uppercase letter is lowered to something else than letters and digits; `İ`, which is
lowered to a letter and a mark, is an exception, and ASCII has none.
-/

namespace Stencil.Text

/-! ## Words in lower case -/

theorem lowered_eq_self {word : List Char} (hword : ∀ char ∈ word, isUppercase char = false) :
    lowered word = word := by
  have hchars : word.flatMap (fun char => if isUppercase char then lowercase char else [char]) =
      word.flatMap fun char => [char] := by
    apply List.flatMap_congr
    intro char hchar
    simp [hword char hchar]
  rw [lowered, hchars, List.flatMap_singleton']

/-- A word of letters and digits none of which is an uppercase letter. -/
structure IsLow (word : List Char) : Prop where
  ne_nil : word ≠ []
  isAlphanumeric : ∀ char ∈ word, isAlphanumeric char = true
  isUppercase : ∀ char ∈ word, isUppercase char = false

namespace IsLow

variable {word : List Char} (hlow : IsLow word)
include hlow

theorem isSeparator : ∀ char ∈ word, isSeparator char = false := fun char hchar =>
  isSeparator_of_isAlphanumeric (hlow.isAlphanumeric char hchar)

theorem filter_isRead : word.filter isRead = word := by
  rw [List.filter_eq_self]
  intro char hchar
  simp [isRead, hlow.isAlphanumeric char hchar]

/-- A word is cut off when it ends before the text behind it. -/
theorem stretches_append {rest : List Char}
    (hend : ∀ last ∈ word.getLast?, endsBefore last rest = true) :
    stretches (word ++ rest) = word :: stretches rest :=
  Text.stretches_append hlow.ne_nil hlow.isSeparator
    (fun char hchar => hlow.isUppercase char (List.mem_of_mem_tail hchar)) hend

/-- A word in lower case is cut off as a whole in front of a separator. -/
theorem writtenWords_append {separator : Char} (hseparator : Text.isSeparator separator = true)
    (rest : List Char) : writtenWords (word ++ separator :: rest) = word :: writtenWords rest := by
  have hread : isRead separator = true := by simp [isRead, hseparator]
  have hend : ∀ last ∈ word.getLast?,
      endsBefore last (separator :: rest.filter isRead) = true := by
    intro last _
    simp [endsBefore, hseparator]
  rw [writtenWords_eq_stretches, writtenWords_eq_stretches, List.filter_append,
    hlow.filter_isRead, List.filter_cons_of_pos hread, hlow.stretches_append hend,
    stretches_separator hseparator]

end IsLow

section Joined

variable {words : List (List Char)} (hwords : ∀ word ∈ words, IsLow word)
include hwords

theorem map_lowered_of_isLow : words.map lowered = words :=
  calc
    words.map lowered = words.map id :=
      List.map_congr_left fun word hword => lowered_eq_self (hwords word hword).isUppercase
    _ = words := List.map_id words

/-- Words in lower case are found again behind each kind of separator. -/
theorem writtenWords_intercalate {separator : Char} (hseparator : isSeparator separator = true) :
    writtenWords ([separator].intercalate words) = words := by
  induction words with
  | nil => rfl
  | cons word rest ih =>
      have hword : IsLow word := hwords word List.mem_cons_self
      cases rest with
      | nil =>
          rw [List.intercalate_singleton, writtenWords_eq_stretches, hword.filter_isRead,
            ← List.append_nil word, hword.stretches_append fun _ _ => rfl, List.append_nil]
          rfl
      | cons next others =>
          have hrest := ih fun other hother => hwords other (List.mem_cons_of_mem word hother)
          rw [List.intercalate_cons_cons, List.append_assoc, List.singleton_append,
            hword.writtenWords_append hseparator, hrest]

theorem snake_intercalate {separator : Char} (hseparator : isSeparator separator = true) :
    snake ([separator].intercalate words) = ['_'].intercalate words := by
  rw [snake_eq_intercalate, writtenWords_intercalate hwords hseparator,
    map_lowered_of_isLow hwords]

end Joined

/-! ## Identifiers of ASCII -/

theorem isPlain_of_mem_lowered {word : List Char} (hascii : ∀ char ∈ word, isAscii char = true)
    (hletter : ∀ char ∈ word, isUppercase char = true ∨ isAlphanumeric char = true) :
    ∀ image ∈ lowered word, isPlain image = true := by
  intro image himage
  obtain ⟨char, hchar, himage⟩ := List.mem_flatMap.mp himage
  split at himage
  · rename_i hupper
    exact isPlain_of_mem_lowercase (hascii char hchar) hupper image himage
  · rename_i hlow
    obtain rfl : image = char := List.mem_singleton.mp himage
    exact isPlain_of_isAlphanumeric (hascii image hchar)
      ((hletter image hchar).resolve_left hlow) (Bool.eq_false_iff.mpr hlow)

theorem eq_or_mem_of_mem_intercalate {separator char : Char} {words : List (List Char)}
    (hchar : char ∈ [separator].intercalate words) :
    char = separator ∨ ∃ word ∈ words, char ∈ word := by
  induction words with
  | nil => simp at hchar
  | cons word rest ih =>
      cases rest with
      | nil => exact .inr ⟨word, List.mem_cons_self, by simpa using hchar⟩
      | cons next others =>
          rw [List.intercalate_cons_cons, List.append_assoc, List.mem_append, List.mem_append,
            List.mem_singleton] at hchar
          rcases hchar with hword | rfl | hrest
          · exact .inr ⟨word, List.mem_cons_self, hword⟩
          · exact .inl rfl
          · exact (ih hrest).imp_right fun ⟨other, hother, hmem⟩ =>
              ⟨other, List.mem_cons_of_mem word hother, hmem⟩

/-- Snake case is empty only when there is nothing to write. -/
theorem snake_ne_nil {text : List Char} {char : Char} (hchar : char ∈ text)
    (hletter : isAlphanumeric char = true) : snake text ≠ [] := by
  have hmem : char ∈ (stretches (text.filter isRead)).flatten := by
    rw [flatten_stretches, List.mem_filter, List.mem_filter]
    simp [hchar, isRead, hletter, isSeparator_of_isAlphanumeric hletter]
  obtain ⟨word, hword, -⟩ := List.mem_flatten.mp hmem
  rw [← writtenWords_eq_stretches] at hword
  intro hempty
  have hnone : words text = [] := by rw [words, hempty]; rfl
  rw [words_eq_map_lowered, List.map_eq_nil_iff] at hnone
  simp [hnone] at hword

section Ascii

variable {text : List Char} (hascii : ∀ char ∈ text, isAscii char = true)
include hascii

theorem isPlain_of_mem_snake : ∀ char ∈ snake text, char = '_' ∨ isPlain char = true := by
  intro char hchar
  rw [snake_eq_intercalate] at hchar
  apply (eq_or_mem_of_mem_intercalate hchar).imp_right
  rintro ⟨word, hword, hmem⟩
  obtain ⟨written, hwritten, rfl⟩ := List.mem_map.mp hword
  exact isPlain_of_mem_lowered
    (fun char hchar => hascii char (of_mem_writtenWords hwritten hchar).1)
    (fun char hchar => (of_mem_writtenWords hwritten hchar).2.2) char hmem

/-- Snake case starts with a letter or a digit when there is one. -/
theorem exists_snake_cons {char : Char} (hchar : char ∈ text)
    (hletter : isAlphanumeric char = true) :
    ∃ first rest, snake text = first :: rest ∧ isPlain first = true := by
  obtain ⟨first, rest, hsnake⟩ := List.exists_cons_of_ne_nil (snake_ne_nil hchar hletter)
  refine ⟨first, rest, hsnake, ?_⟩
  apply (isPlain_of_mem_snake hascii first (by simp [hsnake])).resolve_left
  rintro rfl
  have hunderscores := underscores_of_intercalate (isJoinable_lowered text)
  rw [← snake_eq_intercalate, hsnake] at hunderscores
  exact hunderscores.1 ⟨rest, rfl⟩

end Ascii

/-! ## Converting again -/

/-- A text whose uppercase letters are all lowered to letters and digits. -/
def LowersCleanly (text : String) : Prop :=
  ∀ char ∈ text.toList, isUppercase char = true →
    ∀ image ∈ lowercase char, isAlphanumeric image = true ∧ isUppercase image = false

instance (text : String) : Decidable (LowersCleanly text) :=
  have (char : Char) : Decidable (∀ image ∈ lowercase char,
      isAlphanumeric image = true ∧ isUppercase image = false) := List.decidableBAll _ _
  List.decidableBAll _ _

/-- ASCII texts can be put in lower case letter by letter. -/
theorem lowersCleanly_of_isAscii {text : String}
    (hascii : ∀ char ∈ text.toList, isAscii char = true) : LowersCleanly text := by
  intro char hchar hupper image himage
  have hplain := isPlain_of_mem_lowercase (hascii char hchar) hupper image himage
  exact ⟨isAlphanumeric_of_isPlain hplain, isUppercase_of_isPlain hplain⟩

theorem isLow_of_lowersCleanly {text : String} (htext : LowersCleanly text) :
    ∀ word ∈ (writtenWords text.toList).map lowered, IsLow word := by
  intro word hword
  obtain ⟨written, hwritten, rfl⟩ := List.mem_map.mp hword
  have himage : ∀ image ∈ lowered written,
      isAlphanumeric image = true ∧ isUppercase image = false := by
    intro image himage
    obtain ⟨char, hchar, himage⟩ := List.mem_flatMap.mp himage
    obtain ⟨hmem, -, hletter⟩ := of_mem_writtenWords hwritten hchar
    cases hupper : isUppercase char with
    | true => exact htext char hmem hupper image (by simpa [hupper] using himage)
    | false =>
        obtain rfl : image = char := by simpa [hupper] using himage
        exact ⟨by simpa [hupper] using hletter, hupper⟩
  exact ⟨lowered_ne_nil (ne_nil_of_mem_writtenWords hwritten),
    fun image hmem => (himage image hmem).1, fun image hmem => (himage image hmem).2⟩

theorem snakeCase_snakeCase {text : String} (htext : LowersCleanly text) :
    snakeCase (snakeCase text) = snakeCase text := by
  rw [snakeCase, snakeCase, String.toList_ofList, snake_eq_intercalate text.toList,
    snake_intercalate (isLow_of_lowersCleanly htext) rfl]

/-- Kebab case is put back into snake case. -/
theorem snakeCase_kebabCase {text : String} (htext : LowersCleanly text) :
    snakeCase (kebabCase text) = snakeCase text := by
  rw [snakeCase, kebabCase, String.toList_ofList, kebab_eq_intercalate,
    snake_intercalate (isLow_of_lowersCleanly htext) rfl, ← snake_eq_intercalate, snakeCase]

/-- The other cases see of an identifier what snake case sees. -/
theorem eq_of_snakeCase_eq {left right : String} (hsnake : snakeCase left = snakeCase right) :
    ∀ convert ∈ [pascalCase, camelCase, kebabCase], convert left = convert right := by
  have hsnake : snake left.toList = snake right.toList := String.ofList_injective hsnake
  have hpascal : pascal left.toList = pascal right.toList := by
    rw [pascal, pascal, words, words, hsnake]
  simp [pascalCase, camelCase, kebabCase, camel, kebab, hsnake, hpascal]

/-- Snake and kebab case are normal forms that every conversion absorbs. -/
theorem conversions_absorb :
    (∀ text : String, LowersCleanly text →
      snakeCase (snakeCase text) = snakeCase text ∧
      snakeCase (kebabCase text) = snakeCase text ∧
      kebabCase (kebabCase text) = kebabCase text ∧
      ∀ convert ∈ [pascalCase, camelCase, kebabCase],
        convert (snakeCase text) = convert text ∧ convert (kebabCase text) = convert text) ∧
    ∀ text : String, (∀ char ∈ text.toList, isAscii char = true) → LowersCleanly text := by
  refine ⟨fun text htext => ?_, fun text hascii => lowersCleanly_of_isAscii hascii⟩
  have hsnake := snakeCase_snakeCase htext
  have hkebab := snakeCase_kebabCase htext
  refine ⟨hsnake, hkebab, eq_of_snakeCase_eq hkebab kebabCase (by simp), ?_⟩
  intro convert hconvert
  exact ⟨eq_of_snakeCase_eq hsnake convert hconvert, eq_of_snakeCase_eq hkebab convert hconvert⟩

theorem conversions_absorb_state :
    LowersCleanly "ÉtatCivil, v2-HTTPFehler" ∧
      snakeCase "ÉtatCivil, v2-HTTPFehler" = "état_civil_v2_httpfehler" ∧
      snakeCase "état-civil-v2-httpfehler" = "état_civil_v2_httpfehler" ∧
      camelCase "état-civil-v2-httpfehler" = camelCase "ÉtatCivil, v2-HTTPFehler" := by
  have hclean : LowersCleanly "ÉtatCivil, v2-HTTPFehler" := by decide +kernel
  have hsnake : snakeCase "ÉtatCivil, v2-HTTPFehler" = "état_civil_v2_httpfehler" := by
    decide +kernel
  have hkebab : kebabCase "ÉtatCivil, v2-HTTPFehler" = "état-civil-v2-httpfehler" := by
    decide +kernel
  obtain ⟨-, hagain, -, hothers⟩ := conversions_absorb.1 _ hclean
  have hcamel := (hothers camelCase (by simp)).2
  rw [hkebab] at hagain hcamel
  exact ⟨hclean, hsnake, hagain.trans hsnake, hcamel⟩

end Stencil.Text
