import Stencil.Proofs.Text.Cases

/-!
# Humps

Pascal case and camel case mark the words of an identifier by capitals alone.  The words
are found again as long as each of them, except the last, ends in a lowercase letter or a
digit behind its capital: a word of one letter is joined to the next one.
-/

namespace Stencil.Text

/-! ## Capitalized words -/

/-- A word of the name of a variable: a lowercase letter of ASCII, then lowercase letters and
digits of ASCII. -/
def IsVariableWord : List Char → Prop
  | [] => False
  | first :: rest => first.isLower = true ∧ ∀ char ∈ rest, isPlain char = true

instance : DecidablePred IsVariableWord
  | [] => .isFalse id
  | _ :: rest =>
      have : Decidable (∀ char ∈ rest, isPlain char = true) := List.decidableBAll _ _
      inferInstanceAs (Decidable (_ ∧ _))

/-- A letter of any case in front of lowercase letters and digits. -/
def IsHump : List Char → Prop
  | [] => False
  | first :: rest => isAlphanumeric first = true ∧ ∀ char ∈ rest, isPlain char = true

section VariableWord

variable {word : List Char} (hword : IsVariableWord word)
include hword

theorem isLow_of_isVariableWord : IsLow word := by
  cases word with
  | nil => exact hword.elim
  | cons first rest =>
      have hplain : ∀ char ∈ first :: rest, isPlain char = true := by
        intro char hchar
        rcases List.mem_cons.mp hchar with rfl | hrest
        · exact isPlain_of_isLower hword.1
        · exact hword.2 char hrest
      exact ⟨List.cons_ne_nil first rest,
        fun char hchar => isAlphanumeric_of_isPlain (hplain char hchar),
        fun char hchar => isUppercase_of_isPlain (hplain char hchar)⟩

theorem isHump_of_isVariableWord : IsHump word := by
  cases word with
  | nil => exact hword.elim
  | cons first rest =>
      exact ⟨isAlphanumeric_of_isPlain (isPlain_of_isLower hword.1), hword.2⟩

/-- A capitalized word has the uppercase letter of its first character. -/
theorem exists_capital :
    ∃ first rest, word = first :: rest ∧ first.isLower = true ∧
      capitalized word = first.toUpper :: rest := by
  cases word with
  | nil => exact hword.elim
  | cons first rest =>
      refine ⟨first, rest, rfl, hword.1, ?_⟩
      rw [capitalized, (uppercase_of_isLower hword.1).1, List.singleton_append]

theorem isHump_capitalized : IsHump (capitalized word) := by
  obtain ⟨first, rest, rfl, hlower, hcapitalized⟩ := exists_capital hword
  rw [hcapitalized]
  exact ⟨(uppercase_of_isLower hlower).2.2.2, hword.2⟩

theorem length_capitalized : (capitalized word).length = word.length := by
  obtain ⟨first, rest, rfl, -, hcapitalized⟩ := exists_capital hword
  rw [hcapitalized, List.length_cons, List.length_cons]

theorem lowered_capitalized : lowered (capitalized word) = word := by
  obtain ⟨first, rest, rfl, hlower, hcapitalized⟩ := exists_capital hword
  obtain ⟨-, hupper, hlowercase, -⟩ := uppercase_of_isLower hlower
  have hrest : ∀ char ∈ rest, isUppercase char = false := fun char hchar =>
    isUppercase_of_isPlain (hword.2 char hchar)
  rw [hcapitalized, lowered_cons, if_pos hupper, hlowercase, lowered_eq_self hrest,
    List.singleton_append]

end VariableWord

namespace IsHump

variable {hump : List Char} (hhump : IsHump hump)
include hhump

theorem isAlphanumeric : ∀ char ∈ hump, isAlphanumeric char = true := by
  intro char hchar
  cases hump with
  | nil => exact hhump.elim
  | cons first rest =>
      rcases List.mem_cons.mp hchar with rfl | hrest
      · exact hhump.1
      · exact isAlphanumeric_of_isPlain (hhump.2 char hrest)

theorem stretches_append {rest : List Char}
    (hend : ∀ last ∈ hump.getLast?, endsBefore last rest = true) :
    stretches (hump ++ rest) = hump :: stretches rest := by
  have hseparator : ∀ char ∈ hump, isSeparator char = false := fun char hchar =>
    isSeparator_of_isAlphanumeric (hhump.isAlphanumeric char hchar)
  cases hump with
  | nil => exact hhump.elim
  | cons first tail =>
      have hupper : ∀ char ∈ tail, isUppercase char = false := fun char hchar =>
        isUppercase_of_isPlain (hhump.2 char hchar)
      exact Text.stretches_append (List.cons_ne_nil first tail) hseparator hupper hend

/-- A hump of more than one character ends in front of the next one. -/
theorem endsBefore_capitalized (hlong : 2 ≤ hump.length) {word : List Char}
    (hword : IsVariableWord word) (rest : List Char) :
    ∀ last ∈ hump.getLast?, endsBefore last (capitalized word ++ rest) = true := by
  intro last hlast
  have hplain : isPlain last = true := by
    match hump with
    | [] => exact hhump.elim
    | [first] => simp at hlong
    | first :: second :: others =>
        apply hhump.2
        apply List.mem_of_getLast?
        simpa using hlast
  obtain ⟨capital, tail, -, hlower, hcapitalized⟩ := exists_capital hword
  simp [hcapitalized, endsBefore, rises, (uppercase_of_isLower hlower).2.1,
    isUppercase_of_isPlain hplain, isAlphanumeric_of_isPlain hplain, endsWord_of_isPlain hplain]

end IsHump

/-- The words in front of the last one stay long when the first changes its characters. -/
theorem long_of_length_eq {front other : List Char} (hlength : other.length = front.length)
    {rest : List (List Char)} (hlong : ∀ word ∈ (front :: rest).dropLast, 2 ≤ word.length) :
    ∀ word ∈ (other :: rest).dropLast, 2 ≤ word.length := by
  cases rest with
  | nil => simp
  | cons next others => simpa [hlength] using hlong

/-- Each hump is a word of its own. -/
theorem stretches_humps {words : List (List Char)}
    (hwords : ∀ word ∈ words, IsVariableWord word) {hump : List Char} (hhump : IsHump hump)
    (hlong : ∀ word ∈ (hump :: words).dropLast, 2 ≤ word.length) :
    stretches (hump ++ words.flatMap capitalized) = hump :: words.map capitalized := by
  induction words generalizing hump with
  | nil =>
      rw [List.flatMap_nil, hhump.stretches_append fun _ _ => rfl]
      rfl
  | cons word rest ih =>
      have hword : IsVariableWord word := hwords word List.mem_cons_self
      rw [List.dropLast_cons_cons, List.forall_mem_cons] at hlong
      have hrest := ih (fun other hother => hwords other (List.mem_cons_of_mem word hother))
        (isHump_capitalized hword) (long_of_length_eq (length_capitalized hword) hlong.2)
      have hend := hhump.endsBefore_capitalized hlong.1 hword (rest.flatMap capitalized)
      rw [List.flatMap_cons, hhump.stretches_append hend, hrest, List.map_cons]

section RoundTrip

variable {first : List Char} {rest : List (List Char)}
variable (hwords : ∀ word ∈ first :: rest, IsVariableWord word)
variable (hlong : ∀ word ∈ (first :: rest).dropLast, 2 ≤ word.length)
include hwords

/-- Pascal case writes the words with capitals, one behind the other. -/
theorem pascal_intercalate :
    pascal (['_'].intercalate (first :: rest)) = (first :: rest).flatMap capitalized := by
  have hlow : ∀ word ∈ first :: rest, IsLow word := fun word hword =>
    isLow_of_isVariableWord (hwords word hword)
  rw [pascal, words_eq_map_lowered, writtenWords_intercalate hlow rfl, map_lowered_of_isLow hlow]

/-- Camel case leaves the first word as it is. -/
theorem camel_intercalate :
    camel (['_'].intercalate (first :: rest)) = first ++ rest.flatMap capitalized := by
  obtain ⟨char, tail, rfl, hlower, hcapitalized⟩ :=
    exists_capital (hwords first List.mem_cons_self)
  rw [camel, pascal_intercalate hwords, List.flatMap_cons, hcapitalized, List.cons_append]
  simp [(uppercase_of_isLower hlower).2.2.1]

include hlong

/-- Humps are joined with underscores, whether or not the first has a capital. -/
theorem snake_humps {hump : List Char} (hhump : IsHump hump) (hlowered : lowered hump = first)
    (hlength : hump.length = first.length) :
    snake (hump ++ rest.flatMap capitalized) = ['_'].intercalate (first :: rest) := by
  have hrest : ∀ word ∈ rest, IsVariableWord word := fun word hword =>
    hwords word (List.mem_cons_of_mem first hword)
  have hread : (hump ++ rest.flatMap capitalized).filter isRead =
      hump ++ rest.flatMap capitalized := by
    rw [List.filter_eq_self]
    intro char hchar
    have hletter : isAlphanumeric char = true := by
      rcases List.mem_append.mp hchar with hhead | htail
      · exact hhump.isAlphanumeric char hhead
      · obtain ⟨word, hword, hchar⟩ := List.mem_flatMap.mp htail
        exact (isHump_capitalized (hrest word hword)).isAlphanumeric char hchar
    simp [isRead, hletter]
  have hback : (rest.map capitalized).map lowered = rest := by
    rw [List.map_map]
    calc
      rest.map (lowered ∘ capitalized) = rest.map id :=
        List.map_congr_left fun word hword => lowered_capitalized (hrest word hword)
      _ = rest := List.map_id rest
  rw [snake_eq_intercalate, writtenWords_eq_stretches, hread,
    stretches_humps hrest hhump (long_of_length_eq hlength hlong), List.map_cons, hlowered, hback]

/-- Snake case finds the words again by their capitals. -/
theorem snake_pascal_intercalate :
    snake (pascal (['_'].intercalate (first :: rest))) = ['_'].intercalate (first :: rest) := by
  have hfirst := hwords first List.mem_cons_self
  rw [pascal_intercalate hwords, List.flatMap_cons]
  exact snake_humps hwords hlong (isHump_capitalized hfirst) (lowered_capitalized hfirst)
    (length_capitalized hfirst)

theorem snake_camel_intercalate :
    snake (camel (['_'].intercalate (first :: rest))) = ['_'].intercalate (first :: rest) := by
  have hfirst := hwords first List.mem_cons_self
  rw [camel_intercalate hwords]
  exact snake_humps hwords hlong (isHump_of_isVariableWord hfirst)
    (lowered_eq_self (isLow_of_isVariableWord hfirst).isUppercase) rfl

end RoundTrip

end Stencil.Text
