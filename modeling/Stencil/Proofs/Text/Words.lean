import Mathlib.Data.List.SplitBy
import Stencil.Proofs.Path.Components
import Stencil.Proofs.Text.Letters

/-!
# The words of an identifier

An identifier is cut into words at its separators and where an uppercase letter follows a
lowercase letter or a digit; what is neither a letter, a digit nor a separator does not
count.  The pass that makes snake case knows only the character before the one it reads,
and yet it writes exactly these words.  All other cases are made of the same words.
-/

namespace Stencil.Text

/-! ## Words as they are written -/

/-- Characters that belong to a word or separate words. -/
def isRead (char : Char) : Bool :=
  isUppercase char || isAlphanumeric char || isSeparator char

/-- A word ends at a lowercase letter or a digit in front of an uppercase letter. -/
def rises (char next : Char) : Bool :=
  isUppercase next && (!isUppercase char && isAlphanumeric char && endsWord char)

/-- The pieces of a text between two separators, each cut where it rises. -/
def stretches (text : List Char) : List (List Char) :=
  (text.splitOnP isSeparator).flatMap (List.splitBy fun char next => !rises char next)

def writtenWords (text : List Char) : List (List Char) :=
  (stretches (text.filter isRead)).filter fun word => !word.isEmpty

/-- A word with the lowercase mappings of its uppercase letters. -/
def lowered (word : List Char) : List Char :=
  word.flatMap fun char => if isUppercase char then lowercase char else [char]

@[simp]
theorem lowered_nil : lowered [] = [] := rfl

@[simp]
theorem lowered_cons (char : Char) (word : List Char) :
    lowered (char :: word) =
      (if isUppercase char then lowercase char else [char]) ++ lowered word := rfl

theorem nil_notMem_stretches (text : List Char) : [] ∉ stretches text := by
  simp [stretches]

theorem writtenWords_eq_stretches (text : List Char) :
    writtenWords text = stretches (text.filter isRead) := by
  apply List.filter_eq_self.mpr
  intro word hword
  cases word with
  | nil => exact absurd hword (nil_notMem_stretches _)
  | cons => rfl

/-! ## Cutting a text from its front -/

def endsBefore (char : Char) : List Char → Bool
  | [] => true
  | next :: _ => isSeparator next || rises char next

theorem stretches_nil : stretches [] = [] := rfl

theorem stretches_separator {char : Char} (hseparator : isSeparator char = true)
    (rest : List Char) : stretches (char :: rest) = stretches rest := by
  simp [stretches, List.splitOnP_cons_eq_if_modifyHead, hseparator]

theorem splitBy_cons_cons {α : Type} (joined : α → α → Bool) (first second : α)
    (rest : List α) :
    (first :: second :: rest).splitBy joined =
      if joined first second then ((second :: rest).splitBy joined).modifyHead (first :: ·)
      else [first] :: (second :: rest).splitBy joined := by
  split
  · rename_i hjoined
    obtain ⟨hflatten, hnil, hchains, hbreaks⟩ :=
      (List.splitBy_eq_iff (r := joined) (m := second :: rest)).mp rfl
    obtain ⟨run, runs, hruns⟩ :=
      List.exists_cons_of_ne_nil (List.splitBy_ne_nil.mpr (List.cons_ne_nil second rest))
    rw [hruns] at hflatten hnil hchains hbreaks ⊢
    cases run with
    | nil => simp at hnil
    | cons head tail =>
        obtain ⟨rfl, hrest⟩ : second = head ∧ rest = tail ++ runs.flatten := by
          simpa using hflatten
        apply List.splitBy_eq_iff.mpr
        refine ⟨by simp [hrest], by simpa using hnil, ?_, ?_⟩
        · simpa [hjoined] using hchains
        · simpa [List.isChain_cons] using hbreaks
  · rename_i hapart
    calc (first :: second :: rest).splitBy joined
        = [first].splitBy joined ++ (second :: rest).splitBy joined :=
          List.splitBy_append_cons (l := [first]) rest (by simpa using hapart)
      _ = [first] :: (second :: rest).splitBy joined := by
          rw [List.splitBy_of_isChain (List.cons_ne_nil first []) (by simp),
            List.singleton_append]

/-- A character starts a word of its own or joins the one behind it. -/
theorem stretches_cons {char : Char} (hword : isSeparator char = false) (rest : List Char) :
    stretches (char :: rest) =
      if endsBefore char rest then [char] :: stretches rest
      else (stretches rest).modifyHead (char :: ·) := by
  have hsingle : List.splitBy (fun char next => !rises char next) [char] = [[char]] :=
    List.splitBy_of_isChain (by simp) (by simp)
  rw [stretches, stretches, List.splitOnP_cons_eq_if_modifyHead, hword,
    if_neg Bool.false_ne_true]
  cases rest with
  | nil => simp [endsBefore, hsingle]
  | cons next rest =>
      obtain ⟨piece, pieces, hpieces⟩ :=
        List.exists_cons_of_ne_nil (List.splitOnP_ne_nil isSeparator rest)
      rw [List.splitOnP_cons_eq_if_modifyHead, hpieces, endsBefore]
      by_cases hnext : isSeparator next = true
      · simp [hnext, hsingle]
      · obtain ⟨run, runs, hruns⟩ := List.exists_cons_of_ne_nil
          (List.splitBy_ne_nil (r := fun char next => !rises char next).mpr
            (List.cons_ne_nil next piece))
        cases hrises : rises char next <;> simp [hnext, splitBy_cons_cons, hrises, hruns]

theorem stretches_ne_nil {char : Char} (hword : isSeparator char = false) (rest : List Char) :
    stretches (char :: rest) ≠ [] := by
  induction rest generalizing char with
  | nil => simp [stretches_cons hword, endsBefore]
  | cons next rest ih =>
      rw [stretches_cons hword]
      split
      · exact List.cons_ne_nil _ _
      · have hnext : isSeparator next = false := by simp_all [endsBefore]
        simpa using ih hnext

/-- A character whose word goes on has a word behind it. -/
theorem stretches_ne_nil_of_joined {char : Char} {rest : List Char}
    (hjoined : ¬endsBefore char rest = true) : stretches rest ≠ [] := by
  cases rest with
  | nil => exact absurd rfl hjoined
  | cons next rest =>
      have hnext : isSeparator next = false := by simp_all [endsBefore]
      exact stretches_ne_nil hnext rest

/-- A word without separators and without uppercase letters behind its first character is
cut off as a whole when a word ends behind it. -/
theorem stretches_append {word rest : List Char} (hne : word ≠ [])
    (hword : ∀ char ∈ word, isSeparator char = false)
    (hupper : ∀ char ∈ word.tail, isUppercase char = false)
    (hend : ∀ last ∈ word.getLast?, endsBefore last rest = true) :
    stretches (word ++ rest) = word :: stretches rest := by
  induction word with
  | nil => exact absurd rfl hne
  | cons char tail ih =>
      have hchar : isSeparator char = false := hword char List.mem_cons_self
      rw [List.cons_append, stretches_cons hchar]
      cases tail with
      | nil => rw [List.nil_append, if_pos (hend char rfl)]
      | cons next others =>
          have hjoined : ¬endsBefore char (next :: others ++ rest) = true := by
            have hnext : isSeparator next = false := hword next (by simp)
            have hlow : isUppercase next = false := hupper next List.mem_cons_self
            simp [endsBefore, rises, hnext, hlow]
          rw [if_neg hjoined, ih (List.cons_ne_nil next others)
            (fun other hother => hword other (List.mem_cons_of_mem char hother))
            (fun other hother => hupper other (List.mem_cons_of_mem next hother))
            (by simpa using hend), List.modifyHead_cons]

/-- Cutting a text into words loses its separators and nothing else. -/
theorem flatten_stretches (text : List Char) :
    (stretches text).flatten = text.filter fun char => !isSeparator char := by
  induction text with
  | nil => rfl
  | cons char rest ih =>
      cases hseparator : isSeparator char with
      | true => simp [stretches_separator hseparator, hseparator, ih]
      | false =>
          rw [List.filter_cons_of_pos (by simp [hseparator]), ← ih, stretches_cons hseparator]
          split
          · rfl
          · rename_i hjoined
            obtain ⟨word, words, hwords⟩ :=
              List.exists_cons_of_ne_nil (stretches_ne_nil_of_joined hjoined)
            simp [hwords]

/-! ## The pass over an identifier -/

/-- The words in lower case, each behind an underscore. -/
def underscored (words : List (List Char)) : List Char :=
  words.flatMap fun word => '_' :: lowered word

theorem underscored_cons (word : List Char) (words : List (List Char)) :
    underscored (word :: words) = '_' :: lowered word ++ underscored words := rfl

theorem tail_underscored (words : List (List Char)) :
    (underscored words).tail = ['_'].intercalate (words.map lowered) := by
  induction words with
  | nil => rfl
  | cons word rest ih =>
      cases rest with
      | nil => simp [underscored]
      | cons next others =>
          rw [List.map_cons, List.map_cons, List.intercalate_cons_cons, ← List.map_cons, ← ih]
          simp [underscored]

/-- What a letter adds to the words of the text after it. -/
theorem underscored_stretches_cons {char : Char} (hword : isSeparator char = false)
    (rest : List Char) :
    underscored (stretches (char :: rest)) = '_' :: lowered [char] ++
      if endsBefore char rest then underscored (stretches rest)
      else (underscored (stretches rest)).tail := by
  rw [stretches_cons hword]
  split
  · rfl
  · rename_i hjoined
    obtain ⟨word, words, hwords⟩ :=
      List.exists_cons_of_ne_nil (stretches_ne_nil_of_joined hjoined)
    simp [hwords, underscored_cons]

namespace Boundary

/-- What the pass remembers right behind a letter that it has written. -/
def behind (char : Char) : Boundary :=
  ⟨true, false, !isUppercase char && isAlphanumeric char && endsWord char⟩

/-- Whether an underscore is due in front of a text of which every character is read. -/
def isDueBefore (boundary : Boundary) : List Char → Bool
  | [] => boundary.gap
  | next :: _ => boundary.gap || isSeparator next || (boundary.rising && isUppercase next)

theorem isDueBefore_behind (char next : Char) (rest : List Char) :
    (behind char).isDueBefore (next :: rest) = endsBefore char (next :: rest) := by
  simp only [isDueBefore, behind, endsBefore, rises, Bool.false_or, Bool.and_comm]

theorem isDueBefore_of_gap {boundary : Boundary} (hgap : boundary.gap = true)
    (text : List Char) : boundary.isDueBefore text = true := by
  cases text <;> simp [isDueBefore, hgap]

end Boundary

/-- The pass writes a letter behind the underscore that is due, and goes on from there. -/
theorem snakeFrom_letter (boundary : Boundary) {char : Char} (hread : isRead char = true)
    (hword : isSeparator char = false) (rest : List Char) :
    snakeFrom boundary (char :: rest) =
      boundary.mark (boundary.gap || (boundary.rising && isUppercase char)) ++
        (lowered [char] ++ snakeFrom (.behind char) rest) := by
  cases hupper : isUppercase char with
  | true => simp [snakeFrom, hupper, Boundary.behind]
  | false =>
      have hletter : isAlphanumeric char = true := by simpa [isRead, hupper, hword] using hread
      simp [snakeFrom, hupper, hletter, Boundary.behind]

/-- A separator asks for an underscore before the next letter. -/
theorem snakeFrom_separator (boundary : Boundary) {char : Char}
    (hseparator : isSeparator char = true) (rest : List Char) :
    snakeFrom boundary (char :: rest) = snakeFrom ⟨boundary.started, true, false⟩ rest := by
  rcases cases_of_isSeparator hseparator with rfl | rfl | rfl | rfl <;> rfl

theorem snakeFrom_unread (boundary : Boundary) {char : Char} (hunread : isRead char = false)
    (rest : List Char) : snakeFrom boundary (char :: rest) = snakeFrom boundary rest := by
  simp only [isRead, Bool.or_eq_false_iff] at hunread
  simp [snakeFrom, hunread]

/-- The pass writes the words that are left, with an underscore in front of the first one
when it is due.  The words are those of a text without unread characters, which leave the
boundary as it is. -/
theorem snakeFrom_eq (boundary : Boundary) (text : List Char) :
    snakeFrom boundary text =
      if boundary.started && boundary.isDueBefore (text.filter isRead) then
        underscored (stretches (text.filter isRead))
      else (underscored (stretches (text.filter isRead))).tail := by
  induction text generalizing boundary with
  | nil => simp [snakeFrom, stretches_nil, underscored]
  | cons char rest ih =>
      cases hread : isRead char with
      | false => simp [snakeFrom_unread boundary hread, hread, ih]
      | true =>
          rw [List.filter_cons_of_pos hread]
          generalize rest.filter isRead = kept at ih
          cases hseparator : isSeparator char with
          | true =>
              rw [snakeFrom_separator boundary hseparator, ih, stretches_separator hseparator,
                Boundary.isDueBefore_of_gap rfl]
              simp [Boundary.isDueBefore, hseparator]
          | false =>
              let due := boundary.gap || (boundary.rising && isUppercase char)
              have hdue : boundary.isDueBefore (char :: kept) = due := by
                simp [Boundary.isDueBefore, hseparator, due]
              have hcons := underscored_stretches_cons hseparator kept
              have htail : lowered [char] ++ snakeFrom (.behind char) rest =
                  (underscored (stretches (char :: kept))).tail := by
                rw [ih, hcons]
                cases kept with
                | nil => simp [stretches_nil, underscored]
                | cons next others => rw [Boundary.isDueBefore_behind]; rfl
              calc snakeFrom boundary (char :: rest)
                  = boundary.mark due ++ (underscored (stretches (char :: kept))).tail := by
                    rw [snakeFrom_letter boundary hread hseparator, htail]
                _ = if boundary.started && due then underscored (stretches (char :: kept))
                    else (underscored (stretches (char :: kept))).tail := by
                    rw [hcons, Boundary.mark]
                    split <;> rfl
                _ = _ := by rw [hdue]

/-- Snake case joins the words of an identifier, in lower case, with underscores. -/
theorem snake_eq_intercalate (text : List Char) :
    snake text = ['_'].intercalate ((writtenWords text).map lowered) := by
  rw [snake, snakeFrom_eq, writtenWords_eq_stretches, ← tail_underscored]
  rfl

/-! ## Characters of words -/

/-- The characters of a word are letters and digits of the text. -/
theorem of_mem_writtenWords {text word : List Char} (hword : word ∈ writtenWords text)
    {char : Char} (hchar : char ∈ word) :
    char ∈ text ∧ isSeparator char = false ∧
      (isUppercase char = true ∨ isAlphanumeric char = true) := by
  rw [writtenWords_eq_stretches] at hword
  have hmem := List.mem_flatten_of_mem hword hchar
  rw [flatten_stretches, List.mem_filter, List.mem_filter] at hmem
  obtain ⟨⟨htext, hread⟩, hseparator⟩ := hmem
  rw [Bool.not_eq_true'] at hseparator
  exact ⟨htext, hseparator, by simpa [isRead, hseparator] using hread⟩

theorem ne_nil_of_mem_writtenWords {text word : List Char} (hword : word ∈ writtenWords text) :
    word ≠ [] := by
  rintro rfl
  rw [writtenWords_eq_stretches] at hword
  exact nil_notMem_stretches _ hword

theorem lowered_ne_nil {word : List Char} (hword : word ≠ []) : lowered word ≠ [] := by
  cases word with
  | nil => exact absurd rfl hword
  | cons char rest =>
      rw [lowered_cons]
      split
      · exact List.append_ne_nil_of_left_ne_nil (lowercase_ne_nil char) _
      · exact List.cons_ne_nil _ _

theorem underscore_not_mem_lowered {word : List Char}
    (hword : ∀ char ∈ word, isSeparator char = false) : '_' ∉ lowered word := by
  have hother : ∀ char ∈ word, char ≠ '_' := by
    rintro char hchar rfl
    exact absurd (hword '_' hchar) (by decide)
  simp only [lowered, List.mem_flatMap, not_exists, not_and]
  intro char hchar
  split
  · exact underscore_not_mem_lowercase (hother char hchar)
  · simpa using (hother char hchar).symm

/-! ## Words between underscores -/

/-- Words that are found again when they are joined with underscores. -/
def IsJoinable (words : List (List Char)) : Prop :=
  ∀ word ∈ words, word ≠ [] ∧ '_' ∉ word

theorem isJoinable_lowered (text : List Char) :
    IsJoinable ((writtenWords text).map lowered) := by
  intro word hword
  obtain ⟨written, hwritten, rfl⟩ := List.mem_map.mp hword
  refine ⟨lowered_ne_nil (ne_nil_of_mem_writtenWords hwritten), ?_⟩
  exact underscore_not_mem_lowered fun char hchar => (of_mem_writtenWords hwritten hchar).2.1

section Joined

variable {words : List (List Char)} (hwords : IsJoinable words)
include hwords

/-- Words without underscores are found again between underscores. -/
theorem pieces_intercalate (hne : words ≠ []) : pieces '_' (['_'].intercalate words) = words := by
  induction words with
  | nil => exact absurd rfl hne
  | cons word rest ih =>
      have hword : pieces '_' word = [word] :=
        Path.pieces_of_not_mem (hwords word List.mem_cons_self).2
      cases rest with
      | nil => rw [List.intercalate_singleton, hword]
      | cons next others =>
          have hrest := ih (fun other hother => hwords other (List.mem_cons_of_mem word hother))
            (List.cons_ne_nil next others)
          rw [List.intercalate_cons_cons, List.append_assoc, List.singleton_append,
            Path.pieces_append_separator, hword, hrest, List.singleton_append]

theorem filter_pieces_intercalate :
    ((pieces '_' (['_'].intercalate words)).filter fun word => !word.isEmpty) = words := by
  by_cases hne : words = []
  · simp [hne, pieces]
  · rw [pieces_intercalate hwords hne, List.filter_eq_self]
    intro word hword
    simpa using (hwords word hword).1

/-- Both sides of an underscore are made of words. -/
theorem sides_of_intercalate {left right : List Char}
    (htext : ['_'].intercalate words = left ++ '_' :: right) :
    [] ∉ pieces '_' left ∧ [] ∉ pieces '_' right := by
  have hne : words ≠ [] := by
    rintro rfl
    simp at htext
  have hpieces : words = pieces '_' left ++ pieces '_' right := by
    rw [← Path.pieces_append_separator, ← htext, pieces_intercalate hwords hne]
  rw [← not_or, ← List.mem_append, ← hpieces]
  exact fun hnil => (hwords [] hnil).1 rfl

/-- An underscore stands neither at an end nor next to another one. -/
theorem underscores_of_intercalate :
    ¬['_'] <+: ['_'].intercalate words ∧ ¬['_'] <:+ ['_'].intercalate words ∧
      ¬['_', '_'] <:+: ['_'].intercalate words := by
  refine ⟨?_, ?_, ?_⟩
  · rintro ⟨right, htext⟩
    have htext : ['_'].intercalate words = [] ++ '_' :: right := htext.symm
    exact absurd (sides_of_intercalate hwords htext).1 (by simp [pieces])
  · rintro ⟨left, htext⟩
    exact absurd (sides_of_intercalate hwords htext.symm).2 (by simp [pieces])
  · rintro ⟨left, right, htext⟩
    rw [List.append_assoc] at htext
    exact absurd (sides_of_intercalate hwords htext.symm).2 (by simp [pieces])

theorem map_hyphen_intercalate :
    (['_'].intercalate words).map (fun char => if char = '_' then '-' else char) =
      ['-'].intercalate words := by
  induction words with
  | nil => rfl
  | cons word rest ih =>
      have hword : word.map (fun char => if char = '_' then '-' else char) = word := by
        apply (List.map_congr_left _).trans (List.map_id word)
        intro char hchar
        apply if_neg
        rintro rfl
        exact (hwords word List.mem_cons_self).2 hchar
      cases rest with
      | nil => simpa using hword
      | cons next others =>
          have hrest := ih fun other hother => hwords other (List.mem_cons_of_mem word hother)
          rw [List.intercalate_cons_cons, List.intercalate_cons_cons, List.map_append,
            List.map_append, hword, hrest]
          rfl

end Joined

/-! ## The cases of an identifier -/

theorem words_eq_map_lowered (text : List Char) :
    words text = (writtenWords text).map lowered := by
  rw [words, snake_eq_intercalate, filter_pieces_intercalate (isJoinable_lowered text)]

theorem kebab_eq_intercalate (text : List Char) :
    kebab text = ['-'].intercalate ((writtenWords text).map lowered) := by
  rw [kebab, snake_eq_intercalate, map_hyphen_intercalate (isJoinable_lowered text)]

example : (writtenWords "getURLOf v2Pets".toList).map String.ofList =
    ["get", "URLOf", "v2", "Pets"] := by
  decide

end Stencil.Text
