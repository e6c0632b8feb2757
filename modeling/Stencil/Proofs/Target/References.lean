import Mathlib.Data.List.Infix
import Mathlib.Data.List.TakeWhile
import Stencil.Proofs.Text.Cases
import Stencil.Target.Reference

/-!
# References in target expressions

A reference is looked for at each character in turn, and what takes its place is not read
again.  No reference is left when every name has a letter or a digit: two braces open what
takes the place of a reference, so none that begins before it ends in it, and a word follows
the blank in it, so none begins in it.
-/

namespace Stencil.Target

open Stencil.Text

/-! ## Where a reference stands -/

def IsName : List Char → Prop
  | [] => False
  | first :: rest => isNameStart first = true ∧ ∀ char ∈ rest, isNameChar char = true

theorem isAscii_of_isNameChar {char : Char} (hchar : isNameChar char = true) :
    isAscii char = true := by
  rw [isNameChar, Bool.or_eq_true, decide_eq_true_eq] at hchar
  rcases hchar with hletter | rfl
  · exact isAscii_of_isAlphanum hletter
  · rfl

theorem isNameChar_of_isNameStart {char : Char} (hchar : isNameStart char = true) :
    isNameChar char = true := by
  unfold isNameChar Char.isAlphanum
  rw [isNameStart, Bool.or_eq_true] at hchar
  simp only [Bool.or_eq_true]
  exact hchar.imp_left .inl

theorem isNameChar_of_isName {name : List Char} (hname : IsName name) :
    ∀ char ∈ name, isNameChar char = true := by
  intro char hchar
  cases name with
  | nil => exact hname.elim
  | cons first rest =>
      rcases List.mem_cons.mp hchar with rfl | hrest
      · exact isNameChar_of_isNameStart hname.1
      · exact hname.2 char hrest

theorem isAscii_of_isName {name : List Char} (hname : IsName name) :
    ∀ char ∈ name, isAscii char = true := fun char hchar =>
  isAscii_of_isNameChar (isNameChar_of_isName hname char hchar)

namespace Reference

/-- A text starts with a reference: two braces, a dash perhaps, blanks, a dot and the longest
identifier that follows it. -/
structure StartsText (reference : Reference) (text : List Char) : Prop where
  isName : IsName reference.name
  longest : reference.rest.head?.any isNameChar = false
  exists_blanks : ∃ blanks, (∀ char ∈ blanks, isBlank char = true) ∧
    text = '{' :: '{' :: ((if reference.dash then ['-'] else []) ++
      (blanks ++ '.' :: (reference.name ++ reference.rest)))

theorem takeWhile_dropWhile_isNameChar {more rest : List Char}
    (hmore : ∀ char ∈ more, isNameChar char = true)
    (hrest : rest.head?.any isNameChar = false) :
    (more ++ rest).takeWhile isNameChar = more ∧ (more ++ rest).dropWhile isNameChar = rest := by
  rw [List.takeWhile_append_of_pos hmore, List.dropWhile_append_of_pos hmore]
  cases rest with
  | nil => simp
  | cons next others =>
      have hnext : isNameChar next = false := by simpa using hrest
      simp [hnext]

theorem head?_dropWhile_isNameChar (text : List Char) :
    (text.dropWhile isNameChar).head?.any isNameChar = false := by
  have hnext := List.head?_dropWhile_not isNameChar text
  cases hhead : (text.dropWhile isNameChar).head? with
  | none => rfl
  | some next => simpa [hhead] using hnext

theorem afterDash?_of_blanks (dash : Bool) {blanks name rest : List Char}
    (hblanks : ∀ char ∈ blanks, isBlank char = true) (hname : IsName name)
    (hlongest : rest.head?.any isNameChar = false) :
    afterDash? dash (blanks ++ '.' :: (name ++ rest)) = some ⟨dash, name, rest⟩ := by
  cases name with
  | nil => exact hname.elim
  | cons first more =>
      have hdot : (blanks ++ '.' :: (first :: more ++ rest)).dropWhile isBlank =
          '.' :: first :: (more ++ rest) := by
        rw [List.dropWhile_append_of_pos hblanks, List.dropWhile_cons_of_neg (by decide)]
        rfl
      obtain ⟨htake, hdrop⟩ := takeWhile_dropWhile_isNameChar hname.2 hlongest
      simp only [afterDash?, hdot, hname.1, htake, hdrop, if_true]

theorem exists_blanks_of_afterDash? {dash : Bool} {text : List Char} {reference : Reference}
    (hfound : afterDash? dash text = some reference) :
    reference.dash = dash ∧ IsName reference.name ∧
      reference.rest.head?.any isNameChar = false ∧
      ∃ blanks, (∀ char ∈ blanks, isBlank char = true) ∧
        text = blanks ++ '.' :: (reference.name ++ reference.rest) := by
  unfold afterDash? at hfound
  split at hfound
  · rename_i first rest hdot
    split at hfound
    · rename_i hstart
      obtain rfl := Option.some.inj hfound
      refine ⟨rfl, ⟨hstart, fun char => List.mem_takeWhile_imp⟩,
        head?_dropWhile_isNameChar rest, text.takeWhile isBlank,
        fun char => List.mem_takeWhile_imp, ?_⟩
      rw [List.cons_append, List.takeWhile_append_dropWhile, ← hdot,
        List.takeWhile_append_dropWhile]
    · cases hfound
  · cases hfound

/-- The scanner finds the reference that a text starts with. -/
theorem find?_eq_some_iff {text : List Char} {reference : Reference} :
    find? text = some reference ↔ reference.StartsText text := by
  constructor
  · intro hfound
    unfold find? at hfound
    split at hfound
    · obtain ⟨hdash, hname, hlongest, blanks, hblanks, rfl⟩ :=
        exists_blanks_of_afterDash? hfound
      exact ⟨hname, hlongest, blanks, hblanks, by simp [hdash]⟩
    · obtain ⟨hdash, hname, hlongest, blanks, hblanks, rfl⟩ :=
        exists_blanks_of_afterDash? hfound
      exact ⟨hname, hlongest, blanks, hblanks, by simp [hdash]⟩
    · cases hfound
  · rintro ⟨hname, hlongest, blanks, hblanks, rfl⟩
    obtain ⟨dash, name, rest⟩ := reference
    have hafter := afterDash?_of_blanks dash hblanks hname hlongest
    cases dash with
    | true => exact hafter
    | false =>
        -- neither a blank nor the dot is taken for the dash
        have hdash : ∀ others, blanks ++ '.' :: (name ++ rest) ≠ '-' :: others := by
          intro others hothers
          cases blanks with
          | nil => simp at hothers
          | cons blank blanks =>
              obtain rfl : blank = '-' := (List.cons.inj hothers).1
              exact absurd (hblanks '-' List.mem_cons_self) (by decide)
        exact (find?.eq_2 _ hdash).trans hafter

end Reference

def StartsReference (text : List Char) : Prop :=
  ∃ reference : Reference, reference.StartsText text

def HasReference (text : List Char) : Prop :=
  ∃ back, back <:+ text ∧ StartsReference back

theorem find?_eq_none_iff {text : List Char} :
    Reference.find? text = none ↔ ¬StartsReference text := by
  simp only [Option.eq_none_iff_forall_ne_some, ne_eq, Reference.find?_eq_some_iff,
    StartsReference, not_exists]

instance : DecidablePred StartsReference := fun text =>
  decidable_of_iff (Reference.find? text ≠ none) (by rw [ne_eq, find?_eq_none_iff, not_not])

instance : DecidablePred HasReference := fun text =>
  decidable_of_iff (∃ back ∈ text.tails, StartsReference back)
    (by simp only [HasReference, List.mem_tails])

theorem eq_braces_of_startsReference {text : List Char} (hstarts : StartsReference text) :
    ∃ rest, text = '{' :: '{' :: rest := by
  obtain ⟨reference, -, -, blanks, -, rfl⟩ := hstarts
  exact ⟨_, rfl⟩

/-! ## References and braces -/

/-- The characters that make a reference, whatever follows them. -/
def IsOpening (opening : List Char) : Prop :=
  ∃ dash blanks first, (dash = [] ∨ dash = ['-']) ∧ (∀ char ∈ blanks, isBlank char = true) ∧
    isNameStart first = true ∧ opening = '{' :: '{' :: (dash ++ (blanks ++ ['.', first]))

theorem startsReference_iff {text : List Char} :
    StartsReference text ↔ ∃ opening, IsOpening opening ∧ opening <+: text := by
  constructor
  · rintro ⟨⟨dash, name, rest⟩, hname, -, blanks, hblanks, rfl⟩
    cases name with
    | nil => exact hname.elim
    | cons first more =>
        refine ⟨_, ⟨if dash then ['-'] else [], blanks, first, ?_, hblanks, hname.1, rfl⟩,
          more ++ rest, ?_⟩
        · cases dash <;> simp
        · simp
  · rintro ⟨opening, ⟨dash, blanks, first, hdash, hblanks, hfirst, rfl⟩, rest, rfl⟩
    refine ⟨⟨decide (dash = ['-']), first :: rest.takeWhile isNameChar,
      rest.dropWhile isNameChar⟩, ⟨hfirst, fun char => List.mem_takeWhile_imp⟩,
      Reference.head?_dropWhile_isNameChar rest, blanks, hblanks, ?_⟩
    rcases hdash with rfl | rfl <;> simp

namespace IsOpening

variable {opening : List Char} (hopening : IsOpening opening)
include hopening

theorem exists_inner :
    ∃ inner, opening = '{' :: '{' :: inner ∧ inner ≠ [] ∧ '{' ∉ inner := by
  obtain ⟨dash, blanks, first, hdash, hblanks, hfirst, rfl⟩ := hopening
  refine ⟨_, rfl, by simp, ?_⟩
  have hblank : '{' ∉ blanks := fun hmem => absurd (hblanks '{' hmem) (by decide)
  have hname : '{' ≠ first := by
    rintro rfl
    exact absurd hfirst (by decide)
  rcases hdash with rfl | rfl <;> simp [hblank, hname]

/-- An opening that begins before two braces ends before them: a brace of the two would be
its second character or stand further inside. -/
theorem isPrefix_of_braces {start more : List Char} (hne : start ≠ [])
    (hfront : opening <+: start ++ '{' :: '{' :: more) : opening <+: start := by
  obtain ⟨inner, rfl, hinner, hbrace⟩ := hopening.exists_inner
  rcases List.prefix_or_prefix_of_prefix hfront (List.prefix_append start _) with
    hends | ⟨remainder, hremainder⟩
  · exact hends
  · rw [← hremainder, List.prefix_append_right_inj] at hfront
    cases remainder with
    | nil => exact ⟨[], by rw [← hremainder, List.append_nil, List.append_nil]⟩
    | cons char remainder =>
        obtain ⟨rfl, hmore⟩ := List.cons_prefix_cons.mp hfront
        match start with
        | [] => exact absurd rfl hne
        | [_] =>
            obtain ⟨-, rfl⟩ : _ ∧ remainder = inner := by simpa using hremainder
            obtain ⟨next, others, rfl⟩ := List.exists_cons_of_ne_nil hinner
            obtain ⟨rfl, -⟩ := List.cons_prefix_cons.mp hmore
            exact absurd List.mem_cons_self hbrace
        | _ :: _ :: start =>
            obtain ⟨-, -, rfl⟩ : _ ∧ _ ∧ start ++ '{' :: remainder = inner := by
              simpa using hremainder
            exact absurd (by simp) hbrace

end IsOpening

/-- A reference that begins before two braces is there whatever stands in their place. -/
theorem startsReference_append_of_braces {start more : List Char} (hne : start ≠ [])
    (hstarts : StartsReference (start ++ '{' :: '{' :: more)) (other : List Char) :
    StartsReference (start ++ other) := by
  obtain ⟨opening, hopening, hfront⟩ := startsReference_iff.mp hstarts
  have hends := hopening.isPrefix_of_braces hne hfront
  exact startsReference_iff.mpr ⟨opening, hopening, hends.trans (List.prefix_append start other)⟩

/-- A reference in a text starts in its front or lies in its back. -/
theorem hasReference_append {front back : List Char} (hhas : HasReference (front ++ back)) :
    (∃ start, start <:+ front ∧ start ≠ [] ∧ StartsReference (start ++ back)) ∨
      HasReference back := by
  obtain ⟨text, ⟨before, heq⟩, hstarts⟩ := hhas
  rcases List.append_eq_append_iff.mp heq with ⟨start, hfront, rfl⟩ | ⟨skipped, -, hback⟩
  · cases start with
    | nil => exact .inr ⟨back, List.suffix_rfl, hstarts⟩
    | cons char start => exact .inl ⟨_, ⟨before, hfront.symm⟩, List.cons_ne_nil _ _, hstarts⟩
  · exact .inr ⟨text, ⟨skipped, hback.symm⟩, hstarts⟩

/-! ## The references of a text -/

/-- No reference begins in a gap that is followed by a text. -/
def IsGapBefore (gap back : List Char) : Prop :=
  ∀ start, start <:+ gap → start ≠ [] → ¬StartsReference (start ++ back)

instance (gap back : List Char) : Decidable (IsGapBefore gap back) :=
  decidable_of_iff (∀ start ∈ gap.tails, start ≠ [] → ¬StartsReference (start ++ back))
    (by simp only [IsGapBefore, List.mem_tails])

theorem isGapBefore_cons {char : Char} {gap back : List Char}
    (hstarts : ¬StartsReference (char :: (gap ++ back))) (hgap : IsGapBefore gap back) :
    IsGapBefore (char :: gap) back := by
  intro start hstart hne
  rcases List.suffix_cons_iff.mp hstart with rfl | hstart
  · exact hstarts
  · exact hgap start hstart hne

theorem isGapBefore_of_not_mem {gap : List Char} (hbrace : '{' ∉ gap) (back : List Char) :
    IsGapBefore gap back := by
  intro start hstart hne hstarts
  obtain ⟨rest, heq⟩ := eq_braces_of_startsReference hstarts
  cases start with
  | nil => exact hne rfl
  | cons char start =>
      obtain rfl : char = '{' := (List.cons.inj heq).1
      exact hbrace (hstart.subset List.mem_cons_self)

/-- The references that are found in a text from left to right without overlapping, each with
the gap in front of it, and the text behind the last one. -/
inductive Scan : List Char → List (List Char × Reference) → List Char → Prop
  | done {text : List Char} (hnone : ¬HasReference text) : Scan text [] text
  | next {gap back last : List Char} {reference : Reference}
      {found : List (List Char × Reference)} (hgap : IsGapBefore gap back)
      (hstarts : reference.StartsText back) (hrest : Scan reference.rest found last) :
      Scan (gap ++ back) ((gap, reference) :: found) last

/-- The text in which each reference has become two braces, its dash, a blank and the snake
case of its name, and in which all else is as it was. -/
def rewritten (found : List (List Char × Reference)) (last : List Char) : List Char :=
  found.flatMap (fun (gap, reference) => gap ++
    '{' :: '{' :: ((if reference.dash then ['-'] else []) ++ ' ' :: snake reference.name)) ++
    last

theorem rewritten_cons (gap : List Char) (reference : Reference)
    (found : List (List Char × Reference)) (last : List Char) :
    rewritten ((gap, reference) :: found) last =
      gap ++ (reference.replacement ++ rewritten found last) := by
  simp [rewritten, Reference.replacement, Reference.variableName]

/-- Every text can be scanned. -/
theorem exists_scan (text : List Char) : ∃ found last, Scan text found last := by
  induction text using rewriteReferences.induct with
  | case1 => exact ⟨[], [], .done (by decide)⟩
  | case2 char rest reference hfound ih =>
      obtain ⟨found, last, hscan⟩ := ih
      have hgap : IsGapBefore [] (char :: rest) := isGapBefore_of_not_mem List.not_mem_nil _
      exact ⟨_, _, .next hgap (Reference.find?_eq_some_iff.mp hfound) hscan⟩
  | case3 char rest hfound ih =>
      have hstarts : ¬StartsReference (char :: rest) := find?_eq_none_iff.mp hfound
      obtain ⟨found, last, hscan⟩ := ih
      cases hscan with
      | done hnone =>
          refine ⟨_, _, .done ?_⟩
          rintro ⟨back, hback, hreference⟩
          rcases List.suffix_cons_iff.mp hback with rfl | hback
          · exact hstarts hreference
          · exact hnone ⟨back, hback, hreference⟩
      | next hgap hreference hrest =>
          exact ⟨_, _, .next (isGapBefore_cons hstarts hgap) hreference hrest⟩

theorem not_hasReference_or_exists_of_scan {text last : List Char}
    {found : List (List Char × Reference)} (hscan : Scan text found last) :
    (¬HasReference text ∧ found = [] ∧ last = text) ∨
      ∃ gap back reference others, text = gap ++ back ∧ IsGapBefore gap back ∧
        reference.StartsText back ∧ Scan reference.rest others last ∧
        found = (gap, reference) :: others := by
  cases hscan with
  | done hnone => exact .inl ⟨hnone, rfl, rfl⟩
  | next hgap hstarts hrest => exact .inr ⟨_, _, _, _, rfl, hgap, hstarts, hrest, rfl⟩

/-- The gap in front of a reference is the longest one that no reference begins in. -/
theorem eq_of_isGapBefore {gap back otherGap otherBack : List Char}
    (heq : gap ++ back = otherGap ++ otherBack) (hgap : IsGapBefore gap back)
    (hother : IsGapBefore otherGap otherBack) (hstarts : StartsReference back)
    (hotherStarts : StartsReference otherBack) : gap = otherGap ∧ back = otherBack := by
  rcases List.append_eq_append_iff.mp heq with ⟨start, rfl, rfl⟩ | ⟨start, rfl, rfl⟩
  · by_cases hne : start = []
    · simp [hne]
    · exact absurd hstarts (hother start (List.suffix_append gap start) hne)
  · by_cases hne : start = []
    · simp [hne]
    · exact absurd hotherStarts (hgap start (List.suffix_append otherGap start) hne)

/-- There is one way to scan a text. -/
theorem scan_unique {text last otherLast : List Char}
    {found others : List (List Char × Reference)} (hscan : Scan text found last)
    (hother : Scan text others otherLast) : found = others ∧ last = otherLast := by
  induction hscan generalizing others otherLast with
  | done hnone =>
      rcases not_hasReference_or_exists_of_scan hother with
        ⟨-, rfl, rfl⟩ | ⟨gap, back, reference, _, rfl, -, hstarts, -, -⟩
      · exact ⟨rfl, rfl⟩
      · exact absurd ⟨back, List.suffix_append gap back, reference, hstarts⟩ hnone
  | @next gap back _ reference _ hgap hstarts _ ih =>
      rcases not_hasReference_or_exists_of_scan hother with
        ⟨hnone, -, -⟩ | ⟨otherGap, otherBack, otherReference, _, heq, hotherGap, hotherStarts,
          hrest, rfl⟩
      · exact absurd ⟨back, List.suffix_append gap back, reference, hstarts⟩ hnone
      · obtain ⟨rfl, rfl⟩ :=
          eq_of_isGapBefore heq hgap hotherGap ⟨reference, hstarts⟩ ⟨otherReference, hotherStarts⟩
        have hfound := Reference.find?_eq_some_iff.mpr hstarts
        obtain rfl : reference = otherReference := Option.some.inj
          (hfound.symm.trans (Reference.find?_eq_some_iff.mpr hotherStarts))
        obtain ⟨rfl, rfl⟩ := ih hrest
        exact ⟨rfl, rfl⟩

/-! ## Rewriting along the references -/

theorem rewriteReferences_of_startsText {text : List Char} {reference : Reference}
    (hstarts : reference.StartsText text) :
    rewriteReferences text = reference.replacement ++ rewriteReferences reference.rest := by
  have hfound := Reference.find?_eq_some_iff.mpr hstarts
  obtain ⟨rest, rfl⟩ := eq_braces_of_startsReference ⟨reference, hstarts⟩
  rw [rewriteReferences]
  split
  · rename_i other hother
    obtain rfl := Option.some.inj (hfound.symm.trans hother)
    rfl
  · rename_i hnone
    cases hfound.symm.trans hnone

theorem rewriteReferences_cons {char : Char} {rest : List Char}
    (hnone : ¬StartsReference (char :: rest)) :
    rewriteReferences (char :: rest) = char :: rewriteReferences rest := by
  rw [rewriteReferences]
  split
  · rename_i reference hfound
    exact absurd ⟨reference, Reference.find?_eq_some_iff.mp hfound⟩ hnone
  · rfl

/-- A gap is kept as it is. -/
theorem rewriteReferences_append {gap back : List Char} (hgap : IsGapBefore gap back) :
    rewriteReferences (gap ++ back) = gap ++ rewriteReferences back := by
  induction gap with
  | nil => rfl
  | cons char gap ih =>
      have hnone : ¬StartsReference (char :: (gap ++ back)) :=
        hgap (char :: gap) List.suffix_rfl (List.cons_ne_nil char gap)
      have hrest : IsGapBefore gap back := fun start hstart =>
        hgap start (hstart.trans (List.suffix_cons char gap))
      rw [List.cons_append, rewriteReferences_cons hnone, ih hrest, List.cons_append]

/-- A text without references is left as it is. -/
theorem rewriteReferences_of_not_hasReference {text : List Char} (hnone : ¬HasReference text) :
    rewriteReferences text = text := by
  have hgap : IsGapBefore text [] := by
    intro start hstart _ hstarts
    rw [List.append_nil] at hstarts
    exact hnone ⟨start, hstart, hstarts⟩
  simpa [rewriteReferences] using rewriteReferences_append hgap

/-- Rewriting replaces the references that a scan finds. -/
theorem rewriteReferences_of_scan {text last : List Char}
    {found : List (List Char × Reference)} (hscan : Scan text found last) :
    rewriteReferences text = rewritten found last := by
  induction hscan with
  | done hnone => exact rewriteReferences_of_not_hasReference hnone
  | next hgap hstarts _ ih =>
      rw [rewriteReferences_append hgap, rewriteReferences_of_startsText hstarts, ih,
        rewritten_cons]

/-! ## What takes the place of a reference -/

namespace Reference

/-- The name of a reference has a letter or a digit. -/
def HasWord (reference : Reference) : Prop :=
  ∃ char ∈ reference.name, char.isAlphanum = true

instance (reference : Reference) : Decidable reference.HasWord :=
  List.decidableBEx _ _

theorem afterDash?_word (dash : Bool) {first : Char} (hfirst : isPlain first = true)
    (rest : List Char) : afterDash? dash (' ' :: first :: rest) = none := by
  have hdot : first ≠ '.' := by
    rintro rfl
    exact absurd hfirst (by decide)
  unfold afterDash?
  rw [List.dropWhile_cons_of_pos (by decide),
    List.dropWhile_cons_of_neg (by simp [isBlank_of_isPlain hfirst])]
  split
  · rename_i heq
    exact absurd (List.cons.inj heq).1 hdot
  · rfl

section Replacement

variable {reference : Reference} (hname : IsName reference.name) (hword : reference.HasWord)
include hname hword

theorem exists_replacement_eq :
    ∃ first rest, isPlain first = true ∧ '{' ∉ first :: rest ∧
      reference.replacement =
        '{' :: '{' :: ((if reference.dash then ['-'] else []) ++ ' ' :: first :: rest) := by
  obtain ⟨char, hchar, hletter⟩ := hword
  have hascii := isAscii_of_isName hname
  have halphanumeric : isAlphanumeric char = true := by
    rw [isAlphanumeric, if_pos (hascii char hchar), hletter]
  obtain ⟨first, rest, hsnake, hfirst⟩ := exists_snake_cons hascii hchar halphanumeric
  refine ⟨first, rest, hfirst, ?_, by rw [replacement, variableName, hsnake]⟩
  intro hbrace
  rw [← hsnake] at hbrace
  rcases isPlain_of_mem_snake hascii '{' hbrace with hbrace | hbrace <;>
    exact absurd hbrace (by decide)

/-- No reference begins in what takes the place of a reference.  It would begin with the two
braces, and a word follows there instead of a dot. -/
theorem isGapBefore_replacement (after : List Char) :
    IsGapBefore reference.replacement after := by
  obtain ⟨first, rest, hfirst, hbrace, hreplacement⟩ := exists_replacement_eq hname hword
  let tail := (if reference.dash then ['-'] else []) ++ ' ' :: first :: rest
  have hdash : '{' ∉ if reference.dash then ['-'] else [] := by
    cases reference.dash <;> decide
  have htail : '{' ∉ tail := by simpa [tail, hdash] using hbrace
  rw [hreplacement]
  apply isGapBefore_cons
  · rw [List.cons_append, ← find?_eq_none_iff]
    cases reference.dash with
    | true => exact afterDash?_word true hfirst (rest ++ after)
    | false => exact afterDash?_word false hfirst (rest ++ after)
  · apply isGapBefore_cons
    · intro hstarts
      obtain ⟨more, hmore⟩ := eq_braces_of_startsReference hstarts
      obtain ⟨head, others, hcons⟩ := List.exists_cons_of_ne_nil (l := tail) (by simp [tail])
      have hhead : '{' :: (head :: others ++ after) = '{' :: '{' :: more := by
        rw [← hcons]
        exact hmore
      obtain rfl : head = '{' := (List.cons.inj (List.cons.inj hhead).2).1
      exact htail (by rw [hcons]; exact List.mem_cons_self)
    · exact isGapBefore_of_not_mem htail after

end Replacement

end Reference

/-- Rewriting leaves no reference behind: one that begins in a gap ends before the braces
behind it and was there before. -/
theorem not_hasReference_rewritten {text last : List Char}
    {found : List (List Char × Reference)} (hscan : Scan text found last)
    (hwords : ∀ item ∈ found, item.2.HasWord) : ¬HasReference (rewritten found last) := by
  induction hscan with
  | done hnone => exact hnone
  | @next gap back last reference found hgap hstarts _ ih =>
      rw [List.forall_mem_cons] at hwords
      rw [rewritten_cons]
      intro hhas
      rcases hasReference_append hhas with ⟨start, hstart, hne, hbegins⟩ | hhas
      · exact hgap start hstart hne (startsReference_append_of_braces hne hbegins back)
      · rcases hasReference_append hhas with ⟨start, hstart, hne, hbegins⟩ | hhas
        · have hnone := reference.isGapBefore_replacement hstarts.isName hwords.1
          exact hnone _ start hstart hne hbegins
        · exact ih hwords.2 hhas

/-- A target expression is taken apart into gaps and references in one way; the gaps are kept,
and each reference becomes a variable.  When every name has a letter or a digit, the result
has no reference, so that it stays as it is, and only an expression without references is
its own result. -/
theorem normalizeExpression_outcome (expression : String) :
    (∃! parts : List (List Char × Reference) × List Char,
      Scan expression.toList parts.1 parts.2) ∧
    ∀ found last, Scan expression.toList found last →
      (normalizeExpression expression).toList = rewritten found last ∧
      ((∀ item ∈ found, item.2.HasWord) →
        ¬HasReference (normalizeExpression expression).toList ∧
        normalizeExpression (normalizeExpression expression) = normalizeExpression expression ∧
        (normalizeExpression expression = expression ↔ ¬HasReference expression.toList)) := by
  have hkept : ∀ text : String, ¬HasReference text.toList → normalizeExpression text = text := by
    intro text hnone
    rw [normalizeExpression, rewriteReferences_of_not_hasReference hnone, String.ofList_toList]
  refine ⟨?_, fun found last hscan => ?_⟩
  · obtain ⟨found, last, hscan⟩ := exists_scan expression.toList
    refine ⟨(found, last), hscan, fun parts hparts => ?_⟩
    obtain ⟨hfound, hlast⟩ := scan_unique hparts hscan
    exact Prod.ext hfound hlast
  have hrewritten : (normalizeExpression expression).toList = rewritten found last := by
    rw [normalizeExpression, String.toList_ofList, rewriteReferences_of_scan hscan]
  refine ⟨hrewritten, fun hwords => ?_⟩
  have hnone : ¬HasReference (normalizeExpression expression).toList := by
    rw [hrewritten]
    exact not_hasReference_rewritten hscan hwords
  refine ⟨hnone, hkept _ hnone, fun hsame => ?_, hkept expression⟩
  rwa [hsame] at hnone

theorem normalizeExpression_outcome_braces :
    normalizeExpression "\x7b\x7b\x7b\x7b-  ._V2Pet \x7d\x7d" =
        "\x7b\x7b\x7b\x7b- v2_pet \x7d\x7d" ∧
      ¬HasReference "\x7b\x7b\x7b\x7b- v2_pet \x7d\x7d".toList := by
  let reference : Reference := ⟨true, "_V2Pet".toList, " \x7d\x7d".toList⟩
  have hscan : Scan (['{', '{'] ++ "\x7b\x7b-  ._V2Pet \x7d\x7d".toList)
      [(['{', '{'], reference)] reference.rest :=
    .next (by decide +kernel) (Reference.find?_eq_some_iff.mp (by decide +kernel))
      (.done (by decide +kernel))
  obtain ⟨htext, hrest⟩ :=
    (normalizeExpression_outcome "\x7b\x7b\x7b\x7b-  ._V2Pet \x7d\x7d").2 _ _ hscan
  have hresult : normalizeExpression "\x7b\x7b\x7b\x7b-  ._V2Pet \x7d\x7d" =
      "\x7b\x7b\x7b\x7b- v2_pet \x7d\x7d" :=
    String.toList_injective (htext.trans (by decide +kernel))
  have hnone := (hrest (by decide +kernel)).1
  exact ⟨hresult, hresult ▸ hnone⟩

end Stencil.Target
