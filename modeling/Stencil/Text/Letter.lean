import Stencil.Text.Alphanumeric
import Stencil.Text.LetterCase

/-!
# Classes and case mappings of characters

Below U+0080 every class is decided by comparing with ASCII ranges, so facts
about ASCII text need no table.  From there on the tables of Unicode properties
decide.
-/

namespace Stencil.Text

def isAscii (char : Char) : Bool :=
  char.toNat < 0x80

/-- Letters, letter-like marks, and numbers of every kind. -/
def isAlphanumeric (char : Char) : Bool :=
  if isAscii char then char.isAlphanum else Spans.contain alphanumericSpans char.toNat

def isUppercase (char : Char) : Bool :=
  if isAscii char then char.isUpper else Spans.contain uppercaseSpans char.toNat

def isLowercase (char : Char) : Bool :=
  if isAscii char then char.isLower else Spans.contain lowercaseSpans char.toNat

/-- Code points with the property White_Space. -/
def blankSpans : List Span :=
  [(0x9, 0xD, 1), (0x20, 0x20, 1), (0x85, 0x85, 1), (0xA0, 0xA0, 1), (0x1680, 0x1680, 1),
   (0x2000, 0x200A, 1), (0x2028, 0x2029, 1), (0x202F, 0x202F, 1), (0x205F, 0x205F, 1),
   (0x3000, 0x3000, 1)]

/-- Characters with the property White_Space. -/
def isBlank (char : Char) : Bool :=
  Spans.contain blankSpans char.toNat

/-- The image of a character under a table of shifts and a table of expansions. -/
private def mapped (shifts : List Shift) (expansions : List (Nat × List Nat)) (char : Char) :
    List Char :=
  match expansions.lookup char.toNat with
  | some codes => codes.map Char.ofNat
  | none => [((Shifts.image? shifts char.toNat).map Char.ofNat).getD char]

def lowercase (char : Char) : List Char :=
  if isAscii char then [char.toLower] else mapped lowercaseShifts lowercaseExpansions char

def uppercase (char : Char) : List Char :=
  if isAscii char then [char.toUpper] else mapped uppercaseShifts uppercaseExpansions char

theorem lowercase_of_ascii {char : Char} (hascii : isAscii char = true) :
    lowercase char = [char.toLower] := by
  simp [lowercase, hascii]

/-- An image is no smaller than that of the first member of some span. -/
private theorem exists_shift_of_image? {shifts : List Shift} {code image : Nat}
    (himage : Shifts.image? shifts code = some image) :
    ∃ shift ∈ shifts, (shift.1 : Int) + shift.2.2.2 ≤ image := by
  obtain ⟨shift, hfind, hshifted⟩ := Option.map_eq_some_iff.1 himage
  have hinside := List.find?_some hfind
  simp only [Span.contains, Bool.and_eq_true, decide_eq_true_eq] at hinside
  exact ⟨shift, List.mem_of_find?_eq_some hfind, by omega⟩

private theorem mem_of_lookup {expansions : List (Nat × List Nat)} {code : Nat}
    {codes : List Nat} (hlookup : expansions.lookup code = some codes) :
    (code, codes) ∈ expansions := by
  obtain ⟨before, after, hsplit, -⟩ := List.lookup_eq_some_iff.1 hlookup
  simp [hsplit]

private theorem eq_of_ofNat_eq_underscore {code : Nat} (hchar : Char.ofNat code = '_') :
    code = 0x5F := by
  by_cases hvalid : code.isValidChar
  · have hkept : Char.ofNat code = Char.ofNatAux code hvalid := dif_pos hvalid
    exact congrArg Char.toNat (hkept.symm.trans hchar)
  · have hreplaced : Char.ofNat code = Char.ofNat 0 := dif_neg hvalid
    exact absurd (hreplaced.symm.trans hchar) (by decide)

/-- No letter is lost when it is put in lower case. -/
theorem lowercase_ne_nil (char : Char) : lowercase char ≠ [] := by
  have hexpansions : ∀ entry ∈ lowercaseExpansions, entry.2 ≠ [] := by decide
  unfold lowercase mapped
  split
  · simp
  · split
    · rename_i codes hlookup
      simpa using hexpansions _ (mem_of_lookup hlookup)
    · simp

/-- Only the underscore is lowered to an underscore. -/
theorem underscore_not_mem_lowercase {char : Char} (hchar : char ≠ '_') :
    '_' ∉ lowercase char := by
  have hexpansions : ∀ entry ∈ lowercaseExpansions, 0x5F ∉ entry.2 := by decide
  have hshifts : ∀ shift ∈ lowercaseShifts, 0x5F < (shift.1 : Int) + shift.2.2.2 := by
    decide +kernel
  unfold lowercase mapped
  split
  · simp only [List.mem_singleton]
    unfold Char.toLower
    split
    · intro hlower
      have hcode : '_'.val = char.val + ('a'.val - 'A'.val) := congrArg Char.val hlower
      grind
    · exact Ne.symm hchar
  · split
    · rename_i codes hlookup
      intro hmem
      obtain ⟨code, hcode, hunderscore⟩ := List.mem_map.1 hmem
      rw [eq_of_ofNat_eq_underscore hunderscore] at hcode
      exact hexpansions _ (mem_of_lookup hlookup) hcode
    · simp only [List.mem_singleton]
      cases himage : Shifts.image? lowercaseShifts char.toNat with
      | none => simpa using Ne.symm hchar
      | some code =>
          intro hlower
          obtain ⟨shift, hshift, hcode⟩ := exists_shift_of_image? himage
          have habove := hshifts shift hshift
          have hunderscore := eq_of_ofNat_eq_underscore (by simpa using hlower.symm)
          omega

def trimStart (text : List Char) : List Char :=
  text.dropWhile isBlank

def trimEnd (text : List Char) : List Char :=
  (text.reverse.dropWhile isBlank).reverse

/-- The text without the blank characters at both ends. -/
def trim (text : List Char) : List Char :=
  trimEnd (trimStart text)

/-- The text without the blank characters at both ends. -/
def trimmed (text : String) : String :=
  String.ofList (trim text.toList)

/-- The pieces of a text between the occurrences of a character; there is always
one piece more than there are occurrences. -/
def pieces (separator : Char) : List Char → List (List Char)
  | [] => [[]]
  | char :: rest =>
      if char = separator then [] :: pieces separator rest
      else match pieces separator rest with
        | [] => [[char]]
        | first :: others => (char :: first) :: others

theorem pieces_ne_nil (separator : Char) (text : List Char) : pieces separator text ≠ [] := by
  induction text with
  | nil => simp [pieces]
  | cons char rest ih =>
      unfold pieces
      split
      · simp
      · split <;> simp

/-- What follows a given opening, when the text starts with it. -/
def afterPrefix? : List Char → List Char → Option (List Char)
  | [], text => some text
  | _ :: _, [] => none
  | char :: opening, head :: text => if char = head then afterPrefix? opening text else none

end Stencil.Text
