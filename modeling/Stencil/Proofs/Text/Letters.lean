import Stencil.Text.Words

/-!
# Letters of ASCII

Words made of lowercase letters and digits of ASCII are their own lower case, and
capitalizing one changes its first letter to an uppercase letter that is lowered to it
again.  There are few enough characters to look at each of them.
-/

namespace Stencil.Text

/-- The lowercase letters and the digits of ASCII. -/
def isPlain (char : Char) : Bool :=
  char.isLower || char.isDigit

/-- What holds of the first 128 code points holds of all ASCII. -/
theorem of_isAscii (holds : Char → Prop) (hcodes : ∀ code < 128, holds (Char.ofNat code))
    {char : Char} (hascii : isAscii char = true) : holds char := by
  have hcode : char.toNat < 128 := by simpa [isAscii] using hascii
  simpa using hcodes char.toNat hcode

theorem isAscii_of_isAlphanum {char : Char} (hchar : char.isAlphanum = true) :
    isAscii char = true := by
  unfold Char.isAlphanum Char.isAlpha Char.isUpper Char.isLower Char.isDigit at hchar
  simp only [Bool.or_eq_true, Bool.and_eq_true, decide_eq_true_eq, ge_iff_le,
    UInt32.le_iff_toNat_le, Char.toNat_val, Char.reduceVal, UInt32.reduceToNat] at hchar
  simp only [isAscii, decide_eq_true_eq]
  omega

/-- The separators, one by one. -/
theorem cases_of_isSeparator {char : Char} (hseparator : isSeparator char = true) :
    char = '-' ∨ char = '_' ∨ char = ' ' ∨ char = '.' := by
  simpa [isSeparator, or_assoc] using hseparator

theorem isSeparator_of_isAlphanumeric {char : Char} (hletter : isAlphanumeric char = true) :
    isSeparator char = false := by
  rw [Bool.eq_false_iff]
  intro hseparator
  rcases cases_of_isSeparator hseparator with rfl | rfl | rfl | rfl <;>
    exact absurd hletter (by decide)

/-- An uppercase letter of ASCII is lowered to a letter of ASCII. -/
theorem isPlain_of_mem_lowercase {char : Char} (hascii : isAscii char = true)
    (hupper : isUppercase char = true) : ∀ image ∈ lowercase char, isPlain image = true := by
  have hlower : isUppercase char = true → isPlain char.toLower = true :=
    of_isAscii (fun char => isUppercase char = true → isPlain char.toLower = true)
      (by decide +kernel) hascii
  intro image himage
  obtain rfl : image = char.toLower := by simpa [lowercase_of_ascii hascii] using himage
  exact hlower hupper

theorem isPlain_of_isAlphanumeric {char : Char} (hascii : isAscii char = true)
    (hletter : isAlphanumeric char = true) (hlow : isUppercase char = false) :
    isPlain char = true :=
  of_isAscii (fun char => isAlphanumeric char = true → isUppercase char = false →
    isPlain char = true) (by decide +kernel) hascii hletter hlow

section Plain

variable {char : Char} (hplain : isPlain char = true)
include hplain

theorem isAlphanum_of_isPlain : char.isAlphanum = true := by
  unfold Char.isAlphanum Char.isAlpha
  rw [isPlain, Bool.or_eq_true] at hplain
  rcases hplain with hlower | hdigit
  · simp [hlower]
  · simp [hdigit]

theorem isAscii_of_isPlain : isAscii char = true :=
  isAscii_of_isAlphanum (isAlphanum_of_isPlain hplain)

/-- What holds of these characters among the first 128 holds of each of them. -/
theorem of_isPlain (holds : Char → Prop)
    (hcodes : ∀ code < 128, isPlain (Char.ofNat code) = true → holds (Char.ofNat code)) :
    holds char :=
  of_isAscii (fun char => isPlain char = true → holds char) hcodes (isAscii_of_isPlain hplain)
    hplain

theorem isAlphanumeric_of_isPlain : isAlphanumeric char = true :=
  of_isPlain hplain (fun char => isAlphanumeric char = true) (by decide +kernel)

theorem isUppercase_of_isPlain : isUppercase char = false :=
  of_isPlain hplain (fun char => isUppercase char = false) (by decide +kernel)

theorem endsWord_of_isPlain : endsWord char = true :=
  of_isPlain hplain (fun char => endsWord char = true) (by decide +kernel)

theorem isBlank_of_isPlain : isBlank char = false :=
  of_isPlain hplain (fun char => isBlank char = false) (by decide +kernel)

end Plain

section Lower

variable {char : Char} (hlower : char.isLower = true)
include hlower

theorem isPlain_of_isLower : isPlain char = true := by
  rw [isPlain, hlower, Bool.true_or]

/-- The uppercase letter of a lowercase letter is lowered to the latter. -/
theorem uppercase_of_isLower :
    uppercase char = [char.toUpper] ∧ isUppercase char.toUpper = true ∧
      lowercase char.toUpper = [char] ∧ isAlphanumeric char.toUpper = true :=
  of_isPlain (isPlain_of_isLower hlower) (fun char => char.isLower = true →
      uppercase char = [char.toUpper] ∧ isUppercase char.toUpper = true ∧
        lowercase char.toUpper = [char] ∧ isAlphanumeric char.toUpper = true)
    (by decide +kernel) hlower

theorem isUpper_toUpper : char.toUpper.isUpper = true :=
  of_isPlain (isPlain_of_isLower hlower)
    (fun char => char.isLower = true → char.toUpper.isUpper = true) (by decide +kernel) hlower

end Lower

end Stencil.Text
