import Mathlib.Data.String.Basic
import Mathlib.Tactic.SplitIfs

/-!
# The order of texts

Texts are compared by their code points, and their encodings by their bytes.  These orders
agree: the encoding of a character with a greater code point is greater in the first byte
that differs, and no encoding is the beginning of another one.  Sorting by a text gives the
same list for every order in which distinct texts are given.
-/

namespace Stencil.Text

/-! ## Bytes -/

def bytes (text : String) : List UInt8 :=
  text.toUTF8.data.toList

theorem bytes_eq_flatMap (text : String) :
    bytes text = text.toList.flatMap String.utf8EncodeChar := by
  have hencode : text.toUTF8 = text.toList.utf8Encode := by
    rw [← String.toByteArray_ofList, String.ofList_toList]
    rfl
  rw [bytes, hencode, List.utf8Encode, List.data_toByteArray]

private theorem toNat_byte {code : ℕ} (hcode : code < 256) : (UInt8.ofNat code).toNat = code :=
  UInt8.toNat_ofNat_of_lt' hcode

private theorem codePoint_lt (char : Char) : char.val.toNat < 1114112 := by
  rcases char.valid with hlow | hhigh
  · omega
  · exact hhigh.2

/-- The digits of a code point to the base of 64, from the third one on. -/
private theorem digits_of_lt {code : ℕ} (hcode : code < 1114112) :
    code / 4096 = code / 64 / 64 ∧ code / 262144 % 8 = code / 64 / 64 / 64 := by
  simp only [Nat.div_div_eq_div_mul, Nat.reduceMul, true_and]
  omega

theorem utf8EncodeChar_append_lt {left right : Char} (hlt : left < right)
    (afterLeft afterRight : List UInt8) :
    String.utf8EncodeChar left ++ afterLeft < String.utf8EncodeChar right ++ afterRight := by
  have hcodes : left.val.toNat < right.val.toNat := hlt
  have hright := codePoint_lt right
  have hleftDigits := digits_of_lt (codePoint_lt left)
  have hrightDigits := digits_of_lt hright
  simp only [String.utf8EncodeChar]
  generalize left.val.toNat = first at *
  generalize right.val.toNat = second at *
  -- every pair of lengths is a claim about the digits of two numbers
  simp only [hleftDigits, hrightDigits]
  split_ifs <;>
    simp (disch := omega) only [List.cons_append, List.nil_append, List.cons_lt_cons_iff,
      UInt8.lt_iff_toNat_lt, ← UInt8.toNat_inj, toNat_byte] <;>
    omega

theorem flatMap_utf8EncodeChar_lt {left right : List Char} (hlt : left < right) :
    left.flatMap String.utf8EncodeChar < right.flatMap String.utf8EncodeChar := by
  induction hlt with
  | @nil char rest =>
      obtain ⟨byte, others, hbytes⟩ :=
        List.exists_cons_of_ne_nil (@String.utf8EncodeChar_ne_nil char)
      rw [List.flatMap_cons, hbytes]
      exact .nil
  | cons _ ih => exact List.append_left_lt ih
  | rel hlt => exact utf8EncodeChar_append_lt hlt _ _

/-- Texts in order have their bytes in order. -/
theorem bytes_lt_bytes_of_lt {left right : String} (hlt : left < right) :
    bytes left < bytes right := by
  rw [bytes_eq_flatMap, bytes_eq_flatMap]
  exact flatMap_utf8EncodeChar_lt hlt

/-- Texts are ordered as their bytes are. -/
theorem bytes_lt_bytes_iff {left right : String} : bytes left < bytes right ↔ left < right := by
  constructor
  · intro hbytes
    rcases lt_trichotomy left right with hlt | rfl | hgt
    · exact hlt
    · exact absurd hbytes (List.lt_irrefl _)
    · exact absurd (bytes_lt_bytes_of_lt hgt) (List.lt_asymm hbytes)
  · exact bytes_lt_bytes_of_lt

/-! ## Sorting -/

section Sorting

variable {α : Type} {key : α → String} {le : α → α → Bool}
variable (hle : ∀ left right, le left right = true ↔ key left ≤ key right)
include hle

theorem pairwise_le_mergeSort (items : List α) :
    (items.mergeSort le).Pairwise fun left right => key left ≤ key right := by
  have hsorted := @List.pairwise_mergeSort _ le
    (by
      intro first second third hfirst hsecond
      rw [hle] at hfirst hsecond ⊢
      exact hfirst.trans hsecond)
    (by
      intro left right
      rw [Bool.or_eq_true, hle, hle]
      exact le_total _ _)
    items
  exact hsorted.imp fun hpair => (hle _ _).mp hpair

/-- Items with distinct keys come in the strict order of their keys. -/
theorem pairwise_lt_mergeSort {items : List α} (hnodup : (items.map key).Nodup) :
    (items.mergeSort le).Pairwise fun left right => key left < key right := by
  have hkeys : ((items.mergeSort le).map key).Nodup :=
    ((List.mergeSort_perm items le).map key).nodup_iff.mpr hnodup
  apply (pairwise_le_mergeSort hle items).imp₂ _ (List.pairwise_map.mp hkeys)
  intro left right hle hne
  exact lt_of_le_of_ne hle hne

/-- The order in which items with distinct keys are given does not matter. -/
theorem mergeSort_eq_of_perm {left right : List α} (hperm : left.Perm right)
    (hnodup : (right.map key).Nodup) : left.mergeSort le = right.mergeSort le := by
  have hsorted : (left.mergeSort le).Perm (right.mergeSort le) :=
    (List.mergeSort_perm left le).trans (hperm.trans (List.mergeSort_perm right le).symm)
  have hleft := pairwise_lt_mergeSort hle ((hperm.map key).nodup_iff.mpr hnodup)
  have hright := pairwise_lt_mergeSort hle hnodup
  apply hsorted.eq_of_pairwise _ hleft hright
  intro first second _ _ hlt hgt
  exact absurd hgt hlt.asymm

end Sorting

end Stencil.Text
