import Mathlib.Data.List.Forall2
import Stencil.Value.Basic

/-!
# Values that differ in some members

Two values are related member by member when they are equal, or are both arrays or
both objects whose members at the same places are related.  For objects the relation
may depend on the key.
-/

namespace Stencil.Value

/-- Equal values, or arrays whose items are related one by one. -/
inductive OnItems (related : Value → Value → Prop) : Value → Value → Prop where
  | same (value : Value) : OnItems related value value
  | array {left right : List Value} (hitems : List.Forall₂ related left right) :
      OnItems related (.array left) (.array right)

/-- Equal values, or objects with the same keys whose values are related one by one. -/
inductive OnFields (related : String → Value → Value → Prop) : Value → Value → Prop where
  | same (value : Value) : OnFields related value value
  | object {left right : Fields}
      (hfields : List.Forall₂
        (fun before after => before.1 = after.1 ∧ related before.1 before.2 after.2) left right) :
      OnFields related (.object left) (.object right)

theorem rel_imp {weaker related : Value → Value → Prop} {left right : Option Value}
    (hmember : Option.Rel related left right)
    (himp : ∀ before after, related before after → weaker before after) :
    Option.Rel weaker left right := by
  cases hmember with
  | none => exact .none
  | some hrelated => exact .some (himp _ _ hrelated)

/-- Members that can only be related to themselves are the same. -/
theorem eq_of_rel {related : Value → Value → Prop} {left right : Option Value}
    (hmember : Option.Rel related left right) (heq : ∀ before after, related before after →
      after = before) : right = left := by
  cases hmember with
  | none => rfl
  | some hrelated => rw [heq _ _ hrelated]

theorem forall₂_items {related : Value → Value → Prop} (hrefl : ∀ value, related value value)
    {left right : Option Value} (hmember : Option.Rel (OnItems related) left right) :
    List.Forall₂ related ((left.bind items?).getD []) ((right.bind items?).getD []) := by
  rcases hmember with (value | hitems) | _
  · exact List.forall₂_same.mpr fun value _ => hrefl value
  · exact hitems
  · exact .nil

section Fields

variable {related : String → Value → Value → Prop} (hrefl : ∀ key value, related key value value)
include hrefl

theorem forall₂_fields {left right : Option Value}
    (hmember : Option.Rel (OnFields related) left right) :
    List.Forall₂ (fun before after => before.1 = after.1 ∧ related before.1 before.2 after.2)
      ((left.bind fields?).getD []) ((right.bind fields?).getD []) := by
  rcases hmember with (value | hfields) | _
  · exact List.forall₂_same.mpr fun entry _ => ⟨rfl, hrefl entry.1 entry.2⟩
  · exact hfields
  · exact .nil

/-- Members under the same key are related, and are both there or both missing. -/
theorem rel_get? {left right : Value} (hvalues : OnFields related left right) (key : String) :
    Option.Rel (related key) (left.get? key) (right.get? key) := by
  rcases hvalues with value | hfields
  · cases left.get? key with
    | none => exact .none
    | some member => exact .some (hrefl key member)
  · rw [get?_object, get?_object]
    induction hfields with
    | nil => exact .none
    | @cons before after _ _ hentry _ ih =>
        obtain ⟨hkey, hrelated⟩ := hentry
        by_cases hfound : before.1 = key
        · simp only [field?, List.find?_cons, ← hkey, hfound, beq_self_eq_true]
          exact .some (hfound ▸ hrelated)
        · have hother : (before.1 == key) = false := by simpa using hfound
          simpa only [field?, List.find?_cons, ← hkey, hother] using ih

end Fields

end Stencil.Value
