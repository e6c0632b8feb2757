import Mathlib.Data.List.Defs
import Stencil.Proofs.Traversal

/-!
# Checks in order

A reader that may fail can be described by a list of checks, each given by the faults
with which it fails.  The reader fails with the fault of the first check that fails,
and succeeds when all pass.  Checks of readers that follow each other follow each
other as well.
-/

namespace Stencil

/-- The faults with which a check fails; it passes when there is none. -/
abbrev Check (ε : Type) := ε → Prop

namespace Check

variable {α β ε : Type}

def Passes (check : Check ε) : Prop :=
  ∀ fault, ¬ check fault

/-- The check that something holds, with one fault for when it does not. -/
def need (wanted : Prop) (fault : ε) : Check ε :=
  fun found => ¬ wanted ∧ found = fault

theorem passes_need {wanted : Prop} {fault : ε} : (need wanted fault).Passes ↔ wanted := by
  constructor
  · intro hpasses
    by_contra hwanted
    exact hpasses fault ⟨hwanted, rfl⟩
  · intro hwanted found hfails
    exact hfails.1 hwanted

def FirstFailure : List (Check ε) → ε → Prop
  | [], _ => False
  | check :: rest, fault => check fault ∨ check.Passes ∧ FirstFailure rest fault

/-- A list of checks fails first in its front, or else in its back. -/
theorem firstFailure_append {first second : List (Check ε)} {fault : ε} :
    FirstFailure (first ++ second) fault ↔
      FirstFailure first fault ∨ (∀ check ∈ first, check.Passes) ∧ FirstFailure second fault := by
  induction first with
  | nil => simp [FirstFailure]
  | cons check rest ih =>
      rw [List.cons_append, FirstFailure, FirstFailure, ih, List.forall_mem_cons]
      tauto

/-- Either all checks pass or one is the first to fail. -/
theorem forall_passes_iff {checks : List (Check ε)} :
    (∀ check ∈ checks, check.Passes) ↔ ∀ fault, ¬ FirstFailure checks fault := by
  induction checks with
  | nil => simp [FirstFailure]
  | cons check rest ih =>
      rw [List.forall_mem_cons, ih]
      constructor
      · rintro ⟨hcheck, hrest⟩ fault (hfails | ⟨-, hfails⟩)
        · exact hcheck fault hfails
        · exact hrest fault hfails
      · intro hnone
        have hcheck : check.Passes := fun fault hfails => hnone fault (.inl hfails)
        exact ⟨hcheck, fun fault hfails => hnone fault (.inr ⟨hcheck, hfails⟩)⟩

/-- The checks that decide whether an attempt fails, and with which fault. -/
def Decide (checks : List (Check ε)) (attempt : Except ε α) : Prop :=
  ∀ fault, attempt = .error fault ↔ FirstFailure checks fault

namespace Decide

theorem ok (result : α) : Decide ([] : List (Check ε)) (.ok result) := by
  intro fault
  simp [FirstFailure]

/-- An attempt with one check. -/
theorem single {check : Check ε} {attempt : Except ε α}
    (hcheck : ∀ fault, attempt = .error fault ↔ check fault) : Decide [check] attempt := by
  intro fault
  simp [FirstFailure, hcheck]

/-- An attempt succeeds when all its checks pass. -/
theorem exists_ok_iff {checks : List (Check ε)} {attempt : Except ε α}
    (hdecide : Decide checks attempt) :
    (∃ result, attempt = .ok result) ↔ ∀ check ∈ checks, check.Passes := by
  rw [forall_passes_iff]
  simp only [← hdecide _]
  cases attempt <;> simp

/-- Attempts that follow each other have their checks one after the other. -/
theorem bind {first : Except ε α} {next : α → Except ε β} {firstChecks nextChecks : List (Check ε)}
    (hfirst : Decide firstChecks first)
    (hnext : ∀ result, first = .ok result → Decide nextChecks (next result)) :
    Decide (firstChecks ++ nextChecks) (first >>= next) := by
  intro fault
  rw [firstFailure_append, ← hfirst fault, ← hfirst.exists_ok_iff]
  cases hresult : first with
  | error found => simp [Bind.bind, Except.bind]
  | ok result =>
      simp only [reduceCtorEq, false_or, Except.ok.injEq, exists_eq', true_and]
      exact hnext result hresult fault

/-- An attempt that first needs something to be there. -/
theorem need {wanted : Prop} {fault : ε} {found : Option α} {attempt : Except ε β}
    {checks : List (Check ε)} (hwanted : wanted ↔ ∃ value, found = some value)
    (hmissing : found = none → attempt = .error fault)
    (hpresent : ∀ value, found = some value → Decide checks attempt) :
    Decide (.need wanted fault :: checks) attempt := by
  intro other
  rw [FirstFailure, passes_need, Check.need, hwanted]
  cases found with
  | none => simp [hmissing, eq_comm]
  | some value => simpa using hpresent value rfl other

/-- Checks of the items of a list, one item after the other. -/
theorem mapM {items : List α} {read : α → Except ε β} {checks : α → List (Check ε)}
    (hitem : ∀ item, Decide (checks item) (read item)) :
    Decide (items.flatMap checks) (items.mapM read) := by
  induction items with
  | nil => exact ok []
  | cons item rest ih =>
      rw [List.mapM_cons, List.flatMap_cons]
      refine bind (hitem item) fun result _ => ?_
      rw [← List.append_nil (rest.flatMap checks)]
      exact bind ih fun results _ => ok (result :: results)

end Decide

/-- The checks that decide whether a search finds a fault, and which one. -/
def Reports (checks : List (Check ε)) (found : Option ε) : Prop :=
  ∀ fault, found = some fault ↔ FirstFailure checks fault

namespace Reports

theorem none : Reports ([] : List (Check ε)) none := by
  intro fault
  simp [FirstFailure]

/-- A search finds nothing when all its checks pass. -/
theorem eq_none_iff {checks : List (Check ε)} {found : Option ε}
    (hreports : Reports checks found) : found = .none ↔ ∀ check ∈ checks, check.Passes := by
  rw [forall_passes_iff, Option.eq_none_iff_forall_ne_some]
  exact forall_congr' fun fault => not_congr (hreports fault)

/-- Searches that follow each other have their checks one after the other. -/
theorem or {first second : Option ε} {firstChecks secondChecks : List (Check ε)}
    (hfirst : Reports firstChecks first) (hsecond : Reports secondChecks second) :
    Reports (firstChecks ++ secondChecks) (first.or second) := by
  intro fault
  rw [firstFailure_append, ← hfirst fault, ← hsecond fault, ← hfirst.eq_none_iff]
  exact Option.or_eq_some_iff

/-- A search that only needs something to hold. -/
theorem need {wanted : Prop} {missing : Bool} (hwanted : wanted ↔ missing = false) (fault : ε) :
    Reports [.need wanted fault] (if missing then some fault else .none) := by
  intro other
  cases missing <;> simp [FirstFailure, Check.need, hwanted, eq_comm]

/-- A search for an item for which something does not hold. -/
theorem find? {wanted : α → Prop} {bad : α → Bool}
    (hwanted : ∀ item, wanted item ↔ bad item = false) (fault : α → ε) (items : List α) :
    Reports (items.map fun item => Check.need (wanted item) (fault item))
      ((items.find? bad).map fault) := by
  induction items with
  | nil => exact none
  | cons item rest ih =>
      have hsearch : ((item :: rest).find? bad).map fault =
          (if bad item then some (fault item) else .none).or ((rest.find? bad).map fault) := by
        rw [List.find?_cons]
        cases bad item <;> rfl
      rw [hsearch]
      exact (need (hwanted item) (fault item)).or ih

end Reports

end Check

end Stencil
