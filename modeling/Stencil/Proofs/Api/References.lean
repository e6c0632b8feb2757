import Stencil.Api.Operations

/-!
# What references point to

A value without a reference stands for itself.  One with a reference stands for what
the local pointer in it finds in the document; a reference to another place, or to
nothing, is a fault.
-/

namespace Stencil.Api

theorem text?_eq_some_iff {value : Value} {key text : String} :
    value.text? key = some text ↔ value.get? key = some (.string text) := by
  rw [Value.text?, Option.bind_eq_some_iff]
  constructor
  · rintro ⟨found, hfound, htext⟩
    cases found with
    | string other =>
        obtain rfl : other = text := by simpa [Value.string?] using htext
        exact hfound
    | _ => cases htext
  · intro hget
    exact ⟨.string text, hget, rfl⟩

/-- What a value in a document stands for. -/
inductive ResolvesTo (document value : Value) : Value → Prop where
  | itself (hinline : value.text? "$ref" = none) : ResolvesTo document value value
  | pointee {pointer : String} {target : Value}
      (hreference : value.text? "$ref" = some ("#" ++ pointer))
      (htarget : document.pointer? pointer = some target) : ResolvesTo document value target

/-- Why a value in a document stands for nothing. -/
inductive Unresolvable (document value : Value) : Fault → Prop where
  | remote {reference : String} (hreference : value.text? "$ref" = some reference)
      (hremote : ∀ pointer, reference ≠ "#" ++ pointer) :
      Unresolvable document value (.remoteReference reference)
  | broken {pointer : String} (hreference : value.text? "$ref" = some ("#" ++ pointer))
      (hmissing : document.pointer? pointer = none) :
      Unresolvable document value (.brokenReference ("#" ++ pointer))

theorem resolve_of_inline {value : Value} (document : Value)
    (hinline : value.text? "$ref" = none) : resolve document value = .ok value := by
  rw [resolve, hinline]

theorem resolve_of_local {value : Value} (document : Value) {pointer : String}
    (hreference : value.text? "$ref" = some ("#" ++ pointer)) :
    resolve document value =
      match document.pointer? pointer with
      | some target => .ok target
      | none => .error (.brokenReference ("#" ++ pointer)) := by
  have hpointer : ("#" ++ pointer).toList = '#' :: pointer.toList := by simp
  rw [resolve, hreference]
  cases hfound : document.pointer? pointer <;>
    simp only [hpointer, String.ofList_toList, hfound]

theorem resolve_of_remote {value : Value} (document : Value) {reference : String}
    (hreference : value.text? "$ref" = some reference)
    (hremote : ∀ pointer, reference ≠ "#" ++ pointer) :
    resolve document value = .error (.remoteReference reference) := by
  rw [resolve, hreference]
  simp only
  split
  · rename_i pointer hpointer
    refine absurd ?_ (hremote (String.ofList pointer))
    rw [← String.ofList_toList (s := reference), hpointer]
    simp
  · rfl

/-- A value has no reference, or a local one, or a remote one. -/
theorem cases_of_reference (value : Value) :
    value.text? "$ref" = none ∨
      (∃ pointer, value.text? "$ref" = some ("#" ++ pointer)) ∨
      ∃ reference, value.text? "$ref" = some reference ∧
        ∀ pointer, reference ≠ "#" ++ pointer := by
  cases hreference : value.text? "$ref" with
  | none => exact .inl rfl
  | some reference =>
      by_cases hlocal : ∃ pointer, reference = "#" ++ pointer
      · obtain ⟨pointer, rfl⟩ := hlocal
        exact .inr (.inl ⟨pointer, rfl⟩)
      · exact .inr (.inr ⟨reference, rfl, not_exists.mp hlocal⟩)

/-- Resolving succeeds with what the value stands for. -/
theorem resolve_eq_ok_iff {document value target : Value} :
    resolve document value = .ok target ↔ ResolvesTo document value target := by
  constructor
  · intro hresolve
    rcases cases_of_reference value with hinline | ⟨pointer, hlocal⟩ | ⟨reference, href, hremote⟩
    · rw [resolve_of_inline document hinline] at hresolve
      exact Except.ok.inj hresolve ▸ .itself hinline
    · rw [resolve_of_local document hlocal] at hresolve
      cases hfound : document.pointer? pointer with
      | none => simp [hfound] at hresolve
      | some found =>
          simp only [hfound, Except.ok.injEq] at hresolve
          exact .pointee hlocal (hresolve ▸ hfound)
    · rw [resolve_of_remote document href hremote] at hresolve
      cases hresolve
  · rintro (hinline | ⟨hlocal, htarget⟩)
    · exact resolve_of_inline document hinline
    · rw [resolve_of_local document hlocal, htarget]

/-- Resolving fails for values that stand for nothing, with the reason. -/
theorem resolve_eq_error_iff {document value : Value} {fault : Fault} :
    resolve document value = .error fault ↔ Unresolvable document value fault := by
  constructor
  · intro hresolve
    rcases cases_of_reference value with hinline | ⟨pointer, hlocal⟩ | ⟨reference, href, hremote⟩
    · rw [resolve_of_inline document hinline] at hresolve
      cases hresolve
    · rw [resolve_of_local document hlocal] at hresolve
      cases hfound : document.pointer? pointer with
      | none =>
          simp only [hfound, Except.error.injEq] at hresolve
          exact hresolve ▸ .broken hlocal hfound
      | some found => simp [hfound] at hresolve
    · rw [resolve_of_remote document href hremote] at hresolve
      exact Except.error.inj hresolve ▸ .remote href hremote
  · rintro (⟨href, hremote⟩ | ⟨hlocal, hmissing⟩)
    · exact resolve_of_remote document href hremote
    · rw [resolve_of_local document hlocal, hmissing]

end Stencil.Api
