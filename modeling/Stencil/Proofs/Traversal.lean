import Mathlib.Data.List.Forall2

/-!
# Traversals that may fail

A traversal in `Except` succeeds exactly when it does for every item, and its
results are those of the items in order; otherwise it fails with the error of the
first item that fails, whatever items come later.
-/

namespace Stencil.Traversal

variable {α β ε : Type} {f : α → Except ε β}

/-- Two steps succeed when both do. -/
theorem bind_eq_ok_iff {γ : Type} {first : Except ε α} {next : α → Except ε γ} {result : γ} :
    (first >>= next) = .ok result ↔
      ∃ value, first = .ok value ∧ next value = .ok result := by
  cases first <;> simp [bind, Except.bind]

theorem bind_eq_error_iff {γ : Type} {first : Except ε α} {next : α → Except ε γ} {fault : ε} :
    (first >>= next) = .error fault ↔
      first = .error fault ∨ ∃ value, first = .ok value ∧ next value = .error fault := by
  cases first <;> simp [bind, Except.bind]

theorem eq_ok_of_toOption {attempt : Except ε α} {result : α}
    (hsome : attempt.toOption = some result) : attempt = .ok result := by
  cases attempt with
  | error fault => cases hsome
  | ok found => rw [Option.some.inj hsome]

theorem eq_error_of_map {γ : Type} {attempt : Except ε α} {g : α → γ} {fault : ε}
    (herror : attempt.map g = .error fault) : attempt = .error fault := by
  cases attempt with
  | error other => rw [Except.error.inj herror]
  | ok found => cases herror

theorem mapM_cons_eq (item : α) (items : List α) :
    (item :: items).mapM f =
      match f item with
      | .ok result => (items.mapM f).map (result :: ·)
      | .error fault => .error fault := by
  rw [List.mapM_cons]
  cases f item with
  | error fault => rfl
  | ok result => cases items.mapM f <;> rfl

/-- A traversal succeeds when every step does. -/
theorem mapM_eq_ok_iff {items : List α} {results : List β} :
    items.mapM f = .ok results ↔
      List.Forall₂ (fun item result => f item = .ok result) items results := by
  induction items generalizing results with
  | nil => simp [pure, Except.pure, eq_comm]
  | cons item items ih =>
      rw [mapM_cons_eq]
      constructor
      · intro hmap
        cases hitem : f item with
        | error fault => simp [hitem] at hmap
        | ok result =>
            cases hrest : items.mapM f with
            | error fault => simp [hitem, hrest, Except.map] at hmap
            | ok others =>
                obtain rfl : result :: others = results := by
                  simpa [hitem, hrest, Except.map] using hmap
                exact .cons hitem (ih.mp hrest)
      · rintro (_ | ⟨hitem, hrest⟩)
        simp [hitem, ih.mpr hrest, Except.map]

/-- Every result of a traversal is that of an item. -/
theorem exists_item_of_mem {γ : Type} {Related : α → γ → Prop} {items : List α}
    {results : List γ} (hresults : List.Forall₂ Related items results) {result : γ}
    (hresult : result ∈ results) : ∃ item ∈ items, Related item result := by
  induction hresults with
  | nil => cases hresult
  | cons hfirst _ ih =>
      rcases List.mem_cons.mp hresult with rfl | hlater
      · exact ⟨_, List.mem_cons_self, hfirst⟩
      · obtain ⟨item, hitem, hmade⟩ := ih hlater
        exact ⟨item, List.mem_cons_of_mem _ hitem, hmade⟩

/-- What every result keeps of its item, the results keep of the items in order. -/
theorem map_eq_of_forall₂ {γ δ : Type} {Related : α → γ → Prop} {items : List α}
    {results : List γ} (hresults : List.Forall₂ Related items results) {kept : α → δ}
    {view : γ → δ} (hkept : ∀ item result, Related item result → view result = kept item) :
    results.map view = items.map kept := by
  induction hresults with
  | nil => rfl
  | cons hfirst _ ih => rw [List.map_cons, List.map_cons, hkept _ _ hfirst, ih]

/-- A traversal ends at the first item that fails. -/
theorem mapM_eq_error_of_first {before after : List α} {item : α} {fault : ε}
    (hbefore : ∀ earlier ∈ before, ∃ result, f earlier = .ok result)
    (hitem : f item = .error fault) : (before ++ item :: after).mapM f = .error fault := by
  induction before with
  | nil => rw [List.nil_append, mapM_cons_eq, hitem]
  | cons first rest ih =>
      obtain ⟨result, hfirst⟩ := hbefore first List.mem_cons_self
      rw [List.cons_append, mapM_cons_eq, hfirst,
        ih fun earlier hearlier => hbefore earlier (List.mem_cons_of_mem _ hearlier)]
      rfl

/-- Traversals that agree place by place have the same result. -/
theorem mapM_eq_of_forall₂ {γ : Type} {g : γ → Except ε β} {left : List α} {right : List γ}
    (hagree : List.Forall₂ (fun first second => g second = f first) left right) :
    right.mapM g = left.mapM f := by
  induction hagree with
  | nil => rfl
  | cons hfirst _ ih => rw [mapM_cons_eq, mapM_cons_eq, hfirst, ih]

/-- A fold that fails has come to an item at which it fails. -/
theorem exists_failure_of_foldlM {step : β → α → Except ε β} {items : List α} {start : β}
    {fault : ε} (hfold : items.foldlM step start = .error fault) :
    ∃ before item after reached, items = before ++ item :: after ∧
      before.foldlM step start = .ok reached ∧ step reached item = .error fault := by
  induction items generalizing start with
  | nil => cases hfold
  | cons item rest ih =>
      rw [List.foldlM_cons] at hfold
      rcases bind_eq_error_iff.mp hfold with hitem | ⟨next, hnext, hrest⟩
      · exact ⟨[], item, rest, start, rfl, rfl, hitem⟩
      · obtain ⟨before, failing, after, reached, rfl, hbefore, hfailing⟩ := ih hrest
        refine ⟨item :: before, failing, after, reached, rfl, ?_, hfailing⟩
        rw [List.foldlM_cons, hnext]
        exact hbefore

end Stencil.Traversal
