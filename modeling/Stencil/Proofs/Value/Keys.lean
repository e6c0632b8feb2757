import Mathlib.Data.List.Find
import Mathlib.Data.List.Nodup
import Mathlib.Logic.Function.Basic
import Stencil.Value.Pointer

/-!
# Distinct keys

Reading a document merges the repeated keys of every object.  In a value with merged keys
no object has two fields with the same key, and the same holds of every value inside it,
so a key or a pointer says all about where something is.
-/

namespace Stencil.Value

/-- Setting a field adds its key at the end unless it is there. -/
theorem keys_put (key : String) (value : Value) (fields : Fields) :
    (put key value fields).map Prod.fst =
      if key ∈ fields.map Prod.fst then fields.map Prod.fst else fields.map Prod.fst ++ [key] := by
  induction fields with
  | nil => rfl
  | cons entry rest ih =>
      rw [put]
      by_cases hhere : entry.1 = key
      · simp [hhere]
      · rw [if_neg (by simpa using hhere), List.map_cons, ih, List.map_cons]
        by_cases hlater : key ∈ rest.map Prod.fst
        · rw [if_pos hlater, if_pos (List.mem_cons_of_mem _ hlater)]
        · have habsent : key ∉ entry.1 :: rest.map Prod.fst :=
            List.not_mem_cons_of_ne_of_not_mem (Ne.symm hhere) hlater
          rw [if_neg hlater, if_neg habsent, List.cons_append]

/-- Putting an entry repeats no key. -/
theorem nodup_keys_put {key : String} {value : Value} {fields : Fields}
    (hnodup : (fields.map Prod.fst).Nodup) : ((put key value fields).map Prod.fst).Nodup := by
  rw [keys_put]
  split
  · exact hnodup
  · rename_i habsent
    rw [← List.concat_eq_append]
    exact hnodup.concat habsent

theorem mem_put {key : String} {value : Value} {fields : Fields} {entry : String × Value}
    (hentry : entry ∈ put key value fields) : entry ∈ fields ∨ entry = (key, value) := by
  induction fields with
  | nil => exact .inr (List.mem_singleton.mp hentry)
  | cons first rest ih =>
      rw [put] at hentry
      split at hentry
      · rcases List.mem_cons.mp hentry with rfl | hrest
        · exact .inr rfl
        · exact .inl (List.mem_cons_of_mem _ hrest)
      · rcases List.mem_cons.mp hentry with rfl | hrest
        · exact .inl List.mem_cons_self
        · exact (ih hrest).imp_left (List.mem_cons_of_mem _)

/-- With distinct keys, every field is the one that its key finds. -/
theorem field?_of_mem {fields : Fields} (hkeys : (fields.map Prod.fst).Nodup)
    {entry : String × Value} (hentry : entry ∈ fields) :
    field? fields entry.1 = some entry.2 := by
  induction fields with
  | nil => cases hentry
  | cons first rest ih =>
      obtain ⟨hfirst, hrest⟩ := List.nodup_cons.mp hkeys
      rw [field?, List.find?_cons]
      rcases List.mem_cons.mp hentry with rfl | hlater
      · simp
      · have hne : first.1 ≠ entry.1 := by
          rintro heq
          exact hfirst (heq ▸ List.mem_map_of_mem hlater)
        rw [beq_eq_false_iff_ne.mpr hne]
        exact ih hrest hlater

/-- The first entry with a key is found. -/
theorem field?_append (left right : Fields) (key : String) :
    field? (left ++ right) key = (field? left key).or (field? right key) := by
  rw [field?, field?, field?, List.find?_append, Option.map_or]

theorem field?_eq_none {fields : Fields} {key : String} (habsent : key ∉ fields.map Prod.fst) :
    field? fields key = none := by
  rw [field?, Option.map_eq_none_iff, List.find?_eq_none]
  intro entry hentry hkey
  exact habsent (List.mem_map.mpr ⟨entry, hentry, beq_iff_eq.mp hkey⟩)

/-- The order of distinct keys does not matter. -/
theorem field?_of_perm {fields other : Fields} (hperm : fields.Perm other)
    (hkeys : (fields.map Prod.fst).Nodup) : field? other = field? fields := by
  funext key
  have hfind : fields.find? (fun entry => entry.1 == key) =
      other.find? fun entry => entry.1 == key := by
    apply List.find?_eq_find?_of_perm hperm
    rintro first ⟨hfirst, hkey⟩ second ⟨hsecond, hsame⟩
    apply List.inj_on_of_nodup_map hkeys hfirst hsecond
    rw [beq_iff_eq.mp hkey, beq_iff_eq.mp hsame]
  rw [field?, field?, hfind]

/-- Among distinct keys, entries that take the place of one entry under its key change what
is found under this key only. -/
theorem field?_replaced {before after : Fields} {key : String} {value : Value}
    (hkeys : ((before ++ (key, value) :: after).map Prod.fst).Nodup) {others : Fields}
    (hothers : ∀ other ∈ others, other.1 = key) :
    field? (before ++ others ++ after) =
      Function.update (field? (before ++ (key, value) :: after)) key (field? others key) := by
  rw [List.map_append, List.map_cons, List.nodup_middle, List.nodup_cons, List.mem_append,
    not_or] at hkeys
  obtain ⟨⟨hbefore, hafter⟩, -⟩ := hkeys
  funext sought
  rw [field?_append, field?_append, Function.update_apply]
  split
  · rename_i hsame
    rw [hsame, field?_eq_none hbefore, field?_eq_none hafter, Option.none_or, Option.or_none]
  · rename_i hne
    have hnone : field? others sought = none := by
      apply field?_eq_none
      intro hmem
      obtain ⟨other, hother, rfl⟩ := List.mem_map.mp hmem
      exact hne (hothers other hother)
    have hskip : field? ((key, value) :: after) sought = field? after sought := by
      rw [field?, List.find?_cons_of_neg (by simpa using Ne.symm hne), field?]
    rw [hnone, Option.or_none, field?_append, hskip]

theorem nodup_keys_settledFields {done : Fields} (fields : Fields)
    (hdone : (done.map Prod.fst).Nodup) : ((settledFields done fields).map Prod.fst).Nodup := by
  induction fields generalizing done with
  | nil => exact hdone
  | cons entry rest ih =>
      rw [settledFields]
      exact ih (nodup_keys_put hdone)

/-- The values of settled fields are settled. -/
theorem mem_settledFields {done fields : Fields} {entry : String × Value}
    (hentry : entry ∈ settledFields done fields) :
    entry ∈ done ∨ ∃ source, entry.2 = settled source := by
  induction fields generalizing done with
  | nil => exact .inl hentry
  | cons first rest ih =>
      rw [settledFields] at hentry
      rcases ih hentry with hput | hsettled
      · rcases mem_put hput with hdone | rfl
        · exact .inl hdone
        · exact .inr ⟨first.2, rfl⟩
      · exact .inr hsettled

theorem mem_settledItems {items : List Value} {item : Value}
    (hitem : item ∈ settledItems items) : ∃ source, item = settled source := by
  induction items with
  | nil => cases hitem
  | cons first rest ih =>
      rw [settledItems] at hitem
      rcases List.mem_cons.mp hitem with rfl | hrest
      · exact ⟨first, rfl⟩
      · exact ih hrest

/-- A value as reading gives it: the repeated keys of its objects have been merged. -/
def IsSettled (value : Value) : Prop :=
  ∃ source, value = settled source

namespace IsSettled

theorem nodup_keys {value : Value} {fields : Fields} (hsettled : value.IsSettled)
    (hfields : value.fields? = some fields) : (fields.map Prod.fst).Nodup := by
  obtain ⟨source, rfl⟩ := hsettled
  cases source with
  | object entries =>
      obtain rfl := Option.some.inj hfields
      exact nodup_keys_settledFields entries List.nodup_nil
  | _ => cases hfields

theorem of_mem_fields {fields : Fields} {entry : String × Value}
    (hsettled : (object fields).IsSettled) (hentry : entry ∈ fields) : entry.2.IsSettled := by
  obtain ⟨source, hsource⟩ := hsettled
  cases source with
  | object entries =>
      obtain rfl : fields = settledFields [] entries := by simpa [settled] using hsource
      exact (mem_settledFields hentry).resolve_left (List.not_mem_nil)
  | _ => simp [settled] at hsource

theorem of_mem_items {items : List Value} {item : Value} (hsettled : (array items).IsSettled)
    (hitem : item ∈ items) : item.IsSettled := by
  obtain ⟨source, hsource⟩ := hsettled
  cases source with
  | array others =>
      obtain rfl : items = settledItems others := by simpa [settled] using hsource
      exact mem_settledItems hitem
  | _ => simp [settled] at hsource

/-- Members of a settled value are settled. -/
theorem get? {value member : Value} {key : String} (hsettled : value.IsSettled)
    (hmember : value.get? key = some member) : member.IsSettled := by
  cases value with
  | object fields =>
      obtain ⟨entry, hentry, rfl⟩ := Option.map_eq_some_iff.mp hmember
      exact hsettled.of_mem_fields (List.mem_of_find?_eq_some hentry)
  | _ => cases hmember

theorem step? {value member : Value} {key : String} (hsettled : value.IsSettled)
    (hmember : value.step? key = some member) : member.IsSettled := by
  cases value with
  | object fields => exact hsettled.get? hmember
  | array items =>
      obtain ⟨index, -, hitem⟩ := Option.bind_eq_some_iff.mp hmember
      exact hsettled.of_mem_items (List.mem_of_getElem? hitem)
  | _ => cases hmember

theorem descend? {value member : Value} {keys : List String} (hsettled : value.IsSettled)
    (hmember : value.descend? keys = some member) : member.IsSettled := by
  induction keys generalizing value with
  | nil =>
      obtain rfl := Option.some.inj hmember
      exact hsettled
  | cons key rest ih =>
      obtain ⟨next, hnext, hrest⟩ := Option.bind_eq_some_iff.mp hmember
      exact ih (hsettled.step? hnext) hrest

theorem pointer? {value member : Value} {pointer : String} (hsettled : value.IsSettled)
    (hmember : value.pointer? pointer = some member) : member.IsSettled := by
  unfold Value.pointer? at hmember
  split at hmember
  · obtain rfl := Option.some.inj hmember
    exact hsettled
  · exact hsettled.descend? hmember
  · cases hmember

end IsSettled

end Stencil.Value
