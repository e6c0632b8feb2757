import Stencil.Proofs.Path.Components
import Stencil.Value.Pointer

/-!
# Pointers to components

A pointer below `components` sees nothing of a document but that member, and the
pointer made of the keys on the way to a value finds this value.
-/

namespace Stencil.Value

open Stencil.Text

/-- The value under two keys below `components`. -/
def component? (document : Value) (kind name : String) : Option Value :=
  ((document.get? "components").bind fun components => components.get? kind).bind
    fun values => values.get? name

/-- The pointer to the value under two keys below `components`. -/
def componentPointer (kind name : String) : String :=
  "/components/" ++ String.ofList (keyToken kind ++ '/' :: keyToken name)

theorem step?_of_get? {value found : Value} {key : String} (hget : value.get? key = some found) :
    value.step? key = some found := by
  cases value with
  | object fields => exact hget
  | _ => cases hget

/-- A step by a key that is no index goes into objects only. -/
theorem step?_of_no_index {key : String} (hkey : index? key = none) (value : Value) :
    value.step? key = value.get? key := by
  cases value with
  | array items =>
      rw [step?, hkey]
      rfl
  | _ => rfl

theorem step?_components (document : Value) :
    document.step? "components" = document.get? "components" :=
  step?_of_no_index (by decide +kernel) document

/-- A pointer into the components goes on from there. -/
theorem pointer?_components (document : Value) (rest : String) :
    document.pointer? ("/components/" ++ rest) =
      (document.get? "components").bind fun components =>
        components.descend? ((pieces '/' rest.toList).map tokenKey) := by
  have htext : ("/components/" ++ rest).toList =
      '/' :: ("components".toList ++ '/' :: rest.toList) := by
    simp
  have hcomponents : (pieces '/' "components".toList).map tokenKey = ["components"] := by
    decide +kernel
  rw [pointer?, htext]
  simp only [Path.pieces_append_separator, List.map_append, hcomponents, List.singleton_append,
    descend?, step?_components]

theorem pointer?_schemas (document : Value) :
    document.pointer? "/components/schemas" =
      (document.get? "components").bind fun components => components.get? "schemas" := by
  have htext : "/components/schemas" = "/components/" ++ "schemas" := by decide +kernel
  have htokens : (pieces '/' "schemas".toList).map tokenKey = ["schemas"] := by decide +kernel
  rw [htext, pointer?_components, htokens]
  apply Option.bind_congr
  intro components _
  rw [descend?, step?_of_no_index (by decide +kernel)]
  exact Option.bind_fun_some _

/-- A component is found by the pointer made of its keys. -/
theorem pointer?_componentPointer {document value : Value} {kind name : String}
    (hcomponent : document.component? kind name = some value) :
    document.pointer? (componentPointer kind name) = some value := by
  obtain ⟨values, hvalues, hname⟩ := Option.bind_eq_some_iff.mp hcomponent
  obtain ⟨components, hcomponents, hkind⟩ := Option.bind_eq_some_iff.mp hvalues
  have htokens : (pieces '/' (keyToken kind ++ '/' :: keyToken name)).map tokenKey =
      [kind, name] := by
    rw [Path.pieces_append_separator, Path.pieces_of_not_mem (slash_not_mem_keyToken kind),
      Path.pieces_of_not_mem (slash_not_mem_keyToken name)]
    simp only [List.singleton_append, List.map_cons, List.map_nil, tokenKey_keyToken]
  rw [componentPointer, pointer?_components, String.toList_ofList, htokens, hcomponents]
  simp only [Option.bind_some, descend?, step?_of_get? hkind, step?_of_get? hname]

end Stencil.Value
