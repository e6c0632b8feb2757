import Mathlib.Data.List.Nodup
import Stencil.Proofs.Api.Sites
import Stencil.Proofs.Value.Keys

/-!
# Routes of operations

The route of an operation is the path and the method under which it stands.  A document has
an operation for every route at which it has an object, and for no other, in the order of
its paths and then of the methods.  As no path is there twice, neither is a route, and a
route leads back to the object from which the operation has been made.
-/

namespace Stencil.Api

def Operation.route (operation : Operation) : String × String :=
  (operation.path, operation.method)

def holdsObject (item : Value) (method : String) : Bool :=
  ((item.get? method).bind Value.fields?).isSome

/-- The routes at which some paths have an object, in the order of the paths and then of
the methods. -/
def routesOf (paths : Value.Fields) : List (String × String) :=
  paths.flatMap fun (path, item) =>
    (["get", "post", "put", "delete", "patch", "head", "options"].filter (holdsObject item)).map
      fun method => (path, method)

/-! ## Sites -/

theorem map_route_sitesOfItem (path : String) (item : Value) :
    ((sitesOfItem path item).map fun site => (site.path, site.method.word)) =
      ((Method.all.map Method.word).filter (holdsObject item)).map fun method =>
        (path, method) := by
  rw [sitesOfItem]
  induction Method.all with
  | nil => rfl
  | cons method rest ih =>
      rw [List.filterMap_cons, List.map_cons, List.filter_cons]
      rcases hmember : item.get? method.word with _ | (_ | _ | _ | _ | _ | fields) <;>
        simpa [holdsObject, hmember, Value.fields?] using ih

/-- The places of operations have the routes expected, in the order expected. -/
theorem map_route_sitesOf (paths : Value.Fields) :
    ((sitesOf paths).map fun site => (site.path, site.method.word)) = routesOf paths := by
  rw [sitesOf, List.map_flatMap, routesOf]
  simp only [map_route_sitesOfItem]
  rfl

/-- What an operation keeps of its place. -/
theorem route_and_id_of_operation {document : Value} {site : Site} {operation : Operation}
    (hoperation : site.operation document = .ok operation) :
    (site.path, site.method.word) = operation.route ∧ operation.id = site.id := by
  simp only [Site.operation, Traversal.bind_eq_ok_iff] at hoperation
  obtain ⟨_, -, _, -, _, -, _, -, hmade⟩ := hoperation
  rw [← Except.ok.inj hmade]
  exact ⟨rfl, rfl⟩

theorem map_route_of_operations {document : Value} {sites : List Site}
    {operations : List Operation}
    (hoperations : List.Forall₂ (fun site operation => site.operation document = .ok operation)
      sites operations) :
    operations.map Operation.route =
      sites.map fun site => (site.path, site.method.word) :=
  Traversal.map_eq_of_forall₂ hoperations fun _ _ hoperation =>
    (route_and_id_of_operation hoperation).1.symm

/-! ## Distinct routes -/

theorem mem_routesOf {paths : Value.Fields} {route : String × String}
    (hroute : route ∈ routesOf paths) : route.1 ∈ paths.map Prod.fst := by
  obtain ⟨entry, hentry, hmethod⟩ := List.mem_flatMap.mp hroute
  obtain ⟨method, -, rfl⟩ := List.mem_map.mp hmethod
  exact List.mem_map_of_mem hentry

/-- Where no path is repeated, no route is. -/
theorem nodup_routesOf {paths : Value.Fields} (hpaths : (paths.map Prod.fst).Nodup) :
    (routesOf paths).Nodup := by
  induction paths with
  | nil => exact List.nodup_nil
  | cons entry rest ih =>
      obtain ⟨hfirst, hrest⟩ := List.nodup_cons.mp hpaths
      rw [routesOf, List.flatMap_cons, List.nodup_append]
      refine ⟨?_, ih hrest, ?_⟩
      · apply List.Nodup.map
        · intro left right heq
          exact congrArg Prod.snd heq
        · apply List.Nodup.filter
          decide
      · rintro _ hleft right hright rfl
        obtain ⟨method, -, rfl⟩ := List.mem_map.mp hleft
        exact hfirst (mem_routesOf hright)

/-! ## The operations of a document -/

/-- The operations of a document that can be read have the routes at which it has an object,
in the order of its paths and then of the methods, and all of them differ.  The identifier
of an operation is the one stated by the object at its route, or else made of the route. -/
theorem operations_of_ofValue {raw : Value} {document : Document} (hsettled : raw.IsSettled)
    (hparse : Document.ofValue raw = .ok document) :
    ∃ paths, raw.get? "paths" = some (.object paths) ∧
      document.operations.map Operation.route = routesOf paths ∧
      (document.operations.map Operation.route).Nodup ∧
      ∀ operation ∈ document.operations, ∃ item fields,
        Value.field? paths operation.path = some item ∧
        item.get? operation.method = some (.object fields) ∧
        operation.id = (Value.text? (.object fields) "operationId").getD
          (Text.routeIdentifier operation.method operation.path) := by
  obtain ⟨version, info, operations, -, -, hoperations, rfl⟩ := ofValue_eq_ok_iff.mp hparse
  obtain ⟨hpaths, hsites⟩ := operationsOf_eq_ok_iff.mp hoperations
  obtain ⟨paths, hfields⟩ := Option.isSome_iff_exists.mp hpaths
  obtain ⟨member, hmember, hobject⟩ := Option.bind_eq_some_iff.mp hfields
  have hkeys : (paths.map Prod.fst).Nodup := (hsettled.get? hmember).nodup_keys hobject
  have hroutes : operations.map Operation.route = routesOf paths := by
    calc
      operations.map Operation.route =
          (sitesIn raw).map fun site => (site.path, site.method.word) :=
        map_route_of_operations hsites
      _ = (sitesOf paths).map fun site => (site.path, site.method.word) := by
        rw [sitesIn, fieldsOf, hfields]
        rfl
      _ = routesOf paths := map_route_sitesOf paths
  refine ⟨paths, ?_, hroutes, ?_, ?_⟩
  · cases member with
    | object fields => rw [hmember, Option.some.inj hobject]
    | _ => cases hobject
  · rw [hroutes]
    exact nodup_routesOf hkeys
  · intro operation hmem
    obtain ⟨site, hsite, hoperation⟩ := Traversal.exists_item_of_mem hsites hmem
    obtain ⟨entry, hentry, method, fields, hbody, rfl⟩ := mem_sitesIn.mp hsite
    obtain ⟨hroute, hid⟩ := route_and_id_of_operation hoperation
    obtain ⟨hpath, hmethod⟩ := Prod.mk.inj hroute
    rw [fieldsOf, hfields] at hentry
    refine ⟨entry.2, fields, ?_, ?_, ?_⟩
    · rw [← hpath]
      exact Value.field?_of_mem hkeys hentry
    · rw [← hmethod]
      exact hbody
    · rw [hid, ← hpath, ← hmethod]
      rfl

/-- Shops with their methods out of order, a key that is no method and an identifier that is
no text, beside a path without an object. -/
def streetRaw : Value :=
  .object [("swagger", .string "2.0"),
    ("info", .object [("title", .string "Street"), ("version", .string "1")]),
    ("paths", .object [
      ("/shops", .object [("delete", .object [("operationId", .whole 7)]), ("trace", .object []),
        ("put", .null), ("get", .object [("operationId", .string "listShops")])]),
      ("/closed", .string "get"),
      ("/", .object [("head", .object [])])])]

theorem operations_of_ofValue_street :
    streetRaw.IsSettled ∧ ∃ document, Document.ofValue streetRaw = .ok document ∧
      document.operations.map Operation.route =
        [("/shops", "get"), ("/shops", "delete"), ("/", "head")] ∧
      (document.operations.map Operation.route).Nodup ∧
      ∀ operation ∈ document.operations, operation.route = ("/shops", "delete") →
        operation.id = "delete_shops" := by
  have hsettled : streetRaw.IsSettled := ⟨streetRaw, rfl⟩
  have hread : (Document.ofValue streetRaw).toOption.isSome := by decide +kernel
  obtain ⟨document, hdocument⟩ := Option.isSome_iff_exists.mp hread
  have hparse := Traversal.eq_ok_of_toOption hdocument
  obtain ⟨paths, hpaths, hroutes, hnodup, hids⟩ := operations_of_ofValue hsettled hparse
  obtain rfl := Value.object.inj (Option.some.inj hpaths)
  refine ⟨hsettled, document, hparse, hroutes.trans (by decide +kernel), hnodup, ?_⟩
  intro operation hmem hroute
  obtain ⟨hpath, hmethod⟩ := Prod.mk.inj hroute
  obtain ⟨item, fields, hitem, hfields, hid⟩ := hids operation hmem
  rw [hpath] at hitem
  obtain rfl := Option.some.inj hitem
  rw [hmethod] at hfields
  obtain rfl := Value.object.inj (Option.some.inj hfields)
  rw [hid, hpath, hmethod]
  decide +kernel

end Stencil.Api
