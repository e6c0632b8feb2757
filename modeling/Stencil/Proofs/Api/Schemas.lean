import Mathlib.Data.List.Nodup
import Mathlib.Data.List.Perm.Basic
import Stencil.Proofs.Api.Sites
import Stencil.Proofs.Value.Keys
import Stencil.Proofs.Value.Pointers

/-!
# Named schemas

The schemas of a document are split in two, in document order: those that list their values
are enumerations, all others are models.  Their names are the keys of the schemas; where keys
are not repeated, neither are these names, and a name leads back to its model.
-/

namespace Stencil.Api

/-- The names of the schemas of a document that do not list their values, in order. -/
def modelNames (raw : Value) : List String :=
  ((schemasOf raw).filter fun schema => (listedValues? schema.2).isNone).map Prod.fst

theorem map_name_modelsOf (schemas : Value.Fields) :
    (modelsOf schemas).map Model.name =
      (schemas.filter fun schema => (listedValues? schema.2).isNone).map Prod.fst := by
  induction schemas with
  | nil => rfl
  | cons schema rest ih =>
      rw [modelsOf] at ih
      rw [modelsOf, List.filterMap_cons, List.filter_cons]
      cases hlisted : listedValues? schema.2 <;> simpa [model?, hlisted] using ih

theorem models_of_ofValue {raw : Value} {document : Document}
    (hdocument : Document.ofValue raw = .ok document) :
    document.models = modelsOf (schemasOf raw) := by
  obtain ⟨version, -, hrest⟩ := Traversal.bind_eq_ok_iff.mp hdocument
  obtain ⟨info, -, hrest⟩ := Traversal.bind_eq_ok_iff.mp hrest
  obtain ⟨operations, -, hrest⟩ := Traversal.bind_eq_ok_iff.mp hrest
  obtain rfl := Except.ok.inj hrest
  rfl

theorem map_name_models_of_ofValue {raw : Value} {document : Document}
    (hdocument : Document.ofValue raw = .ok document) :
    document.models.map Model.name = modelNames raw := by
  rw [models_of_ofValue hdocument, map_name_modelsOf, modelNames]

/-- No two schemas have the same name, since repeated keys have been merged. -/
theorem nodup_keys_schemasOf {raw : Value} (hsettled : raw.IsSettled) :
    ((schemasOf raw).map Prod.fst).Nodup := by
  rw [schemasOf]
  cases hplace : (raw.pointer? "/components/schemas").or (raw.get? "definitions") with
  | none => exact List.nodup_nil
  | some schemas =>
      have hschemas : schemas.IsSettled := by
        rcases Option.or_eq_some_iff.mp hplace with hpointer | ⟨-, hdefinitions⟩
        · exact hsettled.pointer? hpointer
        · exact hsettled.get? hdefinitions
      rw [Option.bind_some]
      cases hfields : schemas.fields? with
      | none => exact List.nodup_nil
      | some fields => exact hschemas.nodup_keys hfields

theorem nodup_modelNames {raw : Value} (hsettled : raw.IsSettled) : (modelNames raw).Nodup := by
  rw [modelNames]
  exact (List.filter_sublist.map Prod.fst).nodup (nodup_keys_schemasOf hsettled)

/-! ## What a document says of its schemas -/

/-- The schemas that a document names: those among its components, or else its definitions. -/
def namedSchemas (raw : Value) : Value.Fields :=
  fieldsOf (((raw.get? "components").bind fun components => components.get? "schemas").or
    (raw.get? "definitions"))

def listsValues (schema : Value) : Bool :=
  match schema.get? "enum" with
  | some (.array _) => true
  | _ => false

namespace Enumeration

/-- What an enumeration says of the schema under its name. -/
structure StandsFor (enumeration : Enumeration) (schema : String × Value) : Prop where
  name_eq : enumeration.name = schema.1
  description_eq : enumeration.description = schema.2.text? "description"
  valueType_eq : enumeration.valueType = (schema.2.text? "type").getD "string"
  values_eq : schema.2.get? "enum" = some (.array enumeration.values)

end Enumeration

namespace Property

/-- What a property says of a field of a schema that requires some names. -/
structure StandsFor (required : List Value) (property : Property) (field : String × Value) :
    Prop where
  name_eq : property.name = field.1
  description_eq : property.description = field.2.text? "description"
  schema_eq : property.schema = field.2
  required_iff : property.required = true ↔ Value.string field.1 ∈ required

end Property

namespace Model

/-- What a model says of the schema under its name. -/
structure StandsFor (model : Model) (schema : String × Value) : Prop where
  name_eq : model.name = schema.1
  description_eq : model.description = schema.2.text? "description"
  schema_eq : model.schema = schema.2
  properties : List.Forall₂
    (fun field property =>
      Property.StandsFor (itemsOf (schema.2.get? "required")) property field)
    (fieldsOf (schema.2.get? "properties")) model.properties

end Model

theorem schemasOf_eq_namedSchemas (raw : Value) : schemasOf raw = namedSchemas raw := by
  rw [schemasOf, Value.pointer?_schemas]
  rfl

theorem listedValues?_eq_some_iff {schema : Value} {values : List Value} :
    listedValues? schema = some values ↔ schema.get? "enum" = some (.array values) := by
  rw [listedValues?, Option.bind_eq_some_iff]
  constructor
  · rintro ⟨found, hfound, hvalues⟩
    cases found with
    | array items => rw [hfound, Option.some.inj hvalues]
    | _ => cases hvalues
  · intro hfound
    exact ⟨.array values, hfound, rfl⟩

/-- A schema without listed values is a model. -/
theorem listedValues?_eq_none_iff {schema : Value} :
    listedValues? schema = none ↔ listsValues schema = false := by
  rw [listedValues?, listsValues]
  rcases schema.get? "enum" with _ | (_ | _ | _ | _ | _ | _) <;> simp [Value.items?]

theorem mem_requiredNames {schema : Value} {name : String} :
    name ∈ requiredNames schema ↔ Value.string name ∈ itemsOf (schema.get? "required") := by
  rw [requiredNames, ← itemsOf, List.mem_filterMap]
  constructor
  · rintro ⟨item, hitem, htext⟩
    cases item with
    | string text => rwa [← Option.some.inj htext]
    | _ => cases htext
  · intro hitem
    exact ⟨.string name, hitem, rfl⟩

/-! ## The two halves -/

/-- What is made of the items that are kept relates to them in order. -/
private theorem forall₂_filter_filterMap {α β : Type} {Related : α → β → Prop} {keep : α → Bool}
    {make : α → Option β} (hdropped : ∀ item, keep item = false → make item = none)
    (hmade : ∀ item, keep item = true → ∃ result, make item = some result ∧ Related item result)
    (items : List α) : List.Forall₂ Related (items.filter keep) (items.filterMap make) := by
  induction items with
  | nil => exact .nil
  | cons item rest ih =>
      cases hkeep : keep item with
      | false =>
          rw [List.filter_cons_of_neg (by simp [hkeep]),
            List.filterMap_cons_none (hdropped item hkeep)]
          exact ih
      | true =>
          obtain ⟨result, hresult, hrelated⟩ := hmade item hkeep
          rw [List.filter_cons_of_pos hkeep, List.filterMap_cons_some hresult]
          exact .cons hrelated ih

/-- The enumerations stand for the schemas that list their values, in order. -/
theorem forall₂_enumerationsOf (schemas : Value.Fields) :
    List.Forall₂ (fun schema enumeration => Enumeration.StandsFor enumeration schema)
      (schemas.filter fun schema => listsValues schema.2) (enumerationsOf schemas) := by
  apply forall₂_filter_filterMap
  · intro schema hplain
    simp only [enumeration?, listedValues?_eq_none_iff.mpr hplain, Option.map_none]
  · intro schema hlists
    cases hvalues : listedValues? schema.2 with
    | none => simp [listedValues?_eq_none_iff.mp hvalues] at hlists
    | some values =>
        refine ⟨_, congrArg (Option.map _) hvalues, rfl, rfl, rfl, ?_⟩
        exact listedValues?_eq_some_iff.mp hvalues

theorem forall₂_propertiesOf (schema : Value) :
    List.Forall₂ (fun field property =>
        Property.StandsFor (itemsOf (schema.get? "required")) property field)
      (fieldsOf (schema.get? "properties")) (propertiesOf schema) := by
  rw [propertiesOf, ← fieldsOf, List.forall₂_map_right_iff]
  apply List.forall₂_same.mpr
  intro field _
  refine ⟨rfl, rfl, rfl, ?_⟩
  rw [List.contains_iff_mem]
  exact mem_requiredNames

/-- The models stand for all other schemas, in order. -/
theorem forall₂_modelsOf (schemas : Value.Fields) :
    List.Forall₂ (fun schema model => Model.StandsFor model schema)
      (schemas.filter fun schema => !listsValues schema.2) (modelsOf schemas) := by
  apply forall₂_filter_filterMap
  · intro schema hlists
    cases hvalues : listedValues? schema.2 with
    | none => simp [listedValues?_eq_none_iff.mp hvalues] at hlists
    | some values => simp only [model?, hvalues]
  · intro schema hplain
    have hvalues : listedValues? schema.2 = none := by
      rw [listedValues?_eq_none_iff]
      simpa using hplain
    refine ⟨⟨schema.1, schema.2.text? "description", propertiesOf schema.2, schema.2⟩, ?_,
      rfl, rfl, rfl, forall₂_propertiesOf schema.2⟩
    simp only [model?, hvalues]

/-- The enumerations and the models together have the names of all schemas. -/
theorem perm_names (schemas : Value.Fields) :
    ((enumerationsOf schemas).map Enumeration.name ++ (modelsOf schemas).map Model.name).Perm
      (schemas.map Prod.fst) := by
  have henumerations := Traversal.map_eq_of_forall₂ (forall₂_enumerationsOf schemas)
    fun _ _ hstands => hstands.name_eq
  have hmodels := Traversal.map_eq_of_forall₂ (forall₂_modelsOf schemas)
    fun _ _ hstands => hstands.name_eq
  rw [henumerations, hmodels, ← List.map_append]
  exact (List.filter_append_perm (fun schema => listsValues schema.2) schemas).map Prod.fst

/-! ## Models by name -/

namespace Document

/-- When no two models have the same name, a name leads to the model that has it. -/
theorem model?_of_mem {document : Document} (hnodup : (document.models.map Model.name).Nodup)
    {model : Model} (hmodel : model ∈ document.models) :
    document.model? model.name = some model := by
  cases hfound : document.model? model.name with
  | none =>
      have hother := List.find?_eq_none.mp hfound model hmodel
      simp at hother
  | some other =>
      have hname : other.name = model.name := by simpa using List.find?_some hfound
      rw [List.inj_on_of_nodup_map hnodup (List.mem_of_find?_eq_some hfound) hmodel hname]

theorem model?_eq_none {document : Document} {name : String}
    (hname : name ∉ document.models.map Model.name) : document.model? name = none := by
  apply List.find?_eq_none.mpr
  intro model hmodel hsame
  apply hname
  rw [← beq_iff_eq.mp hsame]
  exact List.mem_map_of_mem hmodel

end Document

/-- The schemas of a document that can be read.  Those that list their values are its
enumerations and all others its models, both in document order, so every name of a schema is
that of exactly one of them.  A model has the properties of its schema in order, of which those
are required that the schema requires by name, and its name leads back to it. -/
theorem schemas_of_ofValue {raw : Value} {document : Document} (hsettled : raw.IsSettled)
    (hparse : Document.ofValue raw = .ok document) :
    List.Forall₂ (fun schema enumeration => Enumeration.StandsFor enumeration schema)
        ((namedSchemas raw).filter fun schema => listsValues schema.2) document.enumerations ∧
      List.Forall₂ (fun schema model => Model.StandsFor model schema)
        ((namedSchemas raw).filter fun schema => !listsValues schema.2) document.models ∧
      (document.enumerations.map Enumeration.name ++ document.models.map Model.name).Perm
        ((namedSchemas raw).map Prod.fst) ∧
      (document.enumerations.map Enumeration.name ++ document.models.map Model.name).Nodup ∧
      (∀ model ∈ document.models, document.model? model.name = some model) ∧
      ∀ name, name ∉ document.models.map Model.name → document.model? name = none := by
  have hkeys := nodup_keys_schemasOf hsettled
  rw [schemasOf_eq_namedSchemas] at hkeys
  obtain ⟨version, info, operations, -, -, -, rfl⟩ := ofValue_eq_ok_iff.mp hparse
  simp only [schemasOf_eq_namedSchemas]
  have hperm := perm_names (namedSchemas raw)
  have hnodup := hperm.nodup_iff.mpr hkeys
  refine ⟨forall₂_enumerationsOf _, forall₂_modelsOf _, hperm, hnodup, ?_, ?_⟩
  · intro model hmodel
    exact Document.model?_of_mem (List.nodup_append.mp hnodup).2.1 hmodel
  · intro name hname
    exact Document.model?_eq_none hname

/-- A schema that requires one of its fields, and what is no name. -/
def coatSchema : Value :=
  .object [("required", .array [.string "size", .whole 7]),
    ("properties", .object [("7", .null), ("size", .object [])])]

/-- A document with schemas at both places, of which some are no objects, list no array, or
require what is no name. -/
def closetRaw : Value :=
  .object [("openapi", .string "3.1.0"),
    ("info", .object [("title", .string "Closet"), ("version", .string "1")]),
    ("paths", .object []),
    ("components", .object [("schemas", .object [("Flag", .bool true),
      ("Color", .object [("enum", .array [.string "red", .whole 3])]),
      ("Odd", .object [("enum", .string "red")]),
      ("Coat", coatSchema)])]),
    ("definitions", .object [("Hat", .object [])])]

theorem schemas_of_ofValue_closet :
    closetRaw.IsSettled ∧ ∃ document, Document.ofValue closetRaw = .ok document ∧
      document.enumerations.map Enumeration.name = ["Color"] ∧
      document.models.map Model.name = ["Flag", "Odd", "Coat"] ∧
      (∃ coat, document.model? "Coat" = some coat ∧
        coat.properties.map (fun property => (property.name, property.required)) =
          [("7", false), ("size", true)]) ∧
      document.model? "Hat" = none := by
  have hsettled : closetRaw.IsSettled := ⟨closetRaw, rfl⟩
  have hread : (Document.ofValue closetRaw).toOption.isSome := by decide +kernel
  obtain ⟨document, hdocument⟩ := Option.isSome_iff_exists.mp hread
  have hparse := Traversal.eq_ok_of_toOption hdocument
  obtain ⟨henumerations, hmodels, -, -, hfound, hmissing⟩ := schemas_of_ofValue hsettled hparse
  have hnames : document.models.map Model.name = ["Flag", "Odd", "Coat"] :=
    (Traversal.map_eq_of_forall₂ hmodels fun _ _ hstands => hstands.name_eq).trans
      (by decide +kernel)
  refine ⟨hsettled, document, hparse, ?_, hnames, ?_, ?_⟩
  · exact (Traversal.map_eq_of_forall₂ henumerations fun _ _ hstands => hstands.name_eq).trans
      (by decide +kernel)
  · have hkept : ((namedSchemas closetRaw).filter fun schema => !listsValues schema.2) =
        [("Flag", .bool true), ("Odd", .object [("enum", .string "red")]),
          ("Coat", coatSchema)] := by
      rfl
    rw [hkept] at hmodels
    obtain ⟨flag, _, -, hrest, hsplit⟩ := List.forall₂_cons_left_iff.mp hmodels
    obtain ⟨odd, _, -, hlast, rfl⟩ := List.forall₂_cons_left_iff.mp hrest
    obtain ⟨coat, _, hcoat, -, rfl⟩ := List.forall₂_cons_left_iff.mp hlast
    have hname : coat.name = "Coat" := hcoat.name_eq
    have hmember : coat ∈ document.models := by simp [hsplit]
    refine ⟨coat, hname ▸ hfound coat hmember, ?_⟩
    have hproperties : coat.properties.map (fun property => (property.name, property.required)) =
        (fieldsOf (coatSchema.get? "properties")).map fun field =>
          (field.1, field.1 == "size") := by
      apply Traversal.map_eq_of_forall₂ hcoat.properties
      intro field property hstands
      have hrequired : property.required = true ↔
          Value.string field.1 ∈ [Value.string "size", .whole 7] := hstands.required_iff
      rw [hstands.name_eq, Prod.mk.injEq, Bool.eq_iff_iff, hrequired]
      simp [Value.whole]
    rw [hproperties]
    decide +kernel
  · apply hmissing
    rw [hnames]
    decide

end Stencil.Api
