import Stencil.Api.Types
import Stencil.Value.Pointer

/-!
# Named schemas

A document names schemas under `components/schemas`, or under `definitions` in
older versions.  A schema that lists its values is an enumeration, every other
one a model.
-/

namespace Stencil.Api

/-- The named schemas of a document; none unless they are an object. -/
def schemasOf (document : Value) : Value.Fields :=
  (((document.pointer? "/components/schemas").or (document.get? "definitions")).bind
    Value.fields?).getD []

def listedValues? (schema : Value) : Option (List Value) :=
  (schema.get? "enum").bind Value.items?

def enumeration? (name : String) (schema : Value) : Option Enumeration :=
  (listedValues? schema).map fun values => {
    name := name
    description := schema.text? "description"
    valueType := (schema.text? "type").getD "string"
    values := values }

def requiredNames (schema : Value) : List String :=
  (((schema.get? "required").bind Value.items?).getD []).filterMap Value.string?

/-- The properties of a schema; none unless they are an object. -/
def propertiesOf (schema : Value) : List Property :=
  (((schema.get? "properties").bind Value.fields?).getD []).map fun (name, value) => {
    name := name
    required := (requiredNames schema).contains name
    description := value.text? "description"
    schema := value }

def model? (name : String) (schema : Value) : Option Model :=
  match listedValues? schema with
  | some _ => none
  | none => some {
      name := name
      description := schema.text? "description"
      properties := propertiesOf schema
      schema := schema }

/-- The models among named schemas, in order. -/
def modelsOf (schemas : Value.Fields) : List Model :=
  schemas.filterMap fun (name, schema) => model? name schema

/-- The enumerations among named schemas, in order. -/
def enumerationsOf (schemas : Value.Fields) : List Enumeration :=
  schemas.filterMap fun (name, schema) => enumeration? name schema

end Stencil.Api
