import Stencil.Api.Types
import Stencil.Manifest.Basic

/-!
# Contexts

A template of a set sees the document, the set, and its own file; when it is
rendered for each entity of some kind, it also sees that entity.  The variable
`name` always holds the name of what the template is rendered for.
-/

namespace Stencil

/-- What a template is rendered for. -/
inductive Entity where
  /-- The set alone. -/
  | support
  | document (document : Api.Document)
  | group (group : Api.Group)
  | operation (operation : Api.Operation)
  | model (model : Api.Model)
  | enumeration (enumeration : Api.Enumeration)
deriving Inhabited

namespace Entity

/-- The entities of a document that a scope covers, in document order. -/
def expand (scope : Scope) (document : Api.Document) : List Entity :=
  match scope with
  | .supportOnce => [support]
  | .apiOnce => [.document document]
  | .apiEach => document.groups.map group
  | .operationEach => document.operations.map operation
  | .modelEach => document.models.map model
  | .enumEach => document.enumerations.map enumeration

/-- The name of an entity; the set lends its identifier where there is none. -/
def name (manifest : Manifest) : Entity → String
  | support => manifest.id
  | document content => content.info.title
  | group content => content.name
  | operation content => content.id
  | model content => content.name
  | enumeration content => content.name

def bindings : Entity → Value.Fields
  | support => []
  | document content =>
      [("api", .object [("name", .string content.info.title),
        ("description", .ofText? content.info.description),
        ("operations", .array (content.operations.map Api.Operation.toValue))])]
  | group content => [("api", content.toValue)]
  | operation content =>
      [("operation", content.toValue), ("operation_id", .string content.id)]
  | model content => [("model", content.toValue)]
  | enumeration content => [("enum", content.toValue)]

end Entity

/-- The variables of every template of a set. -/
def sharedContext (manifest : Manifest) (document : Api.Document) : Value.Fields :=
  [("spec", .object [("version", .string document.version),
      ("title", .string document.info.title), ("info", document.info.toValue),
      ("raw", document.raw)]),
    ("config", .object [("id", .string manifest.id),
      ("description", .string manifest.description)]),
    ("apis", .array (document.groups.map Api.Group.toValue)),
    ("operations", .array (document.operations.map Api.Operation.toValue)),
    ("models", .array (document.models.map Api.Model.toValue)),
    ("enums", .array (document.enumerations.map Api.Enumeration.toValue))]

def FileSpec.context (file : FileSpec) : Value :=
  .object [("description", .string file.description),
    ("source_template", .string file.source), ("type", .string file.scope.word)]

/-- The variables of a template that is rendered for an entity. -/
def entityContext (manifest : Manifest) (document : Api.Document) (file : FileSpec)
    (entity : Entity) : Value.Fields :=
  ("name", .string (entity.name manifest)) :: ("file", file.context) ::
    (entity.bindings ++ sharedContext manifest document)

/-- Every context binds the name of its entity. -/
theorem field?_name_entityContext (manifest : Manifest) (document : Api.Document) (file : FileSpec)
    (entity : Entity) :
    Value.field? (entityContext manifest document file entity) "name" =
      some (.string (entity.name manifest)) := by
  simp [entityContext, Value.field?]

end Stencil
