import Stencil.Value.Basic

/-!
# API documents

What templates see of an OpenAPI or Swagger document: its operations, the
groups they form by tag, its models and its enumerations, each in document
order.  Schemas and bodies stay the values that the document holds.
-/

namespace Stencil.Api

/-- The methods under which a path lists operations, in their fixed order. -/
inductive Method where
  | get
  | post
  | put
  | delete
  | patch
  | head
  | options
deriving DecidableEq, Repr, Inhabited

namespace Method

def all : List Method := [get, post, put, delete, patch, head, options]

/-- The key of a method in a path item. -/
def word : Method → String
  | get => "get"
  | post => "post"
  | put => "put"
  | delete => "delete"
  | patch => "patch"
  | head => "head"
  | options => "options"

end Method

/-- What the document says about itself. -/
structure Info where
  title : String
  version : String
  description : Option String
deriving Inhabited

/-- A parameter of an operation. -/
structure Parameter where
  name : String
  /-- Where the parameter is passed: `path`, `query`, `header`, … -/
  location : String
  required : Bool
  description : Option String
  schema : Value
deriving Inhabited

/-- A response of an operation. -/
structure Response where
  status : String
  description : Option String
  content : Option Value
deriving Inhabited

/-- One method of one path. -/
structure Operation where
  id : String
  method : String
  path : String
  tags : List String
  summary : Option String
  description : Option String
  deprecated : Bool
  parameters : List Parameter
  requestBody : Option Value
  responses : List Response
deriving Inhabited

/-- The operations that share their first tag. -/
structure Group where
  name : String
  description : Option String
  operations : List Operation
deriving Inhabited

/-- A property of a model. -/
structure Property where
  name : String
  required : Bool
  description : Option String
  schema : Value
deriving Inhabited

/-- A named schema that is no enumeration. -/
structure Model where
  name : String
  description : Option String
  properties : List Property
  schema : Value
deriving Inhabited

/-- A named schema that lists its values. -/
structure Enumeration where
  name : String
  description : Option String
  /-- The type of the values, `string` unless the schema says otherwise. -/
  valueType : String
  values : List Value
deriving Inhabited

/-- An API document taken apart. -/
structure Document where
  /-- The version of the specification that the document follows. -/
  version : String
  info : Info
  groups : List Group
  operations : List Operation
  models : List Model
  enumerations : List Enumeration
  /-- The document as it was read. -/
  raw : Value
deriving Inhabited

def valueOrNull : Option Value → Value
  | some value => value
  | none => .null

namespace Info

/-- The information as templates see it. -/
def toValue (info : Info) : Value :=
  .object [("title", .string info.title), ("version", .string info.version),
    ("description", .ofText? info.description)]

end Info

namespace Parameter

def toValue (parameter : Parameter) : Value :=
  .object [("name", .string parameter.name), ("location", .string parameter.location),
    ("required", .bool parameter.required), ("description", .ofText? parameter.description),
    ("schema", parameter.schema)]

end Parameter

namespace Response

def toValue (response : Response) : Value :=
  .object [("status", .string response.status),
    ("description", .ofText? response.description), ("content", valueOrNull response.content)]

end Response

namespace Operation

def toValue (operation : Operation) : Value :=
  .object [("id", .string operation.id), ("method", .string operation.method),
    ("path", .string operation.path), ("tags", .array (operation.tags.map .string)),
    ("summary", .ofText? operation.summary),
    ("description", .ofText? operation.description),
    ("deprecated", .bool operation.deprecated),
    ("parameters", .array (operation.parameters.map Parameter.toValue)),
    ("request_body", valueOrNull operation.requestBody),
    ("responses", .array (operation.responses.map Response.toValue))]

end Operation

namespace Group

def toValue (group : Group) : Value :=
  .object [("name", .string group.name), ("description", .ofText? group.description),
    ("operations", .array (group.operations.map Operation.toValue))]

end Group

namespace Property

def toValue (property : Property) : Value :=
  .object [("name", .string property.name), ("required", .bool property.required),
    ("description", .ofText? property.description), ("schema", property.schema)]

end Property

namespace Model

def toValue (model : Model) : Value :=
  .object [("name", .string model.name), ("description", .ofText? model.description),
    ("properties", .array (model.properties.map Property.toValue)), ("schema", model.schema)]

end Model

namespace Enumeration

def toValue (enumeration : Enumeration) : Value :=
  .object [("name", .string enumeration.name),
    ("description", .ofText? enumeration.description),
    ("value_type", .string enumeration.valueType), ("values", .array enumeration.values)]

end Enumeration

namespace Document

def operation? (document : Document) (id : String) : Option Operation :=
  document.operations.find? fun operation => operation.id == id

def model? (document : Document) (name : String) : Option Model :=
  document.models.find? fun model => model.name == name

end Document

end Stencil.Api
