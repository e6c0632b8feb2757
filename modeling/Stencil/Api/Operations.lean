import Stencil.Api.Fault
import Stencil.Api.Types
import Stencil.Text.Words
import Stencil.Value.Pointer

/-!
# Operations of a document

Every entry of `paths` lists operations by method.  Parameters, request bodies
and responses may be references to other places of the document; a reference is
followed once.  The parameters of an operation replace those of its path that
have the same name and location.
-/

namespace Stencil.Api

/-- The value itself, or what its local reference points to. -/
def resolve (document value : Value) : Except Fault Value :=
  match value.text? "$ref" with
  | none => .ok value
  | some reference =>
      match reference.toList with
      | '#' :: pointer =>
          match document.pointer? (String.ofList pointer) with
          | some target => .ok target
          | none => .error (.brokenReference reference)
      | _ => .error (.remoteReference reference)

/-- The keys that describe the type of a parameter without a schema. -/
def inlineKeys : List String := ["type", "format", "items", "enum", "default"]

/-- A schema made of the keys that a parameter holds inline. -/
def inlineSchema (parameter : Value) : Value :=
  .object (inlineKeys.filterMap fun key => (parameter.get? key).map fun value => (key, value))

/-- The parameter that a value without reference describes. -/
def parameterOfValue (value : Value) : Except Fault Parameter :=
  match value.text? "name" with
  | none => .error .unnamedParameter
  | some name =>
      match value.text? "in" with
      | none => .error (.unplacedParameter name)
      | some location =>
          .ok {
            name := name
            location := location
            required := ((value.get? "required").bind Value.bool?).getD (location == "path")
            description := value.text? "description"
            schema := (value.get? "schema").getD (inlineSchema value) }

/-- The parameters in a member of a path item or operation; none unless it is an
array. -/
def parametersOf (document : Value) (member : Option Value) : Except Fault (List Parameter) :=
  match member.bind Value.items? with
  | none => .ok []
  | some items => items.mapM fun item => do parameterOfValue (← resolve document item)

namespace Parameter

/-- Parameters with the same name and location stand for the same thing. -/
def sameKey (left right : Parameter) : Bool :=
  left.name == right.name && left.location == right.location

end Parameter

/-- Replaces the first parameter with the same key, or adds one at the end. -/
def replaceOrAdd (parameter : Parameter) : List Parameter → List Parameter
  | [] => [parameter]
  | first :: rest =>
      if first.sameKey parameter then parameter :: rest
      else first :: replaceOrAdd parameter rest

/-- The parameters of a path with those of one of its operations put over them. -/
def mergeParameters (ofPath ofOperation : List Parameter) : List Parameter :=
  ofOperation.foldl (fun merged parameter => replaceOrAdd parameter merged) ofPath

def responseOf (document : Value) (status : String) (value : Value) : Except Fault Response := do
  let value ← resolve document value
  .ok {
    status := status
    description := value.text? "description"
    content := (value.get? "content").or (value.get? "schema") }

/-- The responses of an operation; none unless they are an object. -/
def responsesOf (document : Value) (member : Option Value) : Except Fault (List Response) :=
  match member.bind Value.fields? with
  | none => .ok []
  | some fields => fields.mapM fun (status, value) => responseOf document status value

/-- The request body of an operation, with its reference followed. -/
def requestBodyOf (document : Value) (member : Option Value) : Except Fault (Option Value) :=
  match member with
  | none => .ok none
  | some body => (resolve document body).map some

def textsOf (member : Option Value) : List String :=
  ((member.bind Value.items?).getD []).filterMap Value.string?

/-- An operation still in the document: its path, its method, the item of its
path, and its own object. -/
structure Site where
  path : String
  method : Method
  item : Value
  body : Value

/-- The operations of a path item: its members of object kind under the known
methods, in the order of the methods. -/
def sitesOfItem (path : String) (item : Value) : List Site :=
  Method.all.filterMap fun method =>
    match item.get? method.word with
    | some (.object fields) => some ⟨path, method, item, .object fields⟩
    | _ => none

/-- The operations of all paths, in document order. -/
def sitesOf (paths : Value.Fields) : List Site :=
  paths.flatMap fun (path, item) => sitesOfItem path item

namespace Site

/-- The identifier that an operation states, or one made of its route. -/
def id (site : Site) : String :=
  (site.body.text? "operationId").getD (Text.routeIdentifier site.method.word site.path)

def operation (document : Value) (site : Site) : Except Fault Operation := do
  let ofPath ← parametersOf document (site.item.get? "parameters")
  let ofOperation ← parametersOf document (site.body.get? "parameters")
  let requestBody ← requestBodyOf document (site.body.get? "requestBody")
  let responses ← responsesOf document (site.body.get? "responses")
  .ok {
    id := site.id
    method := site.method.word
    path := site.path
    tags := textsOf (site.body.get? "tags")
    summary := site.body.text? "summary"
    description := site.body.text? "description"
    deprecated := ((site.body.get? "deprecated").bind Value.bool?).getD false
    parameters := mergeParameters ofPath ofOperation
    requestBody := requestBody
    responses := responses }

end Site

def operationsOf (document : Value) : Except Fault (List Operation) :=
  match (document.get? "paths").bind Value.fields? with
  | none => .error .missingPaths
  | some paths => (sitesOf paths).mapM (Site.operation document)

end Stencil.Api
