import Stencil.Proofs.Api.References
import Stencil.Proofs.Api.Sites
import Stencil.Proofs.Value.Members
import Stencil.Proofs.Value.Pointers

/-!
# Documents that refer to their components

Where parameters, request bodies and responses stand, a document may refer to a
component that holds the value in place of the value itself.  This makes no difference
to what is read: not to the operations, and so to nothing else, and not to the fault of
a document that cannot be read.
-/

namespace Stencil.Api

/-! ## Abbreviated documents -/

/-- A value, or in its place a reference to a component that holds the same value; only
a value without a reference is replaced. -/
inductive Abbreviated (document : Value) : Value → Value → Prop where
  | kept (value : Value) : Abbreviated document value value
  | referred {value : Value} {kind name : String} (hinline : value.text? "$ref" = none)
      (hcomponent : document.component? kind name = some value) :
      Abbreviated document value
        (.object [("$ref", .string ("#" ++ Value.componentPointer kind name))])

inductive OperationMember (document : Value) : String → Value → Value → Prop where
  | kept (key : String) (value : Value) : OperationMember document key value value
  | parameters {left right : Value} (hitems : left.OnItems (Abbreviated document) right) :
      OperationMember document "parameters" left right
  | requestBody {left right : Value} (hbody : Abbreviated document left right) :
      OperationMember document "requestBody" left right
  | responses {left right : Value} (hfields : left.OnFields (fun _ => Abbreviated document) right) :
      OperationMember document "responses" left right

inductive PathMember (document : Value) : String → Value → Value → Prop where
  | kept (key : String) (value : Value) : PathMember document key value value
  | parameters {left right : Value} (hitems : left.OnItems (Abbreviated document) right) :
      PathMember document "parameters" left right
  | operation (method : Method) {left right : Value}
      (hmembers : left.OnFields (OperationMember document) right) :
      PathMember document method.word left right

inductive DocumentMember (document : Value) : String → Value → Value → Prop where
  | kept (key : String) (value : Value) : DocumentMember document key value value
  | paths {left right : Value}
      (hpaths : left.OnFields (fun _ item => item.OnFields (PathMember document)) right) :
      DocumentMember document "paths" left right

/-- A document with references to its components in place of some of its values. -/
def Abbreviation (document short : Value) : Prop :=
  document.OnFields (DocumentMember document) short

def referable (site : Site) : List Value :=
  itemsOf (site.item.get? "parameters") ++ itemsOf (site.body.get? "parameters") ++
    (site.body.get? "requestBody").toList ++
    (fieldsOf (site.body.get? "responses")).map Prod.snd

/-- A value has no reference, or one to something below the components. -/
def RefersToComponents (value : Value) : Prop :=
  ∀ reference, value.text? "$ref" = some reference → ∃ rest, reference = "#/components/" ++ rest

/-! ## What becomes of a member -/

section Members

variable {document left right : Value}

theorem operationMember_of_ne {key : String} (hmember : OperationMember document key left right)
    (hparameters : key ≠ "parameters") (hbody : key ≠ "requestBody")
    (hresponses : key ≠ "responses") : right = left := by
  cases hmember with
  | kept => rfl
  | parameters => exact absurd rfl hparameters
  | requestBody => exact absurd rfl hbody
  | responses => exact absurd rfl hresponses

theorem operationMember_parameters (hmember : OperationMember document "parameters" left right) :
    left.OnItems (Abbreviated document) right := by
  generalize hkey : "parameters" = key at hmember
  cases hmember with
  | kept => exact .same left
  | parameters hitems => exact hitems
  | requestBody => exact absurd hkey (by decide)
  | responses => exact absurd hkey (by decide)

theorem operationMember_requestBody
    (hmember : OperationMember document "requestBody" left right) :
    Abbreviated document left right := by
  generalize hkey : "requestBody" = key at hmember
  cases hmember with
  | kept => exact .kept left
  | parameters => exact absurd hkey (by decide)
  | requestBody hbody => exact hbody
  | responses => exact absurd hkey (by decide)

theorem operationMember_responses (hmember : OperationMember document "responses" left right) :
    left.OnFields (fun _ => Abbreviated document) right := by
  generalize hkey : "responses" = key at hmember
  cases hmember with
  | kept => exact .same left
  | parameters => exact absurd hkey (by decide)
  | requestBody => exact absurd hkey (by decide)
  | responses hfields => exact hfields

theorem pathMember_parameters (hmember : PathMember document "parameters" left right) :
    left.OnItems (Abbreviated document) right := by
  generalize hkey : "parameters" = key at hmember
  cases hmember with
  | kept => exact .same left
  | parameters hitems => exact hitems
  | operation method => cases method <;> exact absurd hkey (by decide)

theorem pathMember_method {method : Method} (hmember : PathMember document method.word left right) :
    left.OnFields (OperationMember document) right := by
  generalize hkey : method.word = key at hmember
  cases hmember with
  | kept => exact .same left
  | parameters => cases method <;> exact absurd hkey (by decide)
  | operation _ hmembers => exact hmembers

theorem documentMember_of_ne {key : String} (hmember : DocumentMember document key left right)
    (hpaths : key ≠ "paths") : right = left := by
  cases hmember with
  | kept => rfl
  | paths => exact absurd rfl hpaths

theorem documentMember_paths (hmember : DocumentMember document "paths" left right) :
    left.OnFields (fun _ item => item.OnFields (PathMember document)) right := by
  generalize hkey : "paths" = key at hmember
  cases hmember with
  | kept => exact .same left
  | paths hpaths => exact hpaths

/-- Other members of an operation are left as they are. -/
theorem get?_of_operation (hbody : left.OnFields (OperationMember document) right)
    {key : String} (hparameters : key ≠ "parameters") (hrequest : key ≠ "requestBody")
    (hresponses : key ≠ "responses") : right.get? key = left.get? key :=
  Value.eq_of_rel (Value.rel_get? OperationMember.kept hbody key) fun _ _ hmember =>
    operationMember_of_ne hmember hparameters hrequest hresponses

/-- Other members of a document are left as they are, its components among them. -/
theorem get?_of_abbreviation {short : Value} (hshort : Abbreviation document short) {key : String}
    (hpaths : key ≠ "paths") : short.get? key = document.get? key :=
  Value.eq_of_rel (Value.rel_get? DocumentMember.kept hshort key) fun _ _ hmember =>
    documentMember_of_ne hmember hpaths

end Members

/-! ## What is read at a place -/

section Places

variable {document short : Value}

/-- An abbreviated value stands for what the value stands for. -/
theorem resolve_of_abbreviated (hcomponents : short.get? "components" = document.get? "components")
    {left right : Value} (hvalue : Abbreviated document left right)
    (hrefers : RefersToComponents left) : resolve short right = resolve document left := by
  cases hvalue with
  | kept =>
      cases hreference : left.text? "$ref" with
      | none => rw [resolve_of_inline short hreference, resolve_of_inline document hreference]
      | some reference =>
          obtain ⟨rest, rfl⟩ := hrefers reference hreference
          have hlocal : left.text? "$ref" = some ("#" ++ ("/components/" ++ rest)) := hreference
          rw [resolve_of_local short hlocal, resolve_of_local document hlocal,
            Value.pointer?_components, Value.pointer?_components, hcomponents]
  | @referred kind name hinline hcomponent =>
      have hfound : short.component? kind name = some left := by
        rw [Value.component?, hcomponents]
        exact hcomponent
      rw [resolve_of_inline document hinline,
        @resolve_of_local _ short (Value.componentPointer kind name) rfl,
        Value.pointer?_componentPointer hfound]

variable (hcomponents : short.get? "components" = document.get? "components")
include hcomponents

/-- What is read of parameters is the same, though some are given by a reference. -/
theorem parametersOf_of_abbreviated {left right : Option Value}
    (hmember : Option.Rel (Value.OnItems (Abbreviated document)) left right)
    (hrefers : ∀ value ∈ itemsOf left, RefersToComponents value) :
    parametersOf short right = parametersOf document left := by
  rw [parametersOf_eq_mapM, parametersOf_eq_mapM]
  refine Traversal.mapM_eq_of_forall₂
    (((List.forall₂_and_left _ _).mpr ⟨hrefers, Value.forall₂_items .kept hmember⟩).imp ?_)
  rintro before after ⟨hbefore, hvalue⟩
  rw [parameterAt, parameterAt, resolve_of_abbreviated hcomponents hvalue hbefore]

theorem requestBodyOf_of_abbreviated {left right : Option Value}
    (hmember : Option.Rel (Abbreviated document) left right)
    (hrefers : ∀ value ∈ left.toList, RefersToComponents value) :
    requestBodyOf short right = requestBodyOf document left := by
  cases hmember with
  | none => rfl
  | some hvalue =>
      rw [requestBodyOf, requestBodyOf, resolve_of_abbreviated hcomponents hvalue
        (hrefers _ (List.mem_singleton.mpr rfl))]

theorem responsesOf_of_abbreviated {left right : Option Value}
    (hmember : Option.Rel (Value.OnFields fun _ => Abbreviated document) left right)
    (hrefers : ∀ entry ∈ fieldsOf left, RefersToComponents entry.2) :
    responsesOf short right = responsesOf document left := by
  rw [responsesOf_eq_mapM, responsesOf_eq_mapM]
  refine Traversal.mapM_eq_of_forall₂
    (((List.forall₂_and_left _ _).mpr
      ⟨hrefers, Value.forall₂_fields (fun _ => .kept) hmember⟩).imp ?_)
  rintro before after ⟨hbefore, hkey, hvalue⟩
  rw [responseOf, responseOf, resolve_of_abbreviated hcomponents hvalue hbefore, hkey]

end Places

/-! ## What is read of a document -/

/-- The same operation in a document and in an abbreviation of it. -/
structure AbbreviatedSite (document : Value) (left right : Site) : Prop where
  path_eq : right.path = left.path
  method_eq : right.method = left.method
  item : left.item.OnFields (PathMember document) right.item
  body : left.body.OnFields (OperationMember document) right.body

section Documents

variable {document short : Value}

theorem forall₂_sitesOfItem (path : String) {left right : Value}
    (hitem : left.OnFields (PathMember document) right) :
    List.Forall₂ (AbbreviatedSite document) (sitesOfItem path left) (sitesOfItem path right) := by
  refine List.rel_filterMap ?_ (List.forall₂_same.mpr fun _ _ => rfl)
  rintro method _ rfl
  have hmember := Value.rel_get? PathMember.kept hitem method.word
  dsimp only
  generalize left.get? method.word = before, right.get? method.word = after at hmember
  cases hmember with
  | none => exact .none
  | @some before _ hsome =>
      cases pathMember_method hsome with
      | same =>
          cases before with
          | object fields => exact .some ⟨rfl, rfl, hitem, .same _⟩
          | _ => exact .none
      | object hfields => exact .some ⟨rfl, rfl, hitem, .object hfields⟩

/-- An abbreviation has its operations at the same places, in the same order. -/
theorem forall₂_sitesIn (hshort : Abbreviation document short) :
    List.Forall₂ (AbbreviatedSite document) (sitesIn document) (sitesIn short) := by
  have hpaths := Value.rel_imp (Value.rel_get? DocumentMember.kept hshort "paths")
    fun _ _ => documentMember_paths
  refine List.rel_flatMap (Value.forall₂_fields (fun _ => .same) hpaths) ?_
  rintro ⟨path, left⟩ ⟨_, right⟩ ⟨rfl, hitem⟩
  exact forall₂_sitesOfItem path hitem

/-- An operation is read from an abbreviation as from the document itself. -/
theorem operation_of_abbreviated
    (hcomponents : short.get? "components" = document.get? "components") {left right : Site}
    (hsite : AbbreviatedSite document left right)
    (hrefers : ∀ value ∈ referable left, RefersToComponents value) :
    right.operation short = left.operation document := by
  obtain ⟨hpath, hmethod, hitem, hbody⟩ := hsite
  simp only [referable, List.forall_mem_append, List.forall_mem_map] at hrefers
  obtain ⟨⟨⟨hofPath, hofOperation⟩, hrequest⟩, hresponses⟩ := hrefers
  have hpathParameters := parametersOf_of_abbreviated hcomponents
    (Value.rel_imp (Value.rel_get? PathMember.kept hitem "parameters")
      fun _ _ => pathMember_parameters) hofPath
  have hparameters := parametersOf_of_abbreviated hcomponents
    (Value.rel_imp (Value.rel_get? OperationMember.kept hbody "parameters")
      fun _ _ => operationMember_parameters) hofOperation
  have hrequestBody := requestBodyOf_of_abbreviated hcomponents
    (Value.rel_imp (Value.rel_get? OperationMember.kept hbody "requestBody")
      fun _ _ => operationMember_requestBody) hrequest
  have hresponseList := responsesOf_of_abbreviated hcomponents
    (Value.rel_imp (Value.rel_get? OperationMember.kept hbody "responses")
      fun _ _ => operationMember_responses) hresponses
  have hkept : ∀ key ∈ ["operationId", "tags", "summary", "description", "deprecated"],
      right.body.get? key = left.body.get? key := by
    intro key hkey
    refine get?_of_operation hbody ?_ ?_ ?_ <;> rintro rfl <;> exact absurd hkey (by decide)
  simp only [List.forall_mem_cons] at hkept
  obtain ⟨hid, htags, hsummary, hdescription, hdeprecated, -⟩ := hkept
  simp only [Site.operation, Site.id, Value.text?, hpath, hmethod, hpathParameters, hparameters,
    hrequestBody, hresponseList, hid, htags, hsummary, hdescription, hdeprecated]

/-- The operations of an abbreviation, or the fault in one of them, are those of the
document. -/
theorem operationsOf_of_abbreviation (hshort : Abbreviation document short)
    (hrefers : ∀ site ∈ sitesIn document, ∀ value ∈ referable site, RefersToComponents value) :
    operationsOf short = operationsOf document := by
  have hcomponents : short.get? "components" = document.get? "components" :=
    get?_of_abbreviation hshort (by decide)
  have hoperations : (sitesIn short).mapM (Site.operation short) =
      (sitesIn document).mapM (Site.operation document) := by
    refine Traversal.mapM_eq_of_forall₂
      (((List.forall₂_and_left _ _).mpr ⟨hrefers, forall₂_sitesIn hshort⟩).imp ?_)
    rintro before after ⟨hbefore, hsite⟩
    exact operation_of_abbreviated hcomponents hsite hbefore
  have hpaths : ((short.get? "paths").bind Value.fields?).isSome =
      ((document.get? "paths").bind Value.fields?).isSome := by
    have hmember := Value.rel_imp (Value.rel_get? DocumentMember.kept hshort "paths")
      fun _ _ => documentMember_paths
    generalize document.get? "paths" = before, short.get? "paths" = after at hmember
    rcases hmember with (_ | _) | _ <;> rfl
  rw [operationsOf_eq_mapM, operationsOf_eq_mapM, hoperations, hpaths]

end Documents

/-- References to components make no difference.  An abbreviation of a document in which
all references at the same places go to components is read with the same fault, or as
the same document but for the value that it was read from. -/
theorem ofValue_of_abbreviation {document short : Value} (hshort : Abbreviation document short)
    (hrefers : ∀ site ∈ sitesIn document, ∀ value ∈ referable site, RefersToComponents value) :
    Document.ofValue short =
      (Document.ofValue document).map fun read => { read with raw := short } := by
  have hkept : ∀ key ∈ ["openapi", "swagger", "info", "tags", "components", "definitions"],
      short.get? key = document.get? key := by
    intro key hkey
    refine get?_of_abbreviation hshort ?_
    rintro rfl
    exact absurd hkey (by decide)
  simp only [List.forall_mem_cons] at hkept
  obtain ⟨hopenapi, hswagger, hinfo, htags, hcomponents, hdefinitions, -⟩ := hkept
  have hversionOf : versionOf short = versionOf document := by
    rw [versionOf, versionOf, hopenapi, hswagger]
  have hinfoOf : infoOf short = infoOf document := by
    rw [infoOf, infoOf, hinfo]
  have hdeclared : declaredGroups short = declaredGroups document := by
    rw [declaredGroups, declaredGroups, htags]
  have hschemas : schemasOf short = schemasOf document := by
    have hpointer : "/components/schemas" = "/components/" ++ "schemas" := by decide
    rw [schemasOf, schemasOf, hdefinitions, hpointer, Value.pointer?_components,
      Value.pointer?_components, hcomponents]
  rw [Document.ofValue, Document.ofValue, hversionOf, hinfoOf,
    operationsOf_of_abbreviation hshort hrefers, hdeclared, hschemas]
  cases versionOf document with
  | error fault => rfl
  | ok version =>
      cases infoOf document with
      | error fault => rfl
      | ok info => cases operationsOf document <;> rfl

/-! ## A shelf of components -/

def shelfParameter : Value :=
  .object [("name", .string "id"), ("in", .string "path")]

def shelfBody : Value :=
  .object [("content", .object [])]

def shelfReference (pointer : String) : Value :=
  .object [("$ref", .string ("#/components/" ++ pointer))]

/-- An operation that takes its body from elsewhere and answers with it. -/
def shelfOperation (body : Value) : Value :=
  .object [("requestBody", body), ("responses", .object
    [("200", shelfReference "responses/~0"), ("201", body)])]

/-- A document whose components have a slash and tildes in their names. -/
def shelfWith (parameter body : Value) : Value :=
  .object [("openapi", .string "3.1.0"),
    ("info", .object [("title", .string "Shelf"), ("version", .string "1")]),
    ("paths", .object [("/books",
      .object [("parameters", .array [parameter]), ("put", shelfOperation body)])]),
    ("components", .object [("parameters", .object [("id/~1", shelfParameter)]),
      ("requestBodies", .object [("book", shelfBody)]),
      ("responses", .object [("~", shelfBody)])])]

def shelfRaw : Value :=
  shelfWith shelfParameter shelfBody

/-- The same document with three of its values in the components only. -/
def shelfShort : Value :=
  shelfWith (shelfReference "parameters/id~1~01") (shelfReference "requestBodies/book")

theorem abbreviation_shelf : Abbreviation shelfRaw shelfShort := by
  have hparameter : Abbreviated shelfRaw shelfParameter (shelfReference "parameters/id~1~01") := by
    have hpointer : "#" ++ Value.componentPointer "parameters" "id/~1" =
        "#/components/" ++ "parameters/id~1~01" := by decide +kernel
    rw [shelfReference, ← hpointer]
    exact .referred rfl rfl
  have hbody : Abbreviated shelfRaw shelfBody (shelfReference "requestBodies/book") := by
    have hpointer : "#" ++ Value.componentPointer "requestBodies" "book" =
        "#/components/" ++ "requestBodies/book" := by decide +kernel
    rw [shelfReference, ← hpointer]
    exact .referred rfl rfl
  have hresponses : OperationMember shelfRaw "responses"
      (.object [("200", shelfReference "responses/~0"), ("201", shelfBody)])
      (.object [("200", shelfReference "responses/~0"),
        ("201", shelfReference "requestBodies/book")]) :=
    .responses (.object (.cons ⟨rfl, .kept _⟩ (.cons ⟨rfl, hbody⟩ .nil)))
  have hoperation : PathMember shelfRaw "put" (shelfOperation shelfBody)
      (shelfOperation (shelfReference "requestBodies/book")) :=
    .operation .put (.object (.cons ⟨rfl, .requestBody hbody⟩ (.cons ⟨rfl, hresponses⟩ .nil)))
  have hparameters : PathMember shelfRaw "parameters" (.array [shelfParameter])
      (.array [shelfReference "parameters/id~1~01"]) :=
    .parameters (.array (.cons hparameter .nil))
  have hpaths : DocumentMember shelfRaw "paths"
      (.object [("/books", .object [("parameters", .array [shelfParameter]),
        ("put", shelfOperation shelfBody)])])
      (.object [("/books",
        .object [("parameters", .array [shelfReference "parameters/id~1~01"]),
          ("put", shelfOperation (shelfReference "requestBodies/book"))])]) :=
    .paths (.object (.cons
      ⟨rfl, .object (.cons ⟨rfl, hparameters⟩ (.cons ⟨rfl, hoperation⟩ .nil))⟩ .nil))
  exact .object (.cons ⟨rfl, .kept _ _⟩ (.cons ⟨rfl, .kept _ _⟩ (.cons ⟨rfl, hpaths⟩
    (.cons ⟨rfl, .kept _ _⟩ .nil))))

theorem refersToComponents_shelf :
    ∀ site ∈ sitesIn shelfRaw, ∀ value ∈ referable site, RefersToComponents value := by
  have hreferences : ∀ site ∈ sitesIn shelfRaw, ∀ value ∈ referable site,
      value.text? "$ref" ∈ [none, some ("#/components/" ++ "responses/~0")] := by
    decide +kernel
  intro site hsite value hvalue reference hreference
  have hmem := hreferences site hsite value hvalue
  rw [hreference] at hmem
  exact ⟨"responses/~0", by simpa using hmem⟩

theorem ofValue_of_abbreviation_shelf :
    Abbreviation shelfRaw shelfShort ∧
      (∀ site ∈ sitesIn shelfRaw, ∀ value ∈ referable site, RefersToComponents value) ∧
      ∃ read, Document.ofValue shelfRaw = .ok read ∧
        Document.ofValue shelfShort = .ok { read with raw := shelfShort } := by
  have hread : (Document.ofValue shelfRaw).toOption.isSome = true := by
    decide +kernel
  obtain ⟨read, hsome⟩ := Option.isSome_iff_exists.mp hread
  have hparse := Traversal.eq_ok_of_toOption hsome
  refine ⟨abbreviation_shelf, refersToComponents_shelf, read, hparse, ?_⟩
  rw [ofValue_of_abbreviation abbreviation_shelf refersToComponents_shelf, hparse]
  rfl

end Stencil.Api
