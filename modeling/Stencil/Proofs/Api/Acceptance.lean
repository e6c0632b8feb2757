import Stencil.Proofs.Api.References
import Stencil.Proofs.Api.Sites
import Stencil.Proofs.Checks

/-!
# Which documents can be read

A document can be read when it has a version, its information and its paths, and all
that its operations take from elsewhere is there; nothing else in it matters.  These
are checks in a fixed order, and a document that cannot be read has the fault of the
first check that fails.
-/

namespace Stencil.Api

/-! ## What a document needs -/

/-- The version is a text, under `openapi` or, without that member, under `swagger`. -/
def HasVersion (raw : Value) : Prop :=
  ∃ version, raw.get? "openapi" = some (.string version) ∨
    raw.get? "openapi" = none ∧ raw.get? "swagger" = some (.string version)

def HasInfoText (raw : Value) (key : String) : Prop :=
  ∃ info text, raw.get? "info" = some info ∧ info.get? key = some (.string text)

def HasPaths (raw : Value) : Prop :=
  ∃ paths, raw.get? "paths" = some (.object paths)

/-- A value stands for something, itself or elsewhere in the document. -/
def Resolves (document value : Value) : Prop :=
  ∃ target, ResolvesTo document value target

/-- A value stands for something with a name and a location. -/
def DescribesParameter (document value : Value) : Prop :=
  ∃ target name location, ResolvesTo document value target ∧
    target.get? "name" = some (.string name) ∧ target.get? "in" = some (.string location)

/-- All that an operation takes from elsewhere is there. -/
structure AcceptableOperation (document item body : Value) : Prop where
  ofPath : ∀ value ∈ itemsOf (item.get? "parameters"), DescribesParameter document value
  ofOperation : ∀ value ∈ itemsOf (body.get? "parameters"), DescribesParameter document value
  requestBody : ∀ value, body.get? "requestBody" = some value → Resolves document value
  responses : ∀ entry ∈ fieldsOf (body.get? "responses"), Resolves document entry.2

/-- A document has what it needs. -/
structure Acceptable (raw : Value) : Prop where
  version : HasVersion raw
  title : HasInfoText raw "title"
  infoVersion : HasInfoText raw "version"
  paths : HasPaths raw
  operations : ∀ entry ∈ fieldsOf (raw.get? "paths"), ∀ (method : Method) fields,
    entry.2.get? method.word = some (.object fields) →
      AcceptableOperation raw entry.2 (.object fields)

/-! ## The checks in order -/

/-- How a value fails to describe a parameter. -/
inductive ParameterFault (document value : Value) : Check Fault where
  | unresolvable {fault : Fault} (hfault : Unresolvable document value fault) :
      ParameterFault document value fault
  | unnamed {target : Value} (htarget : ResolvesTo document value target)
      (hname : ∀ name, target.get? "name" ≠ some (.string name)) :
      ParameterFault document value .unnamedParameter
  | unplaced {target : Value} {name : String} (htarget : ResolvesTo document value target)
      (hname : target.get? "name" = some (.string name))
      (hlocation : ∀ location, target.get? "in" ≠ some (.string location)) :
      ParameterFault document value (.unplacedParameter name)

/-- The checks of an operation: the parameters of its path, its own parameters, its
request body and its responses. -/
def operationChecks (document : Value) (site : Site) : List (Check Fault) :=
  (itemsOf (site.item.get? "parameters")).map (ParameterFault document) ++
    (itemsOf (site.body.get? "parameters")).map (ParameterFault document) ++
    (site.body.get? "requestBody").toList.map (Unresolvable document) ++
    (fieldsOf (site.body.get? "responses")).map fun entry => Unresolvable document entry.2

/-- The checks of a document, the operations in the order of the paths and methods. -/
def documentChecks (raw : Value) : List (Check Fault) :=
  [.need (HasVersion raw) .missingVersion, .need (∃ info, raw.get? "info" = some info) .missingInfo,
    .need (HasInfoText raw "title") .missingTitle,
    .need (HasInfoText raw "version") .missingInfoVersion,
    .need (HasPaths raw) .missingPaths] ++
    (sitesIn raw).flatMap (operationChecks raw)

/-! ## Reading makes these checks -/

section Reading

variable {document value : Value} {fault : Fault}

theorem text?_eq_none_iff {key : String} :
    value.text? key = none ↔ ∀ text, value.get? key ≠ some (.string text) := by
  rw [Option.eq_none_iff_forall_ne_some]
  exact forall_congr' fun text => not_congr text?_eq_some_iff

theorem parameterOfValue_eq_error_iff :
    parameterOfValue value = .error fault ↔
      (value.text? "name" = none ∧ fault = .unnamedParameter) ∨
        ∃ name, value.text? "name" = some name ∧ value.text? "in" = none ∧
          fault = .unplacedParameter name := by
  rw [parameterOfValue]
  cases value.text? "name" with
  | none => simp [eq_comm]
  | some name => cases value.text? "in" <;> simp [eq_comm]

theorem parameterAt_eq_error_iff :
    parameterAt document value = .error fault ↔ ParameterFault document value fault := by
  rw [parameterAt, Traversal.bind_eq_error_iff]
  simp only [resolve_eq_error_iff, resolve_eq_ok_iff, parameterOfValue_eq_error_iff,
    text?_eq_none_iff, text?_eq_some_iff]
  constructor
  · rintro (hfault | ⟨target, htarget, ⟨hname, rfl⟩ | ⟨name, hname, hlocation, rfl⟩⟩)
    · exact .unresolvable hfault
    · exact .unnamed htarget hname
    · exact .unplaced htarget hname hlocation
  · rintro (hfault | ⟨htarget, hname⟩ | ⟨htarget, hname, hlocation⟩)
    · exact .inl hfault
    · exact .inr ⟨_, htarget, .inl ⟨hname, rfl⟩⟩
    · exact .inr ⟨_, htarget, .inr ⟨_, hname, hlocation, rfl⟩⟩

/-- Resolving a value makes one check: that the value can be resolved. -/
theorem decide_resolve : Check.Decide [Unresolvable document value] (resolve document value) :=
  .single fun _ => resolve_eq_error_iff

theorem decide_parameterAt :
    Check.Decide [ParameterFault document value] (parameterAt document value) :=
  .single fun _ => parameterAt_eq_error_iff

theorem decide_responseOf (status : String) :
    Check.Decide [Unresolvable document value] (responseOf document status value) := by
  rw [← List.append_nil [_], responseOf]
  exact decide_resolve.bind fun _ _ => .ok _

theorem decide_parametersOf (member : Option Value) :
    Check.Decide ((itemsOf member).map (ParameterFault document))
      (parametersOf document member) := by
  rw [parametersOf_eq_mapM, List.map_eq_flatMap]
  exact .mapM fun _ => decide_parameterAt

theorem decide_requestBodyOf (member : Option Value) :
    Check.Decide (member.toList.map (Unresolvable document)) (requestBodyOf document member) := by
  cases member with
  | none => exact .ok none
  | some body =>
      have hbody : requestBodyOf document (some body) =
          resolve document body >>= fun target => .ok (some target) := by
        rw [requestBodyOf]
        cases resolve document body <;> rfl
      rw [hbody, Option.toList_some, List.map_singleton, ← List.append_nil [_]]
      exact decide_resolve.bind fun _ _ => .ok _

theorem decide_responsesOf (member : Option Value) :
    Check.Decide ((fieldsOf member).map fun entry => Unresolvable document entry.2)
      (responsesOf document member) := by
  rw [responsesOf_eq_mapM, List.map_eq_flatMap]
  exact .mapM fun entry => decide_responseOf entry.1

theorem decide_operation (site : Site) :
    Check.Decide (operationChecks document site) (site.operation document) := by
  rw [← List.append_nil (operationChecks document site)]
  simp only [operationChecks, List.append_assoc]
  exact (decide_parametersOf _).bind fun _ _ => (decide_parametersOf _).bind fun _ _ =>
    (decide_requestBodyOf _).bind fun _ _ => (decide_responsesOf _).bind fun _ _ => .ok _

theorem hasVersion_iff : HasVersion document ↔ ∃ version,
    ((document.get? "openapi").or (document.get? "swagger")).bind Value.string? =
      some version := by
  refine exists_congr fun version => ?_
  have hstring : ∀ found : Value, found.string? = some version ↔ found = .string version := by
    intro found
    cases found <;> simp [Value.string?]
  cases document.get? "openapi" <;> simp [Option.bind_eq_some_iff, hstring]

/-- Where there is an `info`, its texts are found as its members. -/
theorem hasInfoText_iff {info : Value} {key : String}
    (hinfo : document.get? "info" = some info) :
    HasInfoText document key ↔ ∃ text, info.text? key = some text := by
  simp [HasInfoText, hinfo, text?_eq_some_iff]

theorem hasPaths_iff : HasPaths document ↔
    ∃ paths, (document.get? "paths").bind Value.fields? = some paths := by
  refine exists_congr fun paths => ?_
  have hfields : ∀ found : Value, found.fields? = some paths ↔ found = .object paths := by
    intro found
    cases found <;> simp [Value.fields?]
  simp [Option.bind_eq_some_iff, hfields]

theorem decide_versionOf :
    Check.Decide [.need (HasVersion document) .missingVersion] (versionOf document) := by
  rw [versionOf]
  refine .need hasVersion_iff (fun hmissing => by rw [hmissing]) fun version hversion => ?_
  rw [hversion]
  exact .ok version

theorem decide_infoOf :
    Check.Decide [.need (∃ info, document.get? "info" = some info) .missingInfo,
      .need (HasInfoText document "title") .missingTitle,
      .need (HasInfoText document "version") .missingInfoVersion] (infoOf document) := by
  rw [infoOf]
  refine .need Iff.rfl (fun hmissing => by rw [hmissing]) fun info hinfo => ?_
  simp only [hinfo]
  refine .need (hasInfoText_iff hinfo) (fun hmissing => by rw [hmissing]) fun title htitle => ?_
  simp only [htitle]
  refine .need (hasInfoText_iff hinfo) (fun hmissing => by rw [hmissing])
    fun version hversion => ?_
  simp only [hversion]
  exact .ok _

/-- The operations are checked one after the other, once there are paths at all. -/
theorem decide_operationsOf :
    Check.Decide (.need (HasPaths document) .missingPaths ::
      (sitesIn document).flatMap (operationChecks document)) (operationsOf document) := by
  rw [operationsOf]
  refine .need hasPaths_iff (fun hmissing => by rw [hmissing]) fun paths hpaths => ?_
  rw [sitesIn, fieldsOf, hpaths]
  exact .mapM decide_operation

/-- Reading a document makes the checks listed for it, in their order. -/
theorem decide_ofValue (raw : Value) :
    Check.Decide (documentChecks raw) (Document.ofValue raw) := by
  rw [← List.append_nil (documentChecks raw)]
  exact decide_versionOf.bind fun _ _ => decide_infoOf.bind fun _ _ =>
    decide_operationsOf.bind fun _ _ => .ok _

end Reading

/-! ## All checks pass when a document has what it needs -/

section Passing

variable {document value : Value}

theorem passes_unresolvable :
    Check.Passes (Unresolvable document value) ↔ Resolves document value := by
  simpa [resolve_eq_ok_iff, Resolves] using
    (@decide_resolve document value).exists_ok_iff.symm

theorem exists_parameterOfValue_iff :
    (∃ parameter, parameterOfValue value = .ok parameter) ↔
      ∃ name location, value.get? "name" = some (.string name) ∧
        value.get? "in" = some (.string location) := by
  simp only [← text?_eq_some_iff, parameterOfValue]
  cases value.text? "name" with
  | none => simp
  | some name => cases value.text? "in" <;> simp

theorem passes_parameterFault :
    Check.Passes (ParameterFault document value) ↔ DescribesParameter document value := by
  have hdecide := (@decide_parameterAt document value).exists_ok_iff
  rw [List.forall_mem_singleton] at hdecide
  rw [← hdecide]
  simp only [parameterAt, Traversal.bind_eq_ok_iff, resolve_eq_ok_iff, DescribesParameter]
  constructor
  · rintro ⟨parameter, target, htarget, hparameter⟩
    obtain ⟨name, location, hmembers⟩ := exists_parameterOfValue_iff.mp ⟨parameter, hparameter⟩
    exact ⟨target, name, location, htarget, hmembers⟩
  · rintro ⟨target, name, location, htarget, hmembers⟩
    obtain ⟨parameter, hparameter⟩ := exists_parameterOfValue_iff.mpr ⟨name, location, hmembers⟩
    exact ⟨parameter, target, htarget, hparameter⟩

/-- All checks of an operation pass exactly when the operation is acceptable. -/
theorem passes_operationChecks {site : Site} :
    (∀ check ∈ operationChecks document site, check.Passes) ↔
      AcceptableOperation document site.item site.body := by
  simp only [operationChecks, List.forall_mem_append, List.forall_mem_map, passes_unresolvable,
    passes_parameterFault, Option.mem_toList]
  constructor
  · rintro ⟨⟨⟨hpath, hoperation⟩, hbody⟩, hresponses⟩
    exact ⟨hpath, hoperation, hbody, hresponses⟩
  · rintro ⟨hpath, hoperation, hbody, hresponses⟩
    exact ⟨⟨⟨hpath, hoperation⟩, hbody⟩, hresponses⟩

/-- All checks of a document pass exactly when the document is acceptable. -/
theorem passes_documentChecks (raw : Value) :
    (∀ check ∈ documentChecks raw, check.Passes) ↔ Acceptable raw := by
  have hsites : (∀ site ∈ sitesIn raw, AcceptableOperation raw site.item site.body) ↔
      ∀ entry ∈ fieldsOf (raw.get? "paths"), ∀ (method : Method) fields,
        entry.2.get? method.word = some (.object fields) →
          AcceptableOperation raw entry.2 (.object fields) := by
    constructor
    · intro hall entry hentry method fields hfields
      exact hall _ (mem_sitesIn.mpr ⟨entry, hentry, method, fields, hfields, rfl⟩)
    · intro hall site hsite
      obtain ⟨entry, hentry, method, fields, hfields, rfl⟩ := mem_sitesIn.mp hsite
      exact hall entry hentry method fields hfields
  have hoperations : (∀ check ∈ (sitesIn raw).flatMap (operationChecks raw), check.Passes) ↔
      ∀ site ∈ sitesIn raw, AcceptableOperation raw site.item site.body := by
    simp only [List.mem_flatMap, ← passes_operationChecks]
    exact ⟨fun hall site hsite check hcheck => hall check ⟨site, hsite, hcheck⟩,
      fun hall check ⟨site, hsite, hcheck⟩ => hall site hsite check hcheck⟩
  simp only [documentChecks, List.forall_mem_append, List.forall_mem_cons, Check.passes_need,
    hoperations, hsites]
  constructor
  · rintro ⟨⟨hversion, -, htitle, hinfoVersion, hpaths, -⟩, hall⟩
    exact ⟨hversion, htitle, hinfoVersion, hpaths, hall⟩
  · rintro ⟨hversion, htitle, hinfoVersion, hpaths, hall⟩
    have hinfo : ∃ info, raw.get? "info" = some info := by
      obtain ⟨info, -, hinfo, -⟩ := htitle
      exact ⟨info, hinfo⟩
    exact ⟨⟨hversion, hinfo, htitle, hinfoVersion, hpaths,
      List.forall_mem_nil _⟩, hall⟩

end Passing

/-- Which values are documents: those that have what is needed, whatever else they
hold.  Any other value has the fault of its first check that fails, and its error says
so. -/
theorem acceptance_of_ofValue (raw : Value) :
    ((∃ document, Document.ofValue raw = .ok document) ↔ Acceptable raw) ∧
      ∀ error, (Document.ofValue raw).mapError Fault.toError = .error error ↔
        ∃ fault : Fault, Check.FirstFailure (documentChecks raw) fault ∧
          error = .document fault.message := by
  refine ⟨(decide_ofValue raw).exists_ok_iff.trans (passes_documentChecks raw), ?_⟩
  intro error
  simp only [← decide_ofValue raw _]
  cases Document.ofValue raw with
  | error fault => simp [Except.mapError, Fault.toError, eq_comm]
  | ok document => simp [Except.mapError]

end Stencil.Api
