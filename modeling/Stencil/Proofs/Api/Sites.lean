import Stencil.Api.Document
import Stencil.Proofs.Traversal

/-!
# Operations where they stand

Reading a document is a chain of traversals: over the operations of all paths, and
for each operation over its parameters and responses.  This file says of each part
what it goes through, so that other files need not open the definitions.
-/

namespace Stencil.Api

/-- The items of a member of array kind; none unless there is one. -/
def itemsOf (member : Option Value) : List Value :=
  (member.bind Value.items?).getD []

/-- The fields of a member of object kind; none unless there is one. -/
def fieldsOf (member : Option Value) : Value.Fields :=
  (member.bind Value.fields?).getD []

/-- The operations of a document, in the order of its paths and then of the methods. -/
def sitesIn (document : Value) : List Site :=
  sitesOf (fieldsOf (document.get? "paths"))

/-- An operation stands where a path has an object under a method. -/
theorem mem_sitesIn {document : Value} {site : Site} :
    site ∈ sitesIn document ↔
      ∃ entry ∈ fieldsOf (document.get? "paths"), ∃ (method : Method) (fields : Value.Fields),
        entry.2.get? method.word = some (.object fields) ∧
          site = ⟨entry.1, method, entry.2, .object fields⟩ := by
  have hmethods : ∀ method : Method, method ∈ Method.all := by
    intro method
    cases method <;> decide
  simp only [sitesIn, sitesOf, sitesOfItem, List.mem_flatMap, List.mem_filterMap]
  refine exists_congr fun entry => and_congr_right fun _ => exists_congr fun method => ?_
  simp only [hmethods, true_and]
  rcases entry.2.get? method.word with _ | (_ | _ | _ | _ | _ | fields) <;> simp [eq_comm]

/-- The parameter that an item describes, itself or by its reference. -/
def parameterAt (document item : Value) : Except Fault Parameter := do
  parameterOfValue (← resolve document item)

theorem parametersOf_eq_mapM (document : Value) (member : Option Value) :
    parametersOf document member = (itemsOf member).mapM (parameterAt document) := by
  rw [parametersOf, itemsOf]
  cases member.bind Value.items? <;> rfl

theorem responsesOf_eq_mapM (document : Value) (member : Option Value) :
    responsesOf document member =
      (fieldsOf member).mapM fun entry => responseOf document entry.1 entry.2 := by
  rw [responsesOf, fieldsOf]
  cases member.bind Value.fields? <;> rfl

/-- The operations are read site by site, once there are paths at all. -/
theorem operationsOf_eq_mapM (document : Value) :
    operationsOf document =
      if ((document.get? "paths").bind Value.fields?).isSome then
        (sitesIn document).mapM (Site.operation document)
      else .error .missingPaths := by
  rw [operationsOf, sitesIn, fieldsOf]
  cases (document.get? "paths").bind Value.fields? <;> rfl

theorem operationsOf_eq_ok_iff {document : Value} {operations : List Operation} :
    operationsOf document = .ok operations ↔
      ((document.get? "paths").bind Value.fields?).isSome ∧
        List.Forall₂ (fun site operation => site.operation document = .ok operation)
          (sitesIn document) operations := by
  rw [operationsOf_eq_mapM, ← Traversal.mapM_eq_ok_iff]
  split
  · rename_i hpaths
    simp only [hpaths, true_and]
  · rename_i hpaths
    simp only [hpaths, reduceCtorEq, false_and, Bool.false_eq_true]

/-- A document is read when its version, its information and its operations are. -/
theorem ofValue_eq_ok_iff {raw : Value} {document : Document} :
    Document.ofValue raw = .ok document ↔
      ∃ version info operations, versionOf raw = .ok version ∧ infoOf raw = .ok info ∧
        operationsOf raw = .ok operations ∧
        document = ⟨version, info, groupOperations (declaredGroups raw) operations, operations,
          modelsOf (schemasOf raw), enumerationsOf (schemasOf raw), raw⟩ := by
  simp only [Document.ofValue, Traversal.bind_eq_ok_iff]
  constructor
  · rintro ⟨version, hversion, info, hinfo, operations, hoperations, hdocument⟩
    exact ⟨version, info, operations, hversion, hinfo, hoperations,
      (Except.ok.inj hdocument).symm⟩
  · rintro ⟨version, info, operations, hversion, hinfo, hoperations, rfl⟩
    exact ⟨version, hversion, info, hinfo, operations, hoperations, rfl⟩

/-- An operation keeps the texts among the tags that stand at its place. -/
theorem tags_of_operation {document : Value} {site : Site} {operation : Operation}
    (hoperation : site.operation document = .ok operation) :
    operation.tags = textsOf (site.body.get? "tags") := by
  simp only [Site.operation, Traversal.bind_eq_ok_iff] at hoperation
  obtain ⟨_, -, _, -, _, -, _, -, hmade⟩ := hoperation
  rw [← Except.ok.inj hmade]

end Stencil.Api
