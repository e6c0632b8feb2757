import Mathlib.Data.List.Nodup
import Stencil.Proofs.Api.Sites

/-!
# Parameters of an operation

An operation has the parameters of its path with its own put over them one by one.  One step
either takes the place of the first parameter with the same key or adds a new key at the end;
what all steps together do follows by induction on the parameters of the operation.
-/

namespace Stencil.Api

/-- What a parameter stands for: its name, and where it is passed. -/
def Parameter.key (parameter : Parameter) : String × String :=
  (parameter.name, parameter.location)

def firstWith? (key : String × String) (parameters : List Parameter) : Option Parameter :=
  parameters.find? fun parameter => parameter.key = key

def lastWith? (key : String × String) (parameters : List Parameter) : Option Parameter :=
  parameters.reverse.find? fun parameter => parameter.key = key

theorem Parameter.sameKey_iff {left right : Parameter} :
    left.sameKey right = true ↔ left.key = right.key := by
  simp [sameKey, key]

theorem firstWith?_cons (key : String × String) (first : Parameter) (rest : List Parameter) :
    firstWith? key (first :: rest) =
      if first.key = key then some first else firstWith? key rest := by
  rw [firstWith?, List.find?_cons]
  by_cases hkey : first.key = key
  · simp [hkey]
  · simp [hkey, firstWith?]

theorem lastWith?_cons (key : String × String) (first : Parameter) (rest : List Parameter) :
    lastWith? key (first :: rest) =
      (lastWith? key rest).or (if first.key = key then some first else none) := by
  rw [lastWith?, List.reverse_cons, List.find?_append]
  exact congrArg (Option.or _) (firstWith?_cons key first [])

/-! ## One parameter put over others -/

theorem firstWith?_replaceOrAdd (key : String × String) (parameter : Parameter)
    (parameters : List Parameter) :
    firstWith? key (replaceOrAdd parameter parameters) =
      if parameter.key = key then some parameter else firstWith? key parameters := by
  induction parameters with
  | nil => exact firstWith?_cons key parameter []
  | cons first rest ih =>
      rw [replaceOrAdd]
      by_cases hsame : first.key = parameter.key
      · rw [if_pos (Parameter.sameKey_iff.mpr hsame), firstWith?_cons, firstWith?_cons, hsame]
        split <;> rfl
      · rw [if_neg (mt Parameter.sameKey_iff.mp hsame), firstWith?_cons, firstWith?_cons, ih]
        by_cases hkey : first.key = key
        · have hother : parameter.key ≠ key := fun heq => hsame (hkey.trans heq.symm)
          simp only [if_pos hkey, if_neg hother]
        · simp only [if_neg hkey]

theorem keys_replaceOrAdd (parameter : Parameter) (parameters : List Parameter) :
    (replaceOrAdd parameter parameters).map Parameter.key =
      if parameter.key ∈ parameters.map Parameter.key then parameters.map Parameter.key
      else parameters.map Parameter.key ++ [parameter.key] := by
  induction parameters with
  | nil => rfl
  | cons first rest ih =>
      rw [replaceOrAdd]
      by_cases hsame : first.key = parameter.key
      · rw [if_pos (Parameter.sameKey_iff.mpr hsame)]
        simp [hsame]
      · rw [if_neg (mt Parameter.sameKey_iff.mp hsame), List.map_cons, ih, List.map_cons]
        by_cases hlater : parameter.key ∈ rest.map Parameter.key
        · rw [if_pos hlater, if_pos (List.mem_cons_of_mem _ hlater)]
        · rw [if_neg hlater,
            if_neg (List.not_mem_cons_of_ne_of_not_mem (Ne.symm hsame) hlater), List.cons_append]

theorem nodup_keys_replaceOrAdd (parameter : Parameter) {parameters : List Parameter}
    (hnodup : (parameters.map Parameter.key).Nodup) :
    ((replaceOrAdd parameter parameters).map Parameter.key).Nodup := by
  rw [keys_replaceOrAdd]
  split
  · exact hnodup
  · rename_i habsent
    rw [← List.concat_eq_append]
    exact hnodup.concat habsent

/-! ## All parameters of an operation put over those of its path -/

theorem mergeParameters_cons (ofPath : List Parameter) (parameter : Parameter)
    (rest : List Parameter) :
    mergeParameters ofPath (parameter :: rest) =
      mergeParameters (replaceOrAdd parameter ofPath) rest := rfl

/-- Under each key stands the last parameter of the operation, else the first one of the path. -/
theorem firstWith?_mergeParameters (key : String × String) (ofPath ofOperation : List Parameter) :
    firstWith? key (mergeParameters ofPath ofOperation) =
      (lastWith? key ofOperation).or (firstWith? key ofPath) := by
  -- Every step changes the parameters that the later ones are put over, so these vary.
  induction ofOperation generalizing ofPath with
  | nil => rfl
  | cons parameter rest ih =>
      rw [mergeParameters_cons, ih, firstWith?_replaceOrAdd, lastWith?_cons, Option.or_assoc]
      by_cases hkey : parameter.key = key
      · simp [hkey]
      · simp [hkey]

/-- The keys that an operation adds to those of its path, each at its first place. -/
def addedKeys (ofPath ofOperation : List Parameter) : List (String × String) :=
  ((ofOperation.map Parameter.key).filter fun key => key ∉ ofPath.map Parameter.key).eraseDups

theorem addedKeys_cons (ofPath : List Parameter) (parameter : Parameter)
    (rest : List Parameter) :
    ofPath.map Parameter.key ++ addedKeys ofPath (parameter :: rest) =
      (replaceOrAdd parameter ofPath).map Parameter.key ++
        addedKeys (replaceOrAdd parameter ofPath) rest := by
  rw [addedKeys, addedKeys, keys_replaceOrAdd, List.map_cons]
  by_cases hknown : parameter.key ∈ ofPath.map Parameter.key
  · rw [if_pos hknown, List.filter_cons_of_neg (by simpa using hknown)]
  · rw [if_neg hknown, List.filter_cons_of_pos (by simpa using hknown), List.eraseDups_cons,
      List.filter_filter, List.append_assoc, List.singleton_append]
    -- A later key is new to the longer list when it is new to the path and not this one.
    congr 4
    funext key
    by_cases hkey : key = parameter.key
    · simp [hkey]
    · simp [hkey]

/-- The keys of the path come first, then those that the operation adds. -/
theorem keys_mergeParameters (ofPath ofOperation : List Parameter) :
    (mergeParameters ofPath ofOperation).map Parameter.key =
      ofPath.map Parameter.key ++ addedKeys ofPath ofOperation := by
  induction ofOperation generalizing ofPath with
  | nil => simp [mergeParameters, addedKeys]
  | cons parameter rest ih => rw [mergeParameters_cons, ih, addedKeys_cons]

theorem nodup_keys_mergeParameters {ofPath : List Parameter} (ofOperation : List Parameter)
    (hnodup : (ofPath.map Parameter.key).Nodup) :
    ((mergeParameters ofPath ofOperation).map Parameter.key).Nodup := by
  induction ofOperation generalizing ofPath with
  | nil => exact hnodup
  | cons parameter rest ih =>
      rw [mergeParameters_cons]
      exact ih (nodup_keys_replaceOrAdd parameter hnodup)

theorem parameters_of_operation {document : Value} {site : Site} {operation : Operation}
    (hoperation : site.operation document = .ok operation) :
    ∃ ofPath ofOperation, parametersOf document (site.item.get? "parameters") = .ok ofPath ∧
      parametersOf document (site.body.get? "parameters") = .ok ofOperation ∧
      operation.parameters = mergeParameters ofPath ofOperation := by
  simp only [Site.operation, Traversal.bind_eq_ok_iff] at hoperation
  obtain ⟨ofPath, hpath, ofOperation, hown, _, -, _, -, hmade⟩ := hoperation
  refine ⟨ofPath, ofOperation, hpath, hown, ?_⟩
  rw [← Except.ok.inj hmade]

/-- Parameters of an operation go over those of its path, whatever keys are repeated on either
side.  Under every key the last one of the operation comes first, and the first one of the
path where the operation has none.  The keys of the path stay where they are, and the other
keys of the operation follow, each at its first place; so keys that differ on the path still
differ.  These are the parameters that an operation of a document has. -/
theorem mergeParameters_overrides (ofPath ofOperation : List Parameter) :
    (∀ key, firstWith? key (mergeParameters ofPath ofOperation) =
      (lastWith? key ofOperation).or (firstWith? key ofPath)) ∧
    (mergeParameters ofPath ofOperation).map Parameter.key =
      ofPath.map Parameter.key ++ ((ofOperation.map Parameter.key).filter fun key =>
        key ∉ ofPath.map Parameter.key).eraseDups ∧
    ((ofPath.map Parameter.key).Nodup →
      ((mergeParameters ofPath ofOperation).map Parameter.key).Nodup) ∧
    ∀ (document : Value) (site : Site) (operation : Operation),
      site.operation document = .ok operation →
      parametersOf document (site.item.get? "parameters") = .ok ofPath →
      parametersOf document (site.body.get? "parameters") = .ok ofOperation →
      operation.parameters = mergeParameters ofPath ofOperation := by
  refine ⟨fun key => firstWith?_mergeParameters key ofPath ofOperation,
    keys_mergeParameters ofPath ofOperation, nodup_keys_mergeParameters ofOperation, ?_⟩
  intro document site operation hoperation hpath hown
  obtain ⟨pathParameters, ownParameters, hreadPath, hreadOwn, hmerged⟩ :=
    parameters_of_operation hoperation
  obtain rfl := Except.ok.inj (hreadPath.symm.trans hpath)
  obtain rfl := Except.ok.inj (hreadOwn.symm.trans hown)
  exact hmerged

/-! ## A page that is stated three times -/

/-- A document with a parameter that others refer to. -/
def pagedRaw : Value :=
  .object [("parameters", .object [("page", .object [("name", .string "page"),
    ("in", .string "query"), ("description", .string "shared")])])]

/-- The parameters of a path, the second of them by reference. -/
def pagedItem : Value :=
  .object [("parameters", .array [
    .object [("name", .string "id"), ("in", .string "path"), ("required", .bool true)],
    .object [("$ref", .string "#/parameters/page")]])]

/-- The operation states the page twice, and passes an identifier in another way. -/
def pagedBody : Value :=
  .object [("operationId", .string "listPages"), ("parameters", .array [
    .object [("name", .string "page"), ("in", .string "query"), ("description", .string "own")],
    .object [("name", .string "id"), ("in", .string "header")],
    .object [("name", .string "page"), ("in", .string "query")]])]

def pagedOfPath : List Parameter :=
  [⟨"id", "path", true, none, .object []⟩,
    ⟨"page", "query", false, some "shared", .object []⟩]

def pagedOfOperation : List Parameter :=
  [⟨"page", "query", false, some "own", .object []⟩, ⟨"id", "header", false, none, .object []⟩,
    ⟨"page", "query", false, none, .object []⟩]

theorem mergeParameters_overrides_paged :
    parametersOf pagedRaw (pagedItem.get? "parameters") = .ok pagedOfPath ∧
    parametersOf pagedRaw (pagedBody.get? "parameters") = .ok pagedOfOperation ∧
    ∃ operation, Site.operation pagedRaw ⟨"/pages", .get, pagedItem, pagedBody⟩ = .ok operation ∧
      operation.parameters.map Parameter.key =
        [("id", "path"), ("page", "query"), ("id", "header")] ∧
      (operation.parameters.map Parameter.key).Nodup ∧
      firstWith? ("page", "query") operation.parameters =
        some ⟨"page", "query", false, none, .object []⟩ := by
  have hpath : parametersOf pagedRaw (pagedItem.get? "parameters") = .ok pagedOfPath := by rfl
  have hown : parametersOf pagedRaw (pagedBody.get? "parameters") = .ok pagedOfOperation := by
    rfl
  have hread : (Site.operation pagedRaw
      ⟨"/pages", .get, pagedItem, pagedBody⟩).toOption.isSome := by
    decide +kernel
  obtain ⟨operation, hoperation⟩ := Option.isSome_iff_exists.mp hread
  have hparsed := Traversal.eq_ok_of_toOption hoperation
  obtain ⟨hfirst, hkeys, hnodup, hmerged⟩ :=
    mergeParameters_overrides pagedOfPath pagedOfOperation
  refine ⟨hpath, hown, operation, hparsed, ?_⟩
  rw [hmerged pagedRaw _ operation hparsed hpath hown]
  refine ⟨hkeys.trans (by decide), hnodup (by decide), (hfirst _).trans ?_⟩
  rfl

end Stencil.Api
