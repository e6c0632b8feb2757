import Mathlib.Data.List.Perm.Basic
import Stencil.Proofs.Api.Sites

/-!
# Groups of a document

Adding operations one by one to the first group with their name comes to the same as
walking through the groups once: each group takes the operations with its name out of
those that are left, and what is left in the end forms groups of its own.  From this
it follows which groups there are, in which order, and what they hold.
-/

namespace Stencil.Api

/-! ## First occurrences -/

private theorem eraseDups_filter (keep : String → Bool) (names : List String) :
    (names.filter keep).eraseDups = names.eraseDups.filter keep := by
  match names with
  | [] => rfl
  | first :: rest =>
      have hrest := eraseDups_filter keep (rest.filter fun name => !name == first)
      have hcomm : (rest.filter keep).filter (fun name => !name == first) =
          (rest.filter fun name => !name == first).filter keep := by
        simp only [List.filter_filter, Bool.and_comm]
      rw [List.eraseDups_cons]
      cases hkeep : keep first with
      | true =>
          rw [List.filter_cons_of_pos hkeep, List.filter_cons_of_pos hkeep, List.eraseDups_cons,
            hcomm, hrest]
      | false =>
          have hkept : rest.filter keep =
              (rest.filter fun name => !name == first).filter keep := by
            rw [← hcomm, List.filter_filter]
            refine List.filter_congr fun name _ => ?_
            by_cases hname : name = first
            · simp [hname, hkeep]
            · simp [hname]
          rw [List.filter_cons_of_neg (by simp [hkeep]), List.filter_cons_of_neg (by simp [hkeep]),
            hkept, hrest]
termination_by names.length
decreasing_by
  exact Nat.lt_succ_of_le (List.length_filter_le _ _)

private theorem nodup_eraseDups (names : List String) : names.eraseDups.Nodup := by
  match names with
  | [] => exact List.nodup_nil
  | first :: rest =>
      rw [List.eraseDups_cons, List.nodup_cons]
      refine ⟨?_, nodup_eraseDups _⟩
      rw [List.mem_eraseDups]
      simp
termination_by names.length
decreasing_by
  exact Nat.lt_succ_of_le (List.length_filter_le _ _)

/-! ## The walk through the groups -/

def operationsNamed (name : String) (operations : List Operation) : List Operation :=
  operations.filter fun operation => operation.groupName = name

def operationsNotNamed (name : String) (operations : List Operation) : List Operation :=
  operations.filter fun operation => operation.groupName ≠ name

theorem operationsNamed_operationsNotNamed {name other : String} (hne : other ≠ name)
    (operations : List Operation) :
    operationsNamed other (operationsNotNamed name operations) =
      operationsNamed other operations := by
  rw [operationsNamed, operationsNotNamed, List.filter_filter]
  refine List.filter_congr fun operation _ => ?_
  by_cases hname : operation.groupName = other
  · simp [hname, hne]
  · simp [hname]

theorem map_groupName_operationsNotNamed (name : String) (operations : List Operation) :
    (operationsNotNamed name operations).map Operation.groupName =
      (operations.map Operation.groupName).filter fun other => !other == name := by
  rw [operationsNotNamed, List.filter_map]
  refine congrArg _ (List.filter_congr fun operation _ => ?_)
  simp only [Function.comp_apply, ne_eq, decide_not, beq_eq_decide]

/-- The group in front takes all operations with its name. -/
theorem foldl_addToGroup_cons (group : Group) (rest : List Group) (operations : List Operation) :
    operations.foldl (fun groups operation => addToGroup operation groups) (group :: rest) =
      { group with
          operations := group.operations ++ operationsNamed group.name operations } ::
        (operationsNotNamed group.name operations).foldl
          (fun groups operation => addToGroup operation groups) rest := by
  induction operations generalizing group rest with
  | nil => simp [operationsNamed, operationsNotNamed]
  | cons operation operations ih =>
      rw [List.foldl_cons, addToGroup]
      by_cases hname : operation.groupName = group.name
      · rw [if_pos (by simp [hname]), ih]
        simp [operationsNamed, operationsNotNamed, hname]
      · rw [if_neg (by simpa using Ne.symm hname), ih]
        simp [operationsNamed, operationsNotNamed, hname]

/-- A declared group appears when an operation has its name, and the others go on to
the groups after it. -/
theorem groupOperations_cons (group : Group) (rest : List Group) (operations : List Operation) :
    groupOperations (group :: rest) operations =
      (if group.operations ++ operationsNamed group.name operations = [] then []
        else [{ group with
          operations := group.operations ++ operationsNamed group.name operations }]) ++
        groupOperations rest (operationsNotNamed group.name operations) := by
  rw [groupOperations, foldl_addToGroup_cons, List.filter_cons]
  split <;> split <;> simp_all [groupOperations]

/-- An operation for which nothing is declared opens a group. -/
theorem groupOperations_nil_cons (operation : Operation) (operations : List Operation) :
    groupOperations [] (operation :: operations) =
      ⟨operation.groupName, none, operationsNamed operation.groupName (operation :: operations)⟩ ::
        groupOperations [] (operationsNotNamed operation.groupName operations) := by
  rw [groupOperations, List.foldl_cons, addToGroup, foldl_addToGroup_cons, List.filter_cons]
  simp [groupOperations, operationsNamed]

/-! ## Which groups there are -/

/-- The names of the groups: declared names first, then the others that are used, each
at its first occurrence; only names that are used. -/
def expectedNames (declared used : List String) : List String :=
  (declared.eraseDups ++ (used.filter fun name => name ∉ declared).eraseDups).filter
    fun name => name ∈ used

/-- The names expected are the used ones among the declared and then the used ones. -/
theorem expectedNames_eq (declared used : List String) :
    expectedNames declared used =
      (declared ++ used).eraseDups.filter fun name => name ∈ used := by
  have hremoved : used.removeAll declared = used.filter fun name => name ∉ declared :=
    List.filter_congr fun name _ => by simp [List.elem_eq_contains]
  rw [expectedNames, List.eraseDups_append, hremoved]

theorem nodup_expectedNames (declared used : List String) :
    (expectedNames declared used).Nodup := by
  rw [expectedNames_eq]
  exact (nodup_eraseDups _).filter _

theorem mem_expectedNames {declared used : List String} {name : String} :
    name ∈ expectedNames declared used ↔ name ∈ used := by
  rw [expectedNames_eq, List.mem_filter, List.mem_eraseDups, List.mem_append]
  simp
  exact Or.inr

theorem expectedNames_nil (used : List String) : expectedNames [] used = used.eraseDups := by
  rw [expectedNames_eq, List.nil_append, List.filter_eq_self]
  intro name hname
  simpa using hname

theorem expectedNames_cons (name : String) (declared used : List String) :
    expectedNames (name :: declared) used =
      (if name ∈ used then [name] else []) ++
        expectedNames declared (used.filter fun other => !other == name) := by
  have hrest : (declared ++ used.filter fun other => !other == name).eraseDups.filter
        (fun other => other ∈ used.filter fun other => !other == name) =
      ((declared ++ used).filter fun other => !other == name).eraseDups.filter
        fun other => other ∈ used := by
    calc
      _ = ((declared ++ used.filter fun other => !other == name).eraseDups.filter
            fun other => !other == name).filter fun other => other ∈ used := by
        rw [List.filter_filter]
        refine List.filter_congr fun other _ => ?_
        simp [List.mem_filter, beq_eq_decide]
      _ = _ := by
        rw [← eraseDups_filter, List.filter_append, List.filter_append, List.filter_filter]
        simp only [Bool.and_self]
  rw [expectedNames_eq, expectedNames_eq, hrest, List.cons_append, List.eraseDups_cons,
    List.filter_cons]
  split <;> simp_all

/-! ## What the groups hold -/

def expectedGroup (declared : List Group) (operations : List Operation) (name : String) : Group :=
  ⟨name, (declared.find? fun group => group.name == name).bind Group.description,
    operationsNamed name operations⟩

/-- Without declared groups there is one group for each name in use. -/
theorem groupOperations_nil (operations : List Operation) :
    groupOperations [] operations =
      (operations.map Operation.groupName).eraseDups.map (expectedGroup [] operations) := by
  match operations with
  | [] => rfl
  | operation :: rest =>
      rw [groupOperations_nil_cons, groupOperations_nil (operationsNotNamed _ rest),
        List.map_cons, List.eraseDups_cons, List.map_cons, map_groupName_operationsNotNamed]
      refine congrArg (List.cons _) (List.map_congr_left fun name hname => ?_)
      have hne : name ≠ operation.groupName := by
        rw [List.mem_eraseDups, List.mem_filter] at hname
        simpa using hname.2
      rw [expectedGroup, expectedGroup, operationsNamed_operationsNotNamed hne]
      simp [operationsNamed, Ne.symm hne]
termination_by operations.length
decreasing_by
  exact Nat.lt_succ_of_le (List.length_filter_le _ _)

/-- The groups of a document: those whose names are declared or used, as far as they
are used, each with all operations of its name. -/
theorem groupOperations_eq_map {declared : List Group}
    (hempty : ∀ group ∈ declared, group.operations = []) (operations : List Operation) :
    groupOperations declared operations =
      (expectedNames (declared.map Group.name) (operations.map Operation.groupName)).map
        (expectedGroup declared operations) := by
  induction declared generalizing operations with
  | nil => rw [List.map_nil, expectedNames_nil, groupOperations_nil]
  | cons group rest ih =>
      have hrest : ∀ name ∈ expectedNames (rest.map Group.name)
          ((operations.map Operation.groupName).filter fun other => !other == group.name),
          expectedGroup rest (operationsNotNamed group.name operations) name =
            expectedGroup (group :: rest) operations name := by
        intro name hname
        have hne : name ≠ group.name := by
          simpa using (List.mem_filter.mp (mem_expectedNames.mp hname)).2
        rw [expectedGroup, expectedGroup, operationsNamed_operationsNotNamed hne,
          List.find?_cons_of_neg (by simpa using hne.symm)]
      rw [groupOperations_cons, ih fun other hother => hempty other (List.mem_cons_of_mem _ hother),
        map_groupName_operationsNotNamed, List.map_cons, expectedNames_cons, List.map_append,
        List.map_congr_left hrest, hempty group List.mem_cons_self, List.nil_append]
      refine congrArg (· ++ _) ?_
      have hused : operationsNamed group.name operations = [] ↔
          group.name ∉ operations.map Operation.groupName := by
        simp [operationsNamed, List.filter_eq_nil_iff]
      by_cases hname : group.name ∈ operations.map Operation.groupName
      · rw [if_neg (mt hused.mp (not_not.mpr hname)), if_pos hname, List.map_singleton,
          expectedGroup, List.find?_cons_of_pos (by simp)]
        rfl
      · rw [if_pos (hused.mpr hname), if_neg hname, List.map_nil]

/-- Distinct names that cover all operations share them out. -/
theorem perm_flatMap_operationsNamed {names : List String} (hnodup : names.Nodup)
    {operations : List Operation}
    (hcovered : ∀ operation ∈ operations, operation.groupName ∈ names) :
    (names.flatMap fun name => operationsNamed name operations).Perm operations := by
  induction names generalizing operations with
  | nil =>
      obtain rfl : operations = [] := by
        rw [List.eq_nil_iff_forall_not_mem]
        intro operation hmem
        simpa using hcovered operation hmem
      exact .nil
  | cons name rest ih =>
      obtain ⟨hname, hrest⟩ := List.nodup_cons.mp hnodup
      have hothers : (rest.flatMap fun other => operationsNamed other operations) =
          rest.flatMap fun other =>
            operationsNamed other (operationsNotNamed name operations) := by
        refine List.flatMap_congr fun other hother => ?_
        rw [operationsNamed_operationsNotNamed (ne_of_mem_of_not_mem hother hname)]
      rw [List.flatMap_cons, hothers]
      have hleft : ∀ operation ∈ operationsNotNamed name operations,
          operation.groupName ∈ rest := by
        intro operation hmem
        obtain ⟨hmem, hne⟩ := List.mem_filter.mp hmem
        exact (List.mem_cons.mp (hcovered operation hmem)).resolve_left (by simpa using hne)
      refine (List.Perm.append_left _ (ih hrest hleft)).trans ?_
      simpa [operationsNamed, operationsNotNamed] using
        List.filter_append_perm (fun operation : Operation => operation.groupName = name)
          operations

/-! ## The groups of a document -/

/-- The names of the tags that a document declares, in order, with repetitions. -/
def declaredNames (raw : Value) : List String :=
  (itemsOf (raw.get? "tags")).filterMap fun tag => tag.text? "name"

/-- The description of the first tag that a document declares under a name. -/
def declaredDescription? (raw : Value) (name : String) : Option String :=
  ((itemsOf (raw.get? "tags")).find? fun tag => tag.text? "name" == some name).bind
    fun tag => tag.text? "description"

def firstTag? (body : Value) : Option String :=
  (itemsOf (body.get? "tags")).findSome? Value.string?

theorem map_name_declaredGroups (raw : Value) :
    (declaredGroups raw).map Group.name = declaredNames raw := by
  rw [declaredGroups, declaredNames, List.map_filterMap]
  refine List.filterMap_congr fun tag _ => ?_
  simp only [Option.map_map]
  exact Option.map_id'

theorem operations_of_mem_declaredGroups {raw : Value} {group : Group}
    (hgroup : group ∈ declaredGroups raw) : group.operations = [] := by
  obtain ⟨tag, -, hmade⟩ := List.mem_filterMap.mp hgroup
  obtain ⟨name, -, rfl⟩ := Option.map_eq_some_iff.mp hmade
  rfl

theorem description_declaredGroups (raw : Value) (name : String) :
    ((declaredGroups raw).find? fun group => group.name == name).bind Group.description =
      declaredDescription? raw name := by
  rw [declaredGroups, declaredDescription?, ← itemsOf]
  induction itemsOf (raw.get? "tags") with
  | nil => rfl
  | cons tag rest ih =>
      cases htag : tag.text? "name" with
      | none => simpa [htag] using ih
      | some found =>
          by_cases hname : found = name
          · simp [htag, hname]
          · simpa [htag, hname] using ih

/-- An operation is grouped by its first tag, or by default. -/
theorem groupName_of_operation {document : Value} {site : Site} {operation : Operation}
    (hoperation : site.operation document = .ok operation) :
    operation.groupName = (firstTag? site.body).getD defaultGroup := by
  rw [Operation.groupName, tags_of_operation hoperation, textsOf, List.head?_filterMap]
  rfl

/-- The groups of a document that can be read.  Their names are the declared ones, each
once and at its first place, and after them the others in the order of their first use,
as far as an operation has them.  A group holds the operations with its name, in order
and as they are, and has the description of the first tag declared under its name; so
every operation is in one group, once.  The name for an operation is its first tag that
is a text, or the name of the default group. -/
theorem groups_of_ofValue {raw : Value} {document : Document}
    (hparse : Document.ofValue raw = .ok document) :
    document.groups.map Group.name =
        expectedNames (declaredNames raw) (document.operations.map Operation.groupName) ∧
      (document.groups.map Group.name).Nodup ∧
      (∀ group ∈ document.groups,
        group.operations = operationsNamed group.name document.operations ∧
          group.description = declaredDescription? raw group.name) ∧
      (document.groups.flatMap Group.operations).Perm document.operations ∧
      List.Forall₂ (fun site operation =>
          operation.groupName = (firstTag? site.body).getD "default")
        (sitesIn raw) document.operations := by
  obtain ⟨version, info, operations, -, -, hoperations, rfl⟩ := ofValue_eq_ok_iff.mp hparse
  obtain ⟨-, hsites⟩ := operationsOf_eq_ok_iff.mp hoperations
  have hgroups := groupOperations_eq_map
    (fun group (hgroup : group ∈ declaredGroups raw) => operations_of_mem_declaredGroups hgroup)
    operations
  rw [map_name_declaredGroups] at hgroups
  have hnames : (groupOperations (declaredGroups raw) operations).map Group.name =
      expectedNames (declaredNames raw) (operations.map Operation.groupName) := by
    rw [hgroups, List.map_map]
    exact List.map_id' _
  refine ⟨hnames, ?_, ?_, ?_, hsites.imp fun _ _ => groupName_of_operation⟩
  · rw [hnames]
    exact nodup_expectedNames _ _
  · intro group hgroup
    rw [hgroups] at hgroup
    obtain ⟨name, -, rfl⟩ := List.mem_map.mp hgroup
    exact ⟨rfl, description_declaredGroups raw name⟩
  · rw [hgroups, List.flatMap_map]
    refine perm_flatMap_operationsNamed (nodup_expectedNames _ _) fun operation hmem => ?_
    exact mem_expectedNames.mpr (List.mem_map_of_mem hmem)

/-- A shop that declares one tag twice, one without a name and one that nothing uses,
and whose operations have tags that are no texts, or none, or none declared. -/
def shopRaw : Value :=
  .object [("openapi", .string "3.1.0"),
    ("info", .object [("title", .string "Shop"), ("version", .string "1")]),
    ("tags", .array [.object [("name", .string "unused")],
      .object [("name", .string "store"), ("description", .string "first")],
      .object [("name", .whole 7)],
      .object [("name", .string "store"), ("description", .string "second")]]),
    ("paths", .object [
      ("/pets", .object [("get", .object [("tags", .array [.whole 1, .string "pets"])]),
        ("delete", .object [])]),
      ("/stock", .object [("get", .object [("tags", .array [.string "store"])]),
        ("put", .object [("tags", .array [.string "pets", .string "store"])])])])]

theorem groups_of_ofValue_shop :
    ∃ document, Document.ofValue shopRaw = .ok document ∧
      document.groups.map Group.name = ["store", "pets", "default"] ∧
      ∀ group ∈ document.groups, group.name = "store" → group.description = some "first" := by
  have hread : (Document.ofValue shopRaw).toOption.map
      (fun document => document.operations.map Operation.groupName) =
        some ["pets", "default", "store", "pets"] := by
    decide +kernel
  obtain ⟨document, hdocument, hused⟩ := Option.map_eq_some_iff.mp hread
  have hparse := Traversal.eq_ok_of_toOption hdocument
  obtain ⟨hnames, -, hgroups, -⟩ := groups_of_ofValue hparse
  refine ⟨document, hparse, ?_, ?_⟩
  · rw [hnames, hused]
    decide +kernel
  · intro group hgroup hname
    rw [(hgroups group hgroup).2, hname]
    decide +kernel

end Stencil.Api
