import Stencil.Manifest.Decode
import Stencil.Proofs.Traversal
import Stencil.Proofs.Value.Keys

/-!
# Manifests in JSON objects

Sets and files are decoded from objects whose keys are all known and distinct.  What such an
object says depends only on the values found under its keys, and so neither on the order of its
fields nor on how an entry is written beyond its key and its value.
-/

namespace Stencil.Manifest

/-! ## JSON values as data -/

theorem ofItems_eq_map (items : List Value) : Datum.ofItems items = items.map Datum.ofValue := by
  induction items with
  | nil => rfl
  | cons item rest ih => rw [Datum.ofItems, ih, List.map_cons]

theorem ofFields_eq_map (fields : Value.Fields) :
    Datum.ofFields fields = fields.map fun entry => (entry.1, Datum.ofValue entry.2) := by
  induction fields with
  | nil => rfl
  | cons entry rest ih => rw [Datum.ofFields, ih, List.map_cons]

theorem keys_ofFields (fields : Value.Fields) :
    (Datum.ofFields fields).map Prod.fst = fields.map Prod.fst := by
  rw [ofFields_eq_map, List.map_map]
  rfl

theorem entry?_ofFields (fields : Value.Fields) (key : String) :
    entry? (Datum.ofFields fields) key = (Value.field? fields key).map Datum.ofValue := by
  unfold entry? Value.field?
  rw [ofFields_eq_map, List.find?_map, Option.map_map, Option.map_map]
  rfl

theorem plainText?_ofValue (value : Value) : (Datum.ofValue value).plainText? = value.string? := by
  cases value <;> rfl

/-! ## Objects of which every key counts -/

/-- Every key is known, and none is there twice. -/
structure KeysFit (known : List String) (fields : Value.Fields) : Prop where
  known : ∀ key ∈ fields.map Prod.fst, key ∈ known
  nodup : (fields.map Prod.fst).Nodup

namespace KeysFit

variable {known : List String} {fields other : Value.Fields}

theorem of_perm (hfit : KeysFit known fields) (hperm : fields.Perm other) :
    KeysFit known other := by
  have hkeys : (fields.map Prod.fst).Perm (other.map Prod.fst) := hperm.map Prod.fst
  exact ⟨fun key hkey => hfit.known key (hkeys.mem_iff.mpr hkey), hkeys.nodup hfit.nodup⟩

theorem of_sublist (hfit : KeysFit known fields)
    (hkeys : (other.map Prod.fst).Sublist (fields.map Prod.fst)) : KeysFit known other :=
  ⟨fun key hkey => hfit.known key (hkeys.subset hkey), hkeys.nodup hfit.nodup⟩

end KeysFit

theorem keysFit_of_eq {known : List String} {fields : Value.Fields}
    (hkeys : fields.map Prod.fst = known) (hnodup : known.Nodup) : KeysFit known fields :=
  ⟨fun _ hkey => hkeys ▸ hkey, hkeys ▸ hnodup⟩

/-- The check takes known keys that have not been seen, each once. -/
theorem checkKeys_eq_ok_iff {known seen : List String} {entries : List (String × Datum)} :
    checkKeys known seen entries = .ok () ↔
      (∀ key ∈ entries.map Prod.fst, key ∈ known ∧ key ∉ seen) ∧
        (entries.map Prod.fst).Nodup := by
  -- Each key is seen by the entries after it, so the induction is for all that has been seen.
  induction entries generalizing seen with
  | nil => simp [checkKeys]
  | cons entry rest ih =>
      obtain ⟨key, datum⟩ := entry
      rw [checkKeys]
      by_cases hknown : key ∈ known
      · by_cases hseen : key ∈ seen
        · simp [hknown, hseen]
        · rw [if_neg (not_not.mpr hknown), if_neg hseen, ih, List.map_cons, List.nodup_cons,
            List.forall_mem_cons]
          constructor
          · rintro ⟨hall, hnodup⟩
            refine ⟨⟨⟨hknown, hseen⟩, fun other hother => ?_⟩, fun hagain => ?_, hnodup⟩
            · exact ⟨(hall other hother).1, fun hold =>
                (hall other hother).2 (List.mem_cons_of_mem key hold)⟩
            · exact (hall key hagain).2 List.mem_cons_self
          · rintro ⟨⟨-, hall⟩, hfresh, hnodup⟩
            refine ⟨fun other hother => ⟨(hall other hother).1, ?_⟩, hnodup⟩
            rintro (_ | ⟨_, hold⟩)
            · exact hfresh hother
            · exact (hall other hother).2 hold
      · simp [hknown]

theorem checkKeys_ofFields_eq_ok_iff {known : List String} {fields : Value.Fields} :
    checkKeys known [] (Datum.ofFields fields) = .ok () ↔ KeysFit known fields := by
  rw [checkKeys_eq_ok_iff, keys_ofFields]
  simp only [List.not_mem_nil, not_false_eq_true, and_true]
  exact ⟨fun ⟨hknown, hnodup⟩ => ⟨hknown, hnodup⟩, fun hfit => ⟨hfit.known, hfit.nodup⟩⟩

/-- The check ends at the first key that is not known. -/
theorem checkKeys_of_unknown {known seen : List String} {before after : List (String × Datum)}
    {key : String} (hbefore : checkKeys known seen before = .ok ()) (hkey : key ∉ known)
    (datum : Datum) :
    checkKeys known seen (before ++ (key, datum) :: after) = .error (.unknownKey key) := by
  induction before generalizing seen with
  | nil => rw [List.nil_append, checkKeys, if_pos hkey]
  | cons entry rest ih =>
      rw [checkKeys] at hbefore
      split at hbefore
      · cases hbefore
      · rename_i hknown
        split at hbefore
        · cases hbefore
        · rename_i hfresh
          rw [List.cons_append, checkKeys, if_neg hknown, if_neg hfresh]
          exact ih hbefore

/-- What an object says: its keys are checked, and the rest is read off the values that are
found under them. -/
def readObject {α : Type} (known : List String)
    (read : (String → Option Value) → Except Mismatch α) (fields : Value.Fields) :
    Except Mismatch α := do
  checkKeys known [] (Datum.ofFields fields)
  read (Value.field? fields)

section Objects

variable {α : Type} {known : List String} {read : (String → Option Value) → Except Mismatch α}
variable {result : α}

/-- An object is read by looking its members up, when its keys fit. -/
theorem readObject_eq_ok_iff {fields : Value.Fields} :
    readObject known read fields = .ok result ↔
      KeysFit known fields ∧ read (Value.field? fields) = .ok result := by
  rw [readObject, Traversal.bind_eq_ok_iff, ← checkKeys_ofFields_eq_ok_iff]
  exact ⟨fun ⟨_, hkeys, hread⟩ => ⟨hkeys, hread⟩, fun ⟨hkeys, hread⟩ => ⟨(), hkeys, hread⟩⟩

theorem readObject_of_keysFit {fields : Value.Fields} (hfit : KeysFit known fields) :
    readObject known read fields = read (Value.field? fields) := by
  rw [readObject, checkKeys_ofFields_eq_ok_iff.mpr hfit]
  rfl

/-- The order of the members does not matter. -/
theorem readObject_of_perm {fields other : Value.Fields} (hperm : fields.Perm other)
    (hread : readObject known read fields = .ok result) :
    readObject known read other = .ok result := by
  obtain ⟨hfit, hfound⟩ := readObject_eq_ok_iff.mp hread
  rw [readObject_of_keysFit (hfit.of_perm hperm), Value.field?_of_perm hperm hfit.nodup, hfound]

section Replaced

variable {before after : Value.Fields} {key : String} {value : Value}
variable (hread : readObject known read (before ++ (key, value) :: after) = .ok result)
include hread

/-- Entries that take the place of one entry of an object change what is found under its key
and nothing else. -/
theorem exists_found_of_readObject :
    ∃ found : String → Option Value, read found = .ok result ∧ found key = some value ∧
      ∀ others : Value.Fields, (others.map Prod.fst).Sublist [key] →
        readObject known read (before ++ others ++ after) =
          read (Function.update found key (Value.field? others key)) := by
  obtain ⟨hfit, hfound⟩ := readObject_eq_ok_iff.mp hread
  have hmem : (key, value) ∈ before ++ (key, value) :: after := by simp
  refine ⟨_, hfound, Value.field?_of_mem hfit.nodup hmem, ?_⟩
  intro others hothers
  have hkeys : ((before ++ others ++ after).map Prod.fst).Sublist
      ((before ++ (key, value) :: after).map Prod.fst) := by
    rw [List.append_assoc, List.map_append, List.map_append, List.map_append]
    exact (List.Sublist.refl _).append (hothers.append (List.Sublist.refl _))
  rw [readObject_of_keysFit (hfit.of_sublist hkeys), Value.field?_replaced hfit.nodup]
  intro other hother
  exact List.mem_singleton.mp (hothers.subset (List.mem_map_of_mem hother))

/-- To remove a member is to find nothing under its key. -/
theorem exists_found_of_removed :
    ∃ found : String → Option Value, read found = .ok result ∧ found key = some value ∧
      readObject known read (before ++ after) = read (Function.update found key none) := by
  obtain ⟨found, hfound, hvalue, hothers⟩ := exists_found_of_readObject hread
  have hremoved := hothers [] (List.nil_sublist _)
  rw [List.append_nil] at hremoved
  exact ⟨found, hfound, hvalue, hremoved⟩

/-- To change a member is to find something else under its key. -/
theorem exists_found_of_changed (other : Value) :
    ∃ found : String → Option Value, read found = .ok result ∧ found key = some value ∧
      readObject known read (before ++ (key, other) :: after) =
        read (Function.update found key (some other)) := by
  obtain ⟨found, hfound, hvalue, hothers⟩ := exists_found_of_readObject hread
  have hchanged := hothers [(key, other)] (List.Sublist.refl _)
  have hother : Value.field? [(key, other)] key = some other := by simp [Value.field?]
  rw [List.append_assoc, List.singleton_append, hother] at hchanged
  exact ⟨found, hfound, hvalue, hchanged⟩

end Replaced

theorem readObject_of_unknown {before after : Value.Fields}
    (hread : readObject known read (before ++ after) = .ok result) {key : String}
    (hkey : key ∉ known) (value : Value) :
    readObject known read (before ++ (key, value) :: after) = .error (.unknownKey key) := by
  obtain ⟨hfit, -⟩ := readObject_eq_ok_iff.mp hread
  have hbefore : KeysFit known before :=
    hfit.of_sublist ((List.sublist_append_left before after).map Prod.fst)
  have hcheck : checkKeys known [] (Datum.ofFields (before ++ (key, value) :: after)) =
      .error (.unknownKey key) := by
    rw [ofFields_eq_map, List.map_append, List.map_cons, ← ofFields_eq_map]
    exact checkKeys_of_unknown (checkKeys_ofFields_eq_ok_iff.mpr hbefore) hkey _
  rw [readObject, hcheck]
  rfl

end Objects

/-! ## What files and sets say -/

def readText (value : Value) : Except Mismatch String :=
  decodeText (Datum.ofValue value)

def readFile (value : Value) : Except Mismatch FileSpec :=
  decodeFile .json (Datum.ofValue value)

def fileOf (found : String → Option Value) : Except Mismatch FileSpec := do
  let description ← (found "description").elim (.ok "") readText
  let source ← (found "sourceTemplate").elim (.error (.missingKey "sourceTemplate")) readText
  let snippets ← (found "snippets").elim (.ok []) fun value => decodePaths (.ofValue value)
  let targetDirectory ← (found "targetDirectory").elim (.ok "") readText
  let targetName ← (found "targetFileName").elim (.error (.missingKey "targetFileName")) readText
  let scope ← (found "type").elim (.error (.missingKey "type")) fun value =>
    decodeScope .json (.ofValue value)
  .ok ⟨description, source, snippets, targetDirectory, targetName, scope⟩

def manifestOf (found : String → Option Value) : Except Mismatch Manifest := do
  let id ← (found "id").elim (.error (.missingKey "id")) readText
  let description ← (found "description").elim (.ok "") readText
  let files ← (found "files").elim (.error (.missingKey "files")) fun value =>
    decodeFiles .json (.ofValue value)
  .ok ⟨id, description, files⟩

theorem decodePaths_array (items : List Value) :
    decodePaths (.ofValue (.array items)) =
      (items.mapM Value.string?).elim (.error .notPaths) .ok := by
  have hdatum : Datum.ofValue (.array items) = .sequence (Datum.ofItems items) := rfl
  have hpaths : (Datum.ofItems items).mapM Datum.plainText? = items.mapM Value.string? := by
    rw [ofItems_eq_map, List.mapM_map]
    exact congrArg (List.mapM · items) (funext plainText?_ofValue)
  rw [hdatum, decodePaths, hpaths]
  cases items.mapM Value.string? <;> rfl

theorem decodePaths_texts (paths : List String) :
    decodePaths (.ofValue (.array (paths.map .string))) = .ok paths := by
  have htexts : (paths.map Value.string).mapM Value.string? = some paths := by
    induction paths with
    | nil => rfl
    | cons path rest ih =>
        rw [List.map_cons, List.mapM_cons, ih]
        rfl
  rw [decodePaths_array, htexts, Option.elim_some]

/-- A list of paths holds texts only. -/
theorem decodePaths_of_mem {items : List Value} {item : Value} (hitem : item ∈ items)
    (hother : item.string? = none) :
    decodePaths (.ofValue (.array items)) = .error .notPaths := by
  have htexts : items.mapM Value.string? = none := by
    induction items with
    | nil => cases hitem
    | cons first rest ih =>
        rw [List.mapM_cons]
        rcases List.mem_cons.mp hitem with rfl | hrest
        · rw [hother]
          rfl
        · rw [ih hrest]
          cases first.string? <;> rfl
  rw [decodePaths_array, htexts, Option.elim_none]

theorem decodeFiles_array (items : List Value) :
    decodeFiles .json (.ofValue (.array items)) = items.mapM readFile := by
  have hitems : decodeFiles .json (.ofValue (.array items)) =
      (Datum.ofItems items).mapM (decodeFile .json) := rfl
  rw [hitems, ofItems_eq_map, List.mapM_map]
  rfl

theorem decodeScope_word (scope : Scope) :
    decodeScope .json (.ofValue (.string scope.word)) = .ok scope := by
  have hword : scopeWord? .json (.ofValue (.string scope.word)) = some scope.word := rfl
  rw [decodeScope, hword, Option.bind_some, Scope.ofWord?_word]

theorem decodeScope_of_unknown {word : String} (hword : Scope.ofWord? word = none) :
    decodeScope .json (.ofValue (.string word)) = .error .notScope := by
  have htext : scopeWord? .json (.ofValue (.string word)) = some word := rfl
  rw [decodeScope, htext, Option.bind_some, hword]

theorem requiredText_ofFields (fields : Value.Fields) (key : String) :
    requiredText (Datum.ofFields fields) key =
      (Value.field? fields key).elim (.error (.missingKey key)) readText := by
  rw [requiredText, entry?_ofFields]
  cases Value.field? fields key <;> rfl

theorem optionalText_ofFields (fields : Value.Fields) (key : String) :
    optionalText (Datum.ofFields fields) key =
      (Value.field? fields key).elim (.ok "") readText := by
  rw [optionalText, entry?_ofFields]
  cases Value.field? fields key <;> rfl

theorem readFile_object (fields : Value.Fields) :
    readFile (.object fields) = readObject FileSpec.keys fileOf fields := by
  have hdatum : (Datum.ofValue (.object fields)).untagged = .mapping (Datum.ofFields fields) := rfl
  rw [readFile, decodeFile, hdatum]
  simp only [requiredText_ofFields, optionalText_ofFields, entry?_ofFields]
  rw [readObject]
  unfold fileOf
  cases Value.field? fields "snippets" <;> cases Value.field? fields "type" <;> rfl

/-- A manifest is read by looking its members up. -/
theorem ofValue_object (fields : Value.Fields) :
    ofValue (.object fields) = readObject keys manifestOf fields := by
  have hdatum : (Datum.ofValue (.object fields)).untagged = .mapping (Datum.ofFields fields) := rfl
  rw [ofValue, decode, hdatum]
  simp only [requiredText_ofFields, optionalText_ofFields, entry?_ofFields]
  rw [readObject]
  unfold manifestOf
  cases Value.field? fields "files" <;> rfl

theorem fileOf_eq_ok_iff {found : String → Option Value} {file : FileSpec} :
    fileOf found = .ok file ↔
      (found "description").elim (.ok "") readText = .ok file.description ∧
      (found "sourceTemplate").elim (.error (.missingKey "sourceTemplate")) readText =
        .ok file.source ∧
      ((found "snippets").elim (.ok []) fun value => decodePaths (.ofValue value)) =
        .ok file.snippets ∧
      (found "targetDirectory").elim (.ok "") readText = .ok file.targetDirectory ∧
      (found "targetFileName").elim (.error (.missingKey "targetFileName")) readText =
        .ok file.targetName ∧
      ((found "type").elim (.error (.missingKey "type")) fun value =>
        decodeScope .json (.ofValue value)) = .ok file.scope := by
  simp only [fileOf, Traversal.bind_eq_ok_iff, Except.ok.injEq]
  constructor
  · rintro ⟨_, hdescription, _, hsource, _, hsnippets, _, hdirectory, _, hname, _, hscope, rfl⟩
    exact ⟨hdescription, hsource, hsnippets, hdirectory, hname, hscope⟩
  · rintro ⟨hdescription, hsource, hsnippets, hdirectory, hname, hscope⟩
    exact ⟨_, hdescription, _, hsource, _, hsnippets, _, hdirectory, _, hname, _, hscope, rfl⟩

theorem manifestOf_eq_ok_iff {found : String → Option Value} {manifest : Manifest} :
    manifestOf found = .ok manifest ↔
      (found "id").elim (.error (.missingKey "id")) readText = .ok manifest.id ∧
      (found "description").elim (.ok "") readText = .ok manifest.description ∧
      ((found "files").elim (.error (.missingKey "files")) fun value =>
        decodeFiles .json (.ofValue value)) = .ok manifest.files := by
  simp only [manifestOf, Traversal.bind_eq_ok_iff, Except.ok.injEq]
  constructor
  · rintro ⟨_, hid, _, hdescription, _, hfiles, rfl⟩
    exact ⟨hid, hdescription, hfiles⟩
  · rintro ⟨hid, hdescription, hfiles⟩
    exact ⟨_, hid, _, hdescription, _, hfiles, rfl⟩

/-! ## The values of files and sets -/

theorem readFile_toValue (file : FileSpec) : readFile file.toValue = .ok file := by
  rw [FileSpec.toValue, readFile_object, readObject_eq_ok_iff]
  refine ⟨keysFit_of_eq rfl (by decide), fileOf_eq_ok_iff.mpr ?_⟩
  simp only [Value.field?, List.find?_cons, String.reduceBEq, Option.map_some, Option.elim_some]
  exact ⟨rfl, rfl, decodePaths_texts file.snippets, rfl, rfl, decodeScope_word file.scope⟩

/-- A manifest is read back from its fully written form. -/
theorem ofValue_toValue (manifest : Manifest) : ofValue manifest.toValue = .ok manifest := by
  have hfiles : (manifest.files.map FileSpec.toValue).mapM readFile = .ok manifest.files := by
    rw [Traversal.mapM_eq_ok_iff, List.forall₂_map_left_iff, List.forall₂_same]
    exact fun file _ => readFile_toValue file
  rw [toValue, ofValue_object, readObject_eq_ok_iff]
  refine ⟨keysFit_of_eq rfl (by decide), manifestOf_eq_ok_iff.mpr ?_⟩
  simp only [Value.field?, List.find?_cons, String.reduceBEq, Option.map_some, Option.elim_some]
  exact ⟨rfl, rfl, (decodeFiles_array _).trans hfiles⟩

end Stencil.Manifest
