import Mathlib.Logic.Relation
import Stencil.Proofs.Manifest.Records

/-!
# Spellings of a manifest

The value of a manifest is decoded to the manifest.  So is every other spelling of it: the
fields of an object may come in any order, what is empty by default may be left out, and a
single snippet needs no list.  A spelling with a mistake is not decoded at all, and the
mismatch names the mistake.
-/

namespace Stencil.Manifest

/-! ## Spellings and mistakes -/

/-- The shorter forms of an entry of a file. -/
inductive Shortened : String → Value → Value.Fields → Prop where
  | description : Shortened "description" (.string "") []
  | targetDirectory : Shortened "targetDirectory" (.string "") []
  | snippets : Shortened "snippets" (.array []) []
  | snippet (path : String) :
      Shortened "snippets" (.array [.string path]) [("snippets", .string path)]

/-- One change to the spelling of a file. -/
inductive FileEdit : Value → Value → Prop where
  | reordered {fields other : Value.Fields} (hperm : fields.Perm other) :
      FileEdit (.object fields) (.object other)
  | shortened {key : String} {value : Value} {short : Value.Fields}
      (hshort : Shortened key value short) (before after : Value.Fields) :
      FileEdit (.object (before ++ (key, value) :: after)) (.object (before ++ short ++ after))

/-- One change to the spelling of a set or of one of its files. -/
inductive Edit : Value → Value → Prop where
  | reordered {fields other : Value.Fields} (hperm : fields.Perm other) :
      Edit (.object fields) (.object other)
  | undescribed (before after : Value.Fields) :
      Edit (.object (before ++ ("description", .string "") :: after)) (.object (before ++ after))
  | file {old new : Value} (hfile : FileEdit old new) (front back : List Value)
      (before after : Value.Fields) :
      Edit (.object (before ++ ("files", .array (front ++ old :: back)) :: after))
        (.object (before ++ ("files", .array (front ++ new :: back)) :: after))

inductive FileMistake : Mismatch → Value → Value → Prop where
  | unknownKey {key : String} (hkey : key ∉ ["description", "sourceTemplate", "snippets",
        "targetDirectory", "targetFileName", "type"])
      (value : Value) (before after : Value.Fields) :
      FileMistake (.unknownKey key) (.object (before ++ after))
        (.object (before ++ (key, value) :: after))
  | missingKey {key : String} (hkey : key ∈ ["sourceTemplate", "targetFileName", "type"])
      (value : Value) (before after : Value.Fields) :
      FileMistake (.missingKey key) (.object (before ++ (key, value) :: after))
        (.object (before ++ after))
  | scope {word : String} (hword : word ∉ ["support_once", "api_once", "api_each",
        "operation_each", "model_each", "enum_each"])
      (value : Value) (before after : Value.Fields) :
      FileMistake .notScope (.object (before ++ ("type", value) :: after))
        (.object (before ++ ("type", .string word) :: after))
  | snippets {items : List Value} {item : Value} (hitem : item ∈ items)
      (hother : item.string? = none) (value : Value) (before after : Value.Fields) :
      FileMistake .notPaths (.object (before ++ ("snippets", value) :: after))
        (.object (before ++ ("snippets", .array items) :: after))

/-- One mistake in a set or in one of its files, with its mismatch. -/
inductive Mistake : Mismatch → Value → Value → Prop where
  | unknownKey {key : String} (hkey : key ∉ ["id", "description", "files"]) (value : Value)
      (before after : Value.Fields) :
      Mistake (.unknownKey key) (.object (before ++ after))
        (.object (before ++ (key, value) :: after))
  | missingKey {key : String} (hkey : key ∈ ["id", "files"]) (value : Value)
      (before after : Value.Fields) :
      Mistake (.missingKey key) (.object (before ++ (key, value) :: after))
        (.object (before ++ after))
  | file {mismatch : Mismatch} {old new : Value} (hfile : FileMistake mismatch old new)
      (front back : List Value) (before after : Value.Fields) :
      Mistake mismatch (.object (before ++ ("files", .array (front ++ old :: back)) :: after))
        (.object (before ++ ("files", .array (front ++ new :: back)) :: after))

/-! ## What is found under a changed key -/

section Found

variable {found : String → Option Value}

theorem keys_of_shortened {key : String} {value : Value} {short : Value.Fields}
    (hshort : Shortened key value short) : (short.map Prod.fst).Sublist [key] := by
  cases hshort with
  | snippet path => exact List.Sublist.refl _
  | _ => exact List.nil_sublist _

/-- A shorter form says the same. -/
theorem fileOf_of_shortened {key : String} {value : Value} {short : Value.Fields}
    (hshort : Shortened key value short) (hentry : found key = some value) :
    fileOf (Function.update found key (Value.field? short key)) = fileOf found := by
  have htext : readText (.string "") = .ok "" := rfl
  have hnone : decodePaths (.ofValue (.array [])) = .ok [] := rfl
  cases hshort with
  | description => simp [fileOf, Value.field?, hentry, htext]
  | targetDirectory => simp [fileOf, Value.field?, hentry, htext]
  | snippets => simp [fileOf, Value.field?, hentry, hnone]
  | snippet path =>
      have hone : decodePaths (.ofValue (.array [.string path])) =
          decodePaths (.ofValue (.string path)) := rfl
      simp [fileOf, Value.field?, hentry, hone]

theorem manifestOf_of_undescribed (hentry : found "description" = some (.string "")) :
    manifestOf (Function.update found "description" none) = manifestOf found := by
  have htext : readText (.string "") = .ok "" := rfl
  simp [manifestOf, hentry, htext]

theorem manifestOf_of_files {items others : List Value}
    (hentry : found "files" = some (.array items))
    (hfiles : others.mapM readFile = items.mapM readFile) :
    manifestOf (Function.update found "files" (some (.array others))) = manifestOf found := by
  simp [manifestOf, hentry, decodeFiles_array, hfiles]

section OfFile

variable {file : FileSpec} (hfile : fileOf found = .ok file)
include hfile

theorem fileOf_of_missing {key : String}
    (hkey : key ∈ ["sourceTemplate", "targetFileName", "type"]) :
    fileOf (Function.update found key none) = .error (.missingKey key) := by
  obtain ⟨hdescription, hsource, hsnippets, hdirectory, hname, -⟩ := fileOf_eq_ok_iff.mp hfile
  simp only [List.mem_cons, List.not_mem_nil, or_false] at hkey
  rcases hkey with rfl | rfl | rfl <;>
    simp [fileOf, hdescription, hsource, hsnippets, hdirectory, hname, bind, Except.bind]

theorem fileOf_of_scope {word : String} (hword : word ∉ ["support_once", "api_once", "api_each",
    "operation_each", "model_each", "enum_each"]) :
    fileOf (Function.update found "type" (some (.string word))) = .error .notScope := by
  obtain ⟨hdescription, hsource, hsnippets, hdirectory, hname, -⟩ := fileOf_eq_ok_iff.mp hfile
  have hnone : Scope.ofWord? word = none := by
    rw [Scope.ofWord?, List.find?_eq_none]
    intro scope _ hsame
    rw [← beq_iff_eq.mp hsame] at hword
    cases scope <;> exact hword (by decide)
  simp [fileOf, hdescription, hsource, hsnippets, hdirectory, hname,
    decodeScope_of_unknown hnone, bind, Except.bind]

theorem fileOf_of_snippets {items : List Value} {item : Value} (hitem : item ∈ items)
    (hother : item.string? = none) :
    fileOf (Function.update found "snippets" (some (.array items))) = .error .notPaths := by
  obtain ⟨hdescription, hsource, -⟩ := fileOf_eq_ok_iff.mp hfile
  simp [fileOf, hdescription, hsource, decodePaths_of_mem hitem hother, bind, Except.bind]

end OfFile

section OfSet

variable {manifest : Manifest} (hmanifest : manifestOf found = .ok manifest)
include hmanifest

theorem manifestOf_of_missing {key : String} (hkey : key ∈ ["id", "files"]) :
    manifestOf (Function.update found key none) = .error (.missingKey key) := by
  obtain ⟨hid, hdescription, -⟩ := manifestOf_eq_ok_iff.mp hmanifest
  simp only [List.mem_cons, List.not_mem_nil, or_false] at hkey
  rcases hkey with rfl | rfl <;> simp [manifestOf, hid, hdescription, bind, Except.bind]

theorem manifestOf_of_spoiled {items : List Value} {mismatch : Mismatch}
    (hfiles : items.mapM readFile = .error mismatch) :
    manifestOf (Function.update found "files" (some (.array items))) = .error mismatch := by
  obtain ⟨hid, hdescription, -⟩ := manifestOf_eq_ok_iff.mp hmanifest
  simp [manifestOf, hid, hdescription, decodeFiles_array, hfiles, bind, Except.bind]

end OfSet

end Found

/-! ## What is read of another spelling -/

/-- An edit of a file changes nothing of what is read. -/
theorem readFile_of_edit {old new : Value} {file : FileSpec} (hedit : FileEdit old new)
    (hold : readFile old = .ok file) : readFile new = .ok file := by
  cases hedit with
  | reordered hperm =>
      rw [readFile_object] at hold ⊢
      exact readObject_of_perm hperm hold
  | shortened hshort before after =>
      rw [readFile_object] at hold ⊢
      obtain ⟨found, hfound, hentry, hothers⟩ := exists_found_of_readObject hold
      rw [hothers _ (keys_of_shortened hshort), fileOf_of_shortened hshort hentry, hfound]

/-- A mistake in a file is told, whatever else stands in it. -/
theorem readFile_of_mistake {mismatch : Mismatch} {old new : Value} {file : FileSpec}
    (hmistake : FileMistake mismatch old new) (hold : readFile old = .ok file) :
    readFile new = .error mismatch := by
  cases hmistake with
  | unknownKey hkey value before after =>
      rw [readFile_object] at hold ⊢
      exact readObject_of_unknown hold hkey value
  | missingKey hkey value before after =>
      rw [readFile_object] at hold ⊢
      obtain ⟨found, hfound, -, hremoved⟩ := exists_found_of_removed hold
      rw [hremoved, fileOf_of_missing hfound hkey]
  | scope hword value before after =>
      rw [readFile_object] at hold ⊢
      obtain ⟨found, hfound, -, hchanged⟩ := exists_found_of_changed hold (.string _)
      rw [hchanged, fileOf_of_scope hfound hword]
  | snippets hitem hother value before after =>
      rw [readFile_object] at hold ⊢
      obtain ⟨found, hfound, -, hchanged⟩ := exists_found_of_changed hold (.array _)
      rw [hchanged, fileOf_of_snippets hfound hitem hother]

/-- Of a set that has been read, every file has been read. -/
theorem exists_files_of_manifestOf {found : String → Option Value} {manifest : Manifest}
    {items : List Value} (hmanifest : manifestOf found = .ok manifest)
    (hentry : found "files" = some (.array items)) :
    ∀ item ∈ items, ∃ file, readFile item = .ok file := by
  obtain ⟨-, -, hfiles⟩ := manifestOf_eq_ok_iff.mp hmanifest
  rw [hentry, Option.elim_some, decodeFiles_array, Traversal.mapM_eq_ok_iff] at hfiles
  intro item hitem
  obtain ⟨file, -, hfile⟩ := Traversal.exists_item_of_mem hfiles.flip hitem
  exact ⟨file, hfile⟩

/-- One edit changes nothing of what is read. -/
theorem ofValue_of_edit {old new : Value} {manifest : Manifest} (hedit : Edit old new)
    (hold : ofValue old = .ok manifest) : ofValue new = .ok manifest := by
  cases hedit with
  | reordered hperm =>
      rw [ofValue_object] at hold ⊢
      exact readObject_of_perm hperm hold
  | undescribed before after =>
      rw [ofValue_object] at hold ⊢
      obtain ⟨found, hfound, hentry, hremoved⟩ := exists_found_of_removed hold
      rw [hremoved, manifestOf_of_undescribed hentry, hfound]
  | @file oldFile newFile hfile front back before after =>
      rw [ofValue_object] at hold ⊢
      obtain ⟨found, hfound, hentry, hchanged⟩ :=
        exists_found_of_changed hold (.array (front ++ newFile :: back))
      obtain ⟨file, hread⟩ := exists_files_of_manifestOf hfound hentry oldFile (by simp)
      have hitems : (front ++ newFile :: back).mapM readFile =
          (front ++ oldFile :: back).mapM readFile := by
        rw [List.mapM_append, List.mapM_append, List.mapM_cons, List.mapM_cons, hread,
          readFile_of_edit hfile hread]
      rw [hchanged, manifestOf_of_files hentry hitems, hfound]

/-- A mistake is told, whatever else stands in the manifest. -/
theorem ofValue_of_mistake {mismatch : Mismatch} {old new : Value} {manifest : Manifest}
    (hmistake : Mistake mismatch old new) (hold : ofValue old = .ok manifest) :
    ofValue new = .error mismatch := by
  cases hmistake with
  | unknownKey hkey value before after =>
      rw [ofValue_object] at hold ⊢
      exact readObject_of_unknown hold hkey value
  | missingKey hkey value before after =>
      rw [ofValue_object] at hold ⊢
      obtain ⟨found, hfound, -, hremoved⟩ := exists_found_of_removed hold
      rw [hremoved, manifestOf_of_missing hfound hkey]
  | @file _ oldFile newFile hfile front back before after =>
      rw [ofValue_object] at hold ⊢
      obtain ⟨found, hfound, hentry, hchanged⟩ :=
        exists_found_of_changed hold (.array (front ++ newFile :: back))
      -- The files in front of the spoiled one are read as before, so its mismatch comes first.
      have hfiles := exists_files_of_manifestOf hfound hentry
      obtain ⟨file, hread⟩ := hfiles oldFile (by simp)
      have hitems : (front ++ newFile :: back).mapM readFile = .error mismatch :=
        Traversal.mapM_eq_error_of_first
          (fun earlier hearlier => hfiles earlier (List.mem_append_left _ hearlier))
          (readFile_of_mistake hfile hread)
      rw [hchanged, manifestOf_of_spoiled hfound hitems]

/-- However a spelling has come from another by changes, the same is read of both. -/
theorem ofValue_of_edits {old new : Value} {manifest : Manifest}
    (hedits : Relation.ReflTransGen Edit old new) (hold : ofValue old = .ok manifest) :
    ofValue new = .ok manifest := by
  induction hedits with
  | refl => exact hold
  | tail _ hlast ih => exact ofValue_of_edit hlast ih

/-- The value of a manifest and all its other spellings are decoded to the manifest, and a
spelling with a mistake is refused for that mistake. -/
theorem spellings_of_toValue (manifest : Manifest) :
    ofValue manifest.toValue = .ok manifest ∧
      ∀ value : Value, Relation.ReflTransGen Edit manifest.toValue value →
        ofValue value = .ok manifest ∧
          ∀ (mismatch : Mismatch) (spoiled : Value), Mistake mismatch value spoiled →
            ofValue spoiled = .error mismatch := by
  have hself := ofValue_toValue manifest
  refine ⟨hself, ?_⟩
  intro value hedits
  have hvalue := ofValue_of_edits hedits hself
  exact ⟨hvalue, fun mismatch spoiled hmistake => ofValue_of_mistake hmistake hvalue⟩

def clientManifest : Manifest :=
  ⟨"client", "", [⟨"", "model.tera", ["head.tera"], "models", "model.go", .modelEach⟩]⟩

/-- The file of the client but for its type, without its empty description. -/
def clientFile (snippets : Value) : Value.Fields :=
  [("sourceTemplate", .string "model.tera"), ("snippets", snippets),
    ("targetDirectory", .string "models"), ("targetFileName", .string "model.go")]

def clientType : String × Value :=
  ("type", .string "model_each")

def clientWith (file : Value.Fields) : Value :=
  .object [("id", .string "client"), ("description", .string ""),
    ("files", .array [.object file])]

/-- The client without its description, its files first. -/
def shortClientWith (file : Value.Fields) : Value :=
  .object [("files", .array [.object file]), ("id", .string "client")]

theorem edit_clientWith {old new : Value.Fields} (hfile : FileEdit (.object old) (.object new)) :
    Edit (clientWith old) (clientWith new) :=
  .file hfile [] [] [("id", .string "client"), ("description", .string "")] []

/-- The file with its type first and without a list for its snippet. -/
def shortFile : Value.Fields :=
  clientType :: clientFile (.string "head.tera")

theorem edits_client :
    Relation.ReflTransGen Edit clientManifest.toValue (shortClientWith shortFile) :=
  calc
    Relation.ReflTransGen Edit clientManifest.toValue
        (clientWith (clientFile (.array [.string "head.tera"]) ++ [clientType])) :=
      .single (edit_clientWith (.shortened .description [] _))
    Relation.ReflTransGen Edit _
        (clientWith (clientFile (.string "head.tera") ++ [clientType])) :=
      .single (edit_clientWith
        (.shortened (.snippet "head.tera") [("sourceTemplate", .string "model.tera")] _))
    Relation.ReflTransGen Edit _ (clientWith shortFile) :=
      .single (edit_clientWith (.reordered (List.perm_append_singleton _ _)))
    Relation.ReflTransGen Edit _
        (.object [("id", .string "client"), ("files", .array [.object shortFile])]) :=
      .single (.undescribed [("id", .string "client")] _)
    Relation.ReflTransGen Edit _ (shortClientWith shortFile) :=
      .single (.reordered (List.Perm.swap _ _ _))

/-- Two mistakes in the short spelling: a key in the singular, and a number among the snippets. -/
theorem spellings_of_toValue_client :
    Relation.ReflTransGen Edit clientManifest.toValue (shortClientWith shortFile) ∧
      ofValue (shortClientWith shortFile) = .ok clientManifest ∧
      Mistake (.unknownKey "snippet") (shortClientWith shortFile)
        (shortClientWith (("snippet", .string "foot.tera") :: shortFile)) ∧
      ofValue (shortClientWith (("snippet", .string "foot.tera") :: shortFile)) =
        .error (.unknownKey "snippet") ∧
      Mistake .notPaths (shortClientWith shortFile)
        (shortClientWith (clientType :: clientFile (.array [.string "head.tera", .whole 5]))) ∧
      ofValue (shortClientWith
        (clientType :: clientFile (.array [.string "head.tera", .whole 5]))) =
          .error .notPaths := by
  have hsingular : Mistake (.unknownKey "snippet") (shortClientWith shortFile)
      (shortClientWith (("snippet", .string "foot.tera") :: shortFile)) :=
    .file (.unknownKey (by decide) _ [] shortFile) [] [] [] [("id", .string "client")]
  have hmem : Value.whole 5 ∈ [.string "head.tera", .whole 5] := by simp
  have hnumber : Mistake .notPaths (shortClientWith shortFile)
      (shortClientWith (clientType :: clientFile (.array [.string "head.tera", .whole 5]))) :=
    .file (.snippets hmem rfl (.string "head.tera")
      [clientType, ("sourceTemplate", .string "model.tera")] _) [] [] []
      [("id", .string "client")]
  obtain ⟨hread, hmistakes⟩ := (spellings_of_toValue clientManifest).2 _ edits_client
  exact ⟨edits_client, hread, hsingular, hmistakes _ _ hsingular, hnumber,
    hmistakes _ _ hnumber⟩

end Stencil.Manifest
