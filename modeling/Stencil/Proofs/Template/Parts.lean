import Mathlib
import Stencil.Proofs.Template.Pages

/-!
# Pages of words and variables

Many templates are no more than words with variables between them.  Rendering such a page
writes the words as they are and the variables as the context binds them, in order; no
character of a text that a variable holds is read as syntax.
-/

namespace Stencil.Template

/-! ## Computations without faults -/

/-- A computation that has a result and leaves the machine as it was. -/
def Yields {α : Type} (task : Task) (machine : Machine) (action : Run α) (result : α) : Prop :=
  (action.run task).run.run machine = (.ok result, machine)

namespace Yields

variable {α β : Type} {task : Task} {machine : Machine}

theorem pure (result : α) : Yields task machine (Pure.pure result) result := rfl

theorem bind {action : Run α} {next : α → Run β} {middle : α} {result : β}
    (haction : Yields task machine action middle)
    (hnext : Yields task machine (next middle) result) :
    Yields task machine (action >>= next) result := by
  unfold Yields at haction hnext ⊢
  rw [ReaderT.run_bind, ExceptT.run_bind, StateT.run_bind, haction]
  exact hnext

theorem map {action : Run α} {result : α} (f : α → β)
    (haction : Yields task machine action result) :
    Yields task machine (f <$> action) (f result) := by
  rw [← bind_pure_comp]
  exact haction.bind (.pure (f result))

theorem read : Yields task machine MonadReader.read task := rfl

theorem get : Yields task machine MonadState.get machine := rfl

theorem ofExcept {ε : Type} {wrap : ε → Fault} {attempt : Except ε α} {result : α}
    (hok : attempt = .ok result) : Yields task machine (Run.ofExcept wrap attempt) result := by
  subst hok
  rfl

theorem tryCatch {action : Run α} {result : α} (handle : Fault → Run α)
    (haction : Yields task machine action result) :
    Yields task machine (MonadExcept.tryCatch action handle) result := by
  unfold Yields at haction ⊢
  change (ExceptT.tryCatch (action.run task) fun fault => (handle fault).run task).run.run machine
    = _
  rw [ExceptT.tryCatch]
  change (ExceptT.mk ((action.run task).run >>= _)).run.run machine = _
  rw [ExceptT.run_mk, StateT.run_bind, haction]
  rfl

theorem attempt {action : Run α} {result : α} (haction : Yields task machine action result) :
    Yields task machine (Run.attempt action) (.ok result) :=
  (haction.map Except.ok).tryCatch _

/-- Actions that leave the machine as it is do so one after the other. -/
theorem mapM {items : List α} {f : α → Run β} {results : List β}
    (hitems : List.Forall₂ (fun item result => Yields task machine (f item) result)
      items results) :
    Yields task machine (items.mapM f) results := by
  induction hitems with
  | nil => exact .pure []
  | @cons item result items results hitem _ ih =>
      rw [List.mapM_cons]
      exact hitem.bind (ih.bind (.pure (result :: results)))

end Yields

/-! ## Variables -/

/-- A name that is one step of a path, and not the name of all that is visible. -/
structure IsPlainName (name : String) : Prop where
  no_dot : '.' ∉ name.toList
  no_bracket : '[' ∉ name.toList
  ne_overview : name ≠ overviewName

theorem splitFirst?_of_not_mem {char : Char} {text : List Char} (habsent : char ∉ text) :
    Text.splitFirst? [char] text = none := by
  induction text with
  | nil => rfl
  | cons first rest ih =>
      obtain ⟨hfirst, hrest⟩ := not_or.mp (mt List.mem_cons.mpr habsent)
      rw [Text.splitFirst?, Text.afterPrefix?, if_neg hfirst, ih hrest]
      rfl

theorem resolve?_of_isPlainName {name : String} (hname : IsPlainName name)
    (fields : Value.Fields) : resolve? fields name = Value.field? fields name := by
  rw [resolve?, splitPath, splitFirst?_of_not_mem hname.no_dot]

def Machine.start (page : Page) : Machine :=
  ⟨⟨⟨.page, page, []⟩, []⟩, []⟩

theorem lookup?_start {page : Page} {context : Value.Fields} {name : String}
    (hname : IsPlainName name) :
    (Machine.start page).frames.lookup? context name = Value.field? context name := by
  have hframe : Frame.find? ⟨.page, page, []⟩ name = none := by
    rw [Frame.find?, resolve?_of_isPlainName hname]
    rfl
  have hframes : Frames.findIn? name [⟨.page, page, []⟩] = none := by
    rw [Frames.findIn?, hframe]
    rfl
  rw [Frames.lookup?]
  simp only [Machine.start, hframes]
  exact resolve?_of_isPlainName hname context

theorem yields_variableValue {task : Task} {page : Page} {name : String} {value : Value}
    (hname : IsPlainName name) (hvalue : Value.field? task.context name = some value) :
    Yields task (Machine.start page) (variableValue name) value := by
  refine Yields.read.bind (Yields.get.bind ?_)
  rw [if_neg hname.ne_overview]
  apply Yields.ofExcept
  rw [locate, if_neg (by simpa using hname.no_bracket), lookup?_start hname, hvalue]

/-! ## Rendering -/

/-- Words, or a variable that is written out. -/
inductive Part where
  | words (text : String)
  | named (name : String)
deriving DecidableEq

namespace Part

def node : Part → Node
  | words text => .text text
  | named name => .output ⟨false, false⟩ (.mk (.path name) false [])

/-- The text of a part, when its variable is bound. -/
def text? (context : Value.Fields) : Part → Option String
  | words text => some text
  | named name => (Value.field? context name).map Value.plain

def IsPlain : Part → Prop
  | words _ => True
  | named name => IsPlainName name

end Part

def Page.ofParts (name : String) (parts : List Part) : Page :=
  ⟨name, parts.map Part.node, none, [], [], []⟩

theorem yields_pathValue {task : Task} {page : Page} {name : String} {value : Value}
    (inner : Evaluator) (hname : IsPlainName name)
    (hvalue : Value.field? task.context name = some value) :
    Yields task (Machine.start page) (pathValue inner (.mk (.path name) false []) name) value := by
  have hfinished : Yields task (Machine.start page)
      (finishedValue inner (.mk (.path name) false []) value) value :=
    .bind (.pure value) (.pure value)
  refine (yields_variableValue hname hvalue).attempt.bind ?_
  cases value <;> exact hfinished

/-- A plain part is written as its text, and the machine stays as it is. -/
theorem yields_outerText {task : Task} {page : Page} {part : Part} {text : String}
    (hplain : part.IsPlain) (htext : part.text? task.context = some text) :
    Yields task (Machine.start page) (outerText part.node) text := by
  apply Yields.tryCatch
  cases part with
  | words words =>
      obtain rfl := Option.some.inj htext
      exact .pure _
  | named name =>
      obtain ⟨value, hvalue, rfl⟩ := Option.map_eq_some_iff.mp htext
      exact (yields_pathValue _ hplain hvalue).map Value.plain

theorem yields_outerTexts {task : Task} {page : Page} {parts : List Part} {texts : List String}
    (hplain : ∀ part ∈ parts, part.IsPlain)
    (htexts : parts.map (Part.text? task.context) = texts.map some) :
    List.Forall₂ (fun node text => Yields task (Machine.start page) (outerText node) text)
      (parts.map Part.node) texts := by
  induction parts generalizing texts with
  | nil =>
      obtain rfl := List.map_eq_nil_iff.mp htexts.symm
      exact .nil
  | cons part rest ih =>
      obtain ⟨text, later, rfl, htext, hlater⟩ := List.map_eq_cons_iff.mp htexts.symm
      refine .cons (yields_outerText (hplain part List.mem_cons_self) htext.symm) ?_
      exact ih (fun other hother => hplain other (List.mem_cons_of_mem _ hother)) hlater.symm

/-- A page of parts renders to the texts of the parts, one after the other, among whatever
pages it stands. -/
theorem Library.renderPage_ofParts (library : Library) (name : String) {context : Value.Fields}
    {parts : List Part} {texts : List String} (hplain : ∀ part ∈ parts, part.IsPlain)
    (htexts : parts.map (Part.text? context) = texts.map some) :
    library.renderPage (.ofParts name parts) context = .ok (String.join texts) := by
  have hroot : (Task.mk library (.ofParts name parts) context).root = .ofParts name parts := by
    have hancestors : library.ancestors (.ofParts name parts) = .ok [] := by
      rw [ancestors]
      cases library.pages.length <;> rfl
    rw [Task.root, Task.ancestors, lineage, hancestors]
    rfl
  have hpage : Yields ⟨library, .ofParts name parts, context⟩
      (Machine.start (.ofParts name parts)) taskText (String.join texts) := by
    refine Yields.read.bind ?_
    rw [hroot]
    exact (Yields.mapM (yields_outerTexts hplain htexts)).bind (.pure _)
  rw [renderPage]
  exact congrArg Prod.fst hpage

/-! ## Reading -/

/-- Nothing is cut off the ends of parts, since none of them asks for it. -/
theorem tidyAll_parts (parts : List Part) :
    tidyAll (parts.map Part.node) = parts.map Part.node := by
  induction parts with
  | nil => rfl
  | cons part rest ih =>
      rw [List.map_cons, tidyAll, ih]
      cases part <;> rfl

theorem done_foldl_step_parts (parts : List Part) {state : Tidying}
    (hkeep : state.trimNext = false) :
    ((parts.map Part.node).foldl Tidying.step state).done =
      (parts.map Part.node).reverse ++ state.done := by
  induction parts generalizing state with
  | nil => rfl
  | cons part rest ih =>
      have hstep : (state.step part.node).done = part.node :: state.done ∧
          (state.step part.node).trimNext = false := by
        cases part <;> simp [Part.node, Tidying.step, Tidying.addText, Tidying.add, hkeep]
      rw [List.map_cons, List.foldl_cons, ih hstep.2, hstep.1, List.reverse_cons,
        List.append_assoc, List.singleton_append]

/-- Parts have no dashes that would remove blanks. -/
theorem tidy_parts (parts : List Part) : tidy (parts.map Part.node) = parts.map Part.node := by
  rw [tidy, tidyAll_parts, tidyBody]
  simp only [Bool.false_eq_true, if_false]
  rw [done_foldl_step_parts parts rfl, List.append_nil, List.reverse_reverse]

theorem blocksOf_parts (parts : List Part) : blocksOf (parts.map Part.node) = [] := by
  induction parts with
  | nil => rfl
  | cons part rest ih =>
      rw [List.map_cons, blocksOf, ih]
      cases part <;> rfl

theorem filterMap_parts {α : Type} {f : Node → Option α} (hnone : ∀ part : Part, f part.node = none)
    (parts : List Part) : (parts.map Part.node).filterMap f = [] := by
  rw [List.filterMap_eq_nil_iff]
  intro node hnode
  obtain ⟨part, -, rfl⟩ := List.mem_map.mp hnode
  exact hnone part

/-- A text that is read as parts makes their page. -/
theorem Page.ofText_of_parse? (name : String) {text : String} {parts : List Part}
    (hparse : parse? text = some (parts.map Part.node)) :
    ofText name text = .ok (ofParts name parts) := by
  have hparent : parentOf (parts.map Part.node) = none := by
    rw [parentOf, filterMap_parts]
    · rfl
    · rintro (_ | _) <;> rfl
  have hmacros : macrosOf (parts.map Part.node) = [] := by
    apply filterMap_parts
    rintro (_ | _) <;> rfl
  have himports : importsOf (parts.map Part.node) = [] := by
    apply filterMap_parts
    rintro (_ | _) <;> rfl
  unfold ofText
  rw [hparse]
  simp only [tidy_parts, blocksOf_parts, hmacros, hparent, himports]
  rfl

section Reading

open Reader

/-- Nothing but words, which need no node when there are none. -/
def wordParts (words : List Char) : List Part :=
  if words.isEmpty then [] else [.words (String.ofList words)]

theorem isPlain_of_mem_wordParts {words : List Char} {part : Part}
    (hpart : part ∈ wordParts words) : part.IsPlain := by
  rw [wordParts] at hpart
  split at hpart
  · cases hpart
  · rw [List.mem_singleton.mp hpart]
    trivial

/-- Words are their own text. -/
theorem exists_texts_of_wordParts (words : List Char) (context : Value.Fields) :
    ∃ texts, (wordParts words).map (Part.text? context) = texts.map some ∧
      String.join texts = String.ofList words := by
  cases words with
  | nil => exact ⟨[], rfl, rfl⟩
  | cons char rest => exact ⟨[String.ofList (char :: rest)], rfl, by simp [String.join]⟩

theorem splitPlain_of_not_mem {words : List Char} (hwords : '{' ∉ words) :
    splitPlain words = (words, []) := by
  induction words with
  | nil => rfl
  | cons char rest ih =>
      obtain ⟨hchar, hrest⟩ := not_or.mp (mt List.mem_cons.mpr hwords)
      have hsplit :
          splitPlain (char :: rest) = (char :: (splitPlain rest).1, (splitPlain rest).2) := by
        apply splitPlain.eq_4 <;> rintro _ rfl <;> exact absurd rfl hchar
      rw [hsplit, ih hrest]

/-- Words are read as one part. -/
theorem many_readNode_words (inner : Inner) (depth : ℕ) {words bound : List Char}
    (hwords : '{' ∉ words) (hbound : words.length ≤ bound.length) :
    manyFrom bound (readNode inner (depth + 1) .document) words =
      ((wordParts words).map Part.node, []) := by
  have hnil : ∀ bound, manyFrom bound (readNode inner (depth + 1) .document) [] = ([], []) := by
    rintro (_ | ⟨_, _⟩) <;> rfl
  cases words with
  | nil => exact hnil bound
  | cons char rest =>
      obtain ⟨first, others, rfl⟩ := List.exists_cons_of_length_pos (Nat.zero_lt_of_lt hbound)
      have hnode : readNode inner (depth + 1) .document (char :: rest) =
          some (.text (String.ofList (char :: rest)), []) := by
        have hplain : readPlain (char :: rest) =
            some (.text (String.ofList (char :: rest)), []) := by
          rw [readPlain, splitPlain_of_not_mem hwords]
        change (readPlain (char :: rest) <|> _) = _
        rw [hplain]
        rfl
      rw [manyFrom, hnode]
      simp only [hnil]
      rfl

theorem word_of_not_mem {mark : Char} {word : String} {others words : List Char}
    (hword : word.toList = mark :: others) (hwords : mark ∉ words) :
    Reader.word word words = none := by
  cases words with
  | nil => rw [Reader.word, hword]; rfl
  | cons char rest =>
      have hchar : mark ≠ char := fun hchar => hwords (by simp [hchar])
      rw [Reader.word, hword, Text.afterPrefix?, if_neg hchar]
      rfl

theorem readComment_of_word {text : List Char} (hword : word "\x7b#" text = none) :
    readComment text = none := by
  simp only [readComment, readOpening, bind, StateT.bind]
  rw [hword]
  rfl

theorem readExtension_of_word {text : List Char} (hword : word "\x7b%" text = none) :
    readExtension text = none := by
  simp only [readExtension, readTag, between, readOpening, bind, StateT.bind]
  rw [hword]
  rfl

/-- A text that starts with no comment and names no parent is read node by node. -/
theorem parse?_of_nodes {text : String} {nodes : List Node}
    (hcomment : word "\x7b#" text.toList = none) (hextension : word "\x7b%" text.toList = none)
    (hnodes : ∀ depth, manyFrom text.toList
      (readNode (Inner.upTo (depth + 1)) (depth + 1) .document) text.toList = (nodes, [])) :
    parse? text = some nodes := by
  have hcomments : many readComment text.toList = some ([], text.toList) := by
    rw [many]
    cases hchars : text.toList with
    | nil => rfl
    | cons char rest => rw [manyFrom, ← hchars, readComment_of_word hcomment]
  have hparent : perhaps readExtension text.toList = some (none, text.toList) := by
    have hread : (some <$> readExtension) text.toList = none := by
      change Option.bind (readExtension text.toList) _ = none
      rw [readExtension_of_word hextension]
      rfl
    change ((some <$> readExtension) text.toList <|> _) = _
    rw [hread]
    rfl
  have hmany : ∀ depth, many (readNode (Inner.upTo (depth + 1)) (depth + 1) .document) text.toList =
      some (nodes, []) := fun depth => congrArg some (hnodes depth)
  simp only [parse?, readDocument, bind, StateT.bind]
  rw [hcomments]
  simp only [Option.bind_some, hparent, hmany]
  rfl

/-- A text without the mark of a statement is read as words. -/
theorem parse?_words {text : String} (hwords : '{' ∉ text.toList) :
    parse? text = some ((wordParts text.toList).map Part.node) := by
  apply parse?_of_nodes
  · exact @word_of_not_mem '{' "\x7b#" ['#'] _ (by decide) hwords
  · exact @word_of_not_mem '{' "\x7b%" ['%'] _ (by decide) hwords
  · intro depth
    exact many_readNode_words _ _ hwords (Nat.le_refl _)

/-- The variable for a name is read as a part, up to its last brace. -/
theorem readNode_name (depth : ℕ) (rest : List Char) :
    readNode (Inner.upTo (depth + 1)) (depth + 1) .document ("{{ name}}".toList ++ rest) =
      some ((Part.named "name").node, rest) := by
  cbv

/-- The output of a variable with words after it is read as these two parts. -/
theorem parse?_name {words : String} (hwords : '{' ∉ words.toList) :
    parse? ("{{ name}}" ++ words) =
      some ((.named "name" :: wordParts words.toList).map Part.node) := by
  have hchars : ("{{ name}}" ++ words).toList = "{{ name}}".toList ++ words.toList :=
    String.toList_append
  apply parse?_of_nodes
  · rw [hchars]
    rfl
  · rw [hchars]
    rfl
  · intro depth
    rw [hchars]
    change manyFrom ('{' :: ("\x7b name\x7d\x7d".toList ++ words.toList)) _ _ = _
    rw [manyFrom, readNode_name]
    simp only
    rw [many_readNode_words _ _ hwords]
    · rfl
    · rw [List.length_append]
      exact Nat.le_add_left _ _

end Reading

end Stencil.Template
