import Stencil.Proofs.Template.Parts

/-!
# What is relied on of an engine

Most of what a pass does holds whatever its engine is.  Where it matters what the engine
writes, what is relied on is stated here as properties of engines: that a library has the last
text of each name, and that words and the variable for a name come out unchanged.  The engine
of this library has them.
-/

namespace Stencil

namespace Engine

/-- The template that a library has under a name is that of the last text with it. -/
structure KeepsTexts (engine : Engine) : Prop where
  render_eq {filters : List (String × Filter)} {before after : List (String × String)}
    {name text : String} {library : engine.Library}
    (hlibrary : engine.compile filters (before ++ (name, text) :: after) = .ok library)
    (hlast : name ∉ after.map Prod.fst) (context : Value.Fields) :
    engine.render library name context = engine.renderText library name text context

/-- Words come out as they are, and so does a text that is bound to the variable `name`, with
words after it. -/
structure WritesNames (engine : Engine) : Prop where
  renderText_words (library : engine.Library) (template : String) {words : String}
    (hwords : '{' ∉ words.toList) (context : Value.Fields) :
    engine.renderText library template words context = .ok words
  renderText_name (library : engine.Library) (template : String) {words : String}
    (hwords : '{' ∉ words.toList) {context : Value.Fields} {name : String}
    (hname : Value.field? context "name" = some (.string name)) :
    engine.renderText library template ("{{ name}}" ++ words) context = .ok (name ++ words)

end Engine

namespace Template

/-- What this engine compiles is a library made of the texts. -/
theorem ofTexts_of_compile {filters : List (String × Engine.Filter)}
    {texts : List (String × String)} {library : Library}
    (hlibrary : engine.compile filters texts = .ok library) :
    Library.ofTexts filters texts = .ok library := by
  cases hresult : Library.ofTexts filters texts with
  | error defect =>
      simp only [hresult] at hlibrary
      cases hlibrary
  | ok made =>
      simp only [hresult] at hlibrary
      exact congrArg Except.ok (Except.ok.inj hlibrary)

/-- A text compiles to one page, and the library keeps the last page put in under a name. -/
theorem engine_keepsTexts : engine.KeepsTexts where
  render_eq := by
    intro filters before after name text library hlibrary hlast context
    obtain ⟨page, hpage, hfound⟩ := Library.page?_of_ofTexts (ofTexts_of_compile hlibrary) hlast
    simp only [hpage, Library.render_of_page? hfound]

/-- A text made of plain parts renders to the texts of the parts, one after the other. -/
theorem renderText_of_parse? (library : Library) (template : String) {context : Value.Fields}
    {text : String} {parts : List Part} {texts : List String}
    (hparse : parse? text = some (parts.map Part.node)) (hplain : ∀ part ∈ parts, part.IsPlain)
    (htexts : parts.map (Part.text? context) = texts.map some) :
    engine.renderText library template text context = .ok (String.join texts) := by
  simp only [Page.ofText_of_parse? template hparse,
    library.renderPage_ofParts template hplain htexts]
  rfl

/-- Words are one part, and the variable for a name is another one. -/
theorem engine_writesNames : engine.WritesNames where
  renderText_words := by
    intro library template words hwords context
    obtain ⟨texts, htexts, hjoin⟩ := exists_texts_of_wordParts words.toList context
    rw [renderText_of_parse? library template (parse?_words hwords)
      (fun _ => isPlain_of_mem_wordParts) htexts, hjoin, String.ofList_toList]
  renderText_name := by
    intro library template words hwords context name hname
    obtain ⟨texts, htexts, hjoin⟩ := exists_texts_of_wordParts words.toList context
    have hplain : IsPlainName "name" := ⟨by decide, by decide, by decide⟩
    have hparts : (Part.named "name" :: wordParts words.toList).map (Part.text? context) =
        (name :: texts).map some := by
      rw [List.map_cons, htexts, Part.text?, hname]
      rfl
    rw [renderText_of_parse? library template (parse?_name hwords) _ hparts]
    · rw [String.join_cons, hjoin, String.ofList_toList]
    · intro part hpart
      rcases List.mem_cons.mp hpart with rfl | hpart
      · exact hplain
      · exact isPlain_of_mem_wordParts hpart

end Template

end Stencil
