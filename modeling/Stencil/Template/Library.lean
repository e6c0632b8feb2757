import Stencil.Engine
import Stencil.Template.Blanks
import Stencil.Template.Statement

/-!
# Libraries of templates

Templates that are rendered together form a library.  A template may extend a
parent and fill its blocks, define macros, and import the macros of others.  A
library is made only when every parent and every import is there and no template
is its own ancestor.
-/

namespace Stencil.Template

/-- A macro: a body with parameters. -/
structure Macro where
  name : String
  parameters : List (String × Option Expression)
  body : List Node

/-- A template of a library. -/
structure Page where
  name : String
  nodes : List Node
  /-- The template that this one extends. -/
  parent? : Option String
  /-- The blocks of the template, also those inside of other blocks. -/
  blocks : List (String × List Node)
  macros : List Macro
  /-- The templates whose macros are imported, each with the name of its space. -/
  imports : List (String × String)

instance : Inhabited Page := ⟨⟨"", [], none, [], [], []⟩⟩

/-- Why texts do not form a library. -/
inductive Defect where
  | malformed (page : String)
  | repeatedBlock (page block : String)
  | repeatedMacro (page name : String)
  | missingParent (page parent : String)
  | circular (page : String)
  | missingImport (page source : String)
deriving DecidableEq, Repr

namespace Defect

/-- The messages of a defect, the outermost one first. -/
def lines : Defect → List String
  | malformed page => ["Failed to parse '" ++ page ++ "'"]
  | repeatedBlock page block =>
      ["Failed to parse '" ++ page ++ "'", "Block `" ++ block ++ "` is duplicated"]
  | repeatedMacro page name =>
      ["Failed to parse '" ++ page ++ "'", "Macro `" ++ name ++ "` is duplicated"]
  | missingParent page parent =>
      ["Template '" ++ page ++ "' is inheriting from '" ++ parent ++
        "', which doesn't exist or isn't loaded."]
  | circular page => ["Circular extend detected for template '" ++ page ++ "'"]
  | missingImport page source =>
      ["Template `" ++ page ++ "` loads macros from `" ++ source ++ "` which isn't present"]

end Defect

/-! ## Pages -/

mutual

/-- The block that a node is, and the blocks in its body. -/
def blocksIn : Node → List (String × List Node)
  | .block _ name body _ => (name, body) :: blocksOf body
  | _ => []

/-- The blocks among some nodes and in the bodies of those blocks. -/
def blocksOf : List Node → List (String × List Node)
  | [] => []
  | node :: rest => blocksIn node ++ blocksOf rest

end

/-- The parent that the last extension among some nodes names. -/
def parentOf (nodes : List Node) : Option String :=
  (nodes.filterMap fun
    | .extension _ parent => some parent
    | _ => none).getLast?

def macrosOf (nodes : List Node) : List Macro :=
  nodes.filterMap fun
    | .definition _ name parameters body _ => some ⟨name, parameters, body⟩
    | _ => none

def importsOf (nodes : List Node) : List (String × String) :=
  nodes.filterMap fun
    | .importing _ source space => some (source, space)
    | _ => none

/-- The first name that occurs again later. -/
def repeated? : List String → Option String
  | [] => none
  | name :: rest => if rest.contains name then some name else repeated? rest

namespace Page

def ofText (name text : String) : Except Defect Page :=
  match parse? text with
  | none => .error (.malformed name)
  | some written =>
      let nodes := tidy written
      let blocks := blocksOf nodes
      let macros := macrosOf nodes
      match repeated? (blocks.map Prod.fst), repeated? (macros.map Macro.name) with
      | some block, _ => .error (.repeatedBlock name block)
      | none, some definition => .error (.repeatedMacro name definition)
      | none, none => .ok ⟨name, nodes, parentOf nodes, blocks, macros, importsOf nodes⟩

def block? (page : Page) (name : String) : Option (List Node) :=
  page.blocks.lookup name

def macro? (page : Page) (name : String) : Option Macro :=
  page.macros.find? fun definition => definition.name == name

end Page

/-! ## Libraries -/

/-- Templates with distinct names. -/
structure Library where
  /-- The filters that come with the library. -/
  filters : List (String × Engine.Filter)
  pages : List Page

namespace Library

/-- A library with filters, but without templates. -/
def withFilters (filters : List (String × Engine.Filter)) : Library :=
  ⟨filters, []⟩

def page? (library : Library) (name : String) : Option Page :=
  library.pages.find? fun page => page.name == name

/-- Adds a template; it takes the place of one with the same name. -/
def insert (library : Library) (page : Page) : Library :=
  { library with pages := put library.pages }
where
  put : List Page → List Page
    | [] => [page]
    | other :: rest => if other.name == page.name then page :: rest else other :: put rest

/-- The ancestors of a template, its parent first, when a chain of at most
`limit` parents leads to a template without one. -/
def ancestorsUpTo (library : Library) (page : Page) : Nat → Except Defect (List Page)
  | 0 =>
      match page.parent? with
      | none => .ok []
      | some _ => .error (.circular page.name)
  | limit + 1 =>
      match page.parent? with
      | none => .ok []
      | some name =>
          match library.page? name with
          | none => .error (.missingParent page.name name)
          | some parent => (library.ancestorsUpTo parent limit).map (parent :: ·)

/-- The ancestors of a template, its parent first. -/
def ancestors (library : Library) (page : Page) : Except Defect (List Page) :=
  library.ancestorsUpTo page library.pages.length

/-- The ancestors of a template of a library that has been checked. -/
def lineage (library : Library) (page : Page) : List Page :=
  match library.ancestors page with
  | .ok ancestors => ancestors
  | .error _ => []

/-- Whether a template lacks nothing that it needs of the others. -/
def check (library : Library) (page : Page) : Except Defect Unit := do
  let _ ← library.ancestors page
  match page.imports.find? fun (source, _) => (library.page? source).isNone with
  | some (source, _) => .error (.missingImport page.name source)
  | none => .ok ()

/-- The library of some named texts; of texts with the same name the last one
counts. -/
def ofTexts (filters : List (String × Engine.Filter)) (texts : List (String × String)) :
    Except Defect Library := do
  let pages ← texts.mapM fun (name, text) => Page.ofText name text
  let library := pages.foldl insert (withFilters filters)
  library.pages.forM library.check
  .ok library

def names (library : Library) : List String :=
  library.pages.map Page.name

/-! ## Blocks and macros -/

/-- The definitions of a block in a template and its ancestors, the nearest
first; there is none when the template itself does not define the block. -/
def definitionsOf (library : Library) (page : Page) (block : String) : List (Page × List Node) :=
  match page.block? block with
  | none => []
  | some body =>
      (page, body) :: (library.lineage page).filterMap fun ancestor =>
        (ancestor.block? block).map fun body => (ancestor, body)

/-- Adds spaces of macros whose names are not taken. -/
def addSpaces (spaces more : List (String × Page)) : List (String × Page) :=
  more.foldl (fun spaces space =>
    if spaces.any fun known => known.1 == space.1 then spaces else spaces ++ [space]) spaces

/-- Adds a space of macros; it takes the place of one with the same name. -/
def putSpace (spaces : List (String × Page)) (name : String) (page : Page) : List (String × Page) :=
  (name, page) :: spaces.filter fun known => known.1 != name

/-- The spaces of macros that a template can name: its own macros, the imported
ones, and the spaces of the imported templates and of its ancestors.  Imports are
followed `depth` times. -/
def spacesUpTo (library : Library) : Nat → Page → List (String × Page)
  | 0, _ => []
  | depth + 1, page =>
      let own := if page.macros.isEmpty then [] else [("self", page)]
      let withImports := page.imports.foldl (fun spaces (source, name) =>
        match library.page? source with
        | some other => addSpaces (putSpace spaces name other) (library.spacesUpTo depth other)
        | none => spaces) own
      (library.lineage page).foldl (fun spaces ancestor =>
        addSpaces spaces (library.spacesUpTo depth ancestor)) withImports

/-- The spaces of macros that a template can name. -/
def spaces (library : Library) (page : Page) : List (String × Page) :=
  library.spacesUpTo (library.pages.length + 1) page

end Library

end Stencil.Template
