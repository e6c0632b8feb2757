import Stencil.CommandLine.Usage
import Stencil.Render.Options

/-!
# Commands

There are three commands: listing template sets, showing one of them, and
rendering one.
-/

namespace Stencil.CommandLine

/-- What is to be rendered, from what, and where to. -/
structure RenderCommand where
  /-- The identifier of the template set. -/
  template : String
  /-- The file or the address of the document. -/
  source : String
  templateDirectory? : Option String
  outputDirectory? : Option String
  options : Options
  format : ReportFormat
deriving Repr

/-- A command with its arguments. -/
inductive Command where
  | list (templateDirectory? : Option String)
  | info (id : String) (templateDirectory? : Option String)
  | render (command : RenderCommand)
deriving Repr

def about : String := "Render code-generation template sets against OpenAPI specifications"

def templatesAbout : String := "Inspect available template sets"

def templateDirectoryOption : OptionSpec := ⟨"template-dir", "TEMPLATE_DIR", .path, false⟩

def listUsage : Usage := ⟨"List template sets", [templateDirectoryOption], [], 0⟩

def infoUsage : Usage := ⟨"Show the files of a template set", [templateDirectoryOption], [], 1⟩

def renderUsage : Usage where
  about := "Render a template set against an API specification"
  options := [⟨"template", "TEMPLATE", .text, false⟩, ⟨"spec", "SPEC", .text, false⟩,
    templateDirectoryOption, ⟨"output-dir", "OUTPUT_DIR", .path, false⟩,
    ⟨"type", "TYPE", .scope, true⟩, ⟨"ignore", "NAME", .text, true⟩,
    ⟨"format", "FORMAT", .format, false⟩]
  flags := ["dry-run"]
  plainLimit := 0

/-- What there is help on: a command, and the commands below it by name. -/
inductive Manual where
  | page (about : String) (commands : List (String × Manual))

namespace Manual

def about : Manual → String
  | page about _ => about

def help : Manual :=
  .page "Print this message or the help of the given subcommand(s)" []

/-- The command of a name below another one.  Wherever there are commands, help
is one of them. -/
def below? : Manual → String → Option Manual
  | page _ commands, name =>
      if commands.isEmpty then none
      else if name = "help" then some help
      else commands.lookup name

end Manual

def templatesManual : Manual :=
  .page templatesAbout [("list", .page listUsage.about []), ("info", .page infoUsage.about [])]

def manual : Manual :=
  .page about [("templates", templatesManual), ("render", .page renderUsage.about [])]

namespace Command

def ofListWords (words : List String) : Except Stop Command := do
  let words ← listUsage.sort words
  .ok (.list (words.value? "template-dir"))

def ofInfoWords (words : List String) : Except Stop Command := do
  let words ← infoUsage.sort words
  match words.plain with
  | id :: _ => .ok (.info id (words.value? "template-dir"))
  | [] => .error (.misuse .missingArguments)

def ofRenderWords (words : List String) : Except Stop Command := do
  let words ← renderUsage.sort words
  match words.value? "template", words.value? "spec" with
  | some template, some source =>
      let scopes := (words.valuesOf "type").filterMap Scope.ofWord?
      let options := { (Options.none.withScopes scopes).ignoring (words.valuesOf "ignore") with
        dryRun := words.hasFlag "dry-run" }
      .ok (.render {
        template := template
        source := source
        templateDirectory? := words.value? "template-dir"
        outputDirectory? := words.value? "output-dir"
        options := options
        format := ((words.value? "format").bind ReportFormat.ofWord?).getD .text })
  | _, _ => .error (.misuse .missingArguments)

def helpOn (manual : Manual) : List String → Stop
  | [] => .help manual.about
  | word :: rest =>
      match manual.below? word with
      | some manual => helpOn manual rest
      | none => .misuse (.unknownCommand word)

/-- The command that the first word chooses among those of a manual, with the
words after it. -/
def choose (manual : Manual) (knowsVersion : Bool) :
    List String → Except Stop (String × List String)
  | [] => .error (.misuse (.noCommand manual.about))
  | word :: rest =>
      if word = "help" then .error (helpOn manual rest)
      else if (manual.below? word).isSome then .ok (word, rest)
      else
        match Dashed.ofWord word with
        | .separator =>
            match rest with
            | [] => .error (.misuse (.noCommand manual.about))
            | word :: _ =>
                if (manual.below? word).isSome then .error (.misuse (.unexpectedArgument word))
                else .error (.misuse (.unknownCommand word))
        | .long name value? =>
            if name = "help" || (name = "version" && knowsVersion) then
              match value? with
              | some value => .error (.misuse (.unexpectedValue ("--" ++ name) value))
              | none => .error (if name = "help" then .help manual.about else .version)
            else .error (.misuse (.unexpectedArgument ("--" ++ name)))
        | .short first =>
            if first = 'h' then .error (.help manual.about)
            else if first = 'V' && knowsVersion then .error .version
            else .error (.misuse (.unexpectedArgument ("-" ++ first.toString)))
        | .plain => .error (.misuse (.unknownCommand word))

def ofWords (words : List String) : Except Stop Command := do
  let (name, rest) ← choose manual true words
  if name = "render" then ofRenderWords rest
  else
    let (name, rest) ← choose templatesManual false rest
    if name = "list" then ofListWords rest else ofInfoWords rest

end Command

end Stencil.CommandLine
