import Stencil.CommandLine.Command
import Stencil.Directories
import Stencil.Render.Pass
import Stencil.Repository
import Stencil.Source.Load

/-!
# Running a command

A command reads from a disk, and a rendering hands its files to a writer.  What
is shown to the user, and with which code the program ends, follows from what
both say.
-/

namespace Stencil.CommandLine

/-- An error and what was being done when it occurred. -/
structure Failure where
  context? : Option String
  error : Error
deriving DecidableEq, Repr

namespace Failure

def bare (error : Error) : Failure := ⟨none, error⟩

def during {α : Type} (context : String) (result : Except Error α) : Except Failure α :=
  result.mapError fun error => ⟨some context, error⟩

def messages (failure : Failure) : List String :=
  failure.context?.toList ++ failure.error.message :: failure.error.cause?.toList

/-- A message with blanks in front of every line but the first. -/
def indented (blanks : Nat) (message : String) : String :=
  String.ofList (message.toList.flatMap fun char =>
    if char = '\n' then '\n' :: List.replicate blanks ' ' else [char])

def numbered (index : Nat) : List String → List String
  | [] => []
  | cause :: rest =>
      ("\n    " ++ toString index ++ ": " ++ indented 7 cause) :: numbered (index + 1) rest

/-- The text for the user: the outermost message, and the causes below it.  They
are numbered when there are several. -/
def text (failure : Failure) : String :=
  match failure.messages with
  | [] => ""
  | [message] => "Error: " ++ message ++ "\n"
  | [message, cause] => "Error: " ++ message ++ "\n\nCaused by:\n    " ++ indented 4 cause ++ "\n"
  | message :: causes =>
      "Error: " ++ message ++ "\n\nCaused by:" ++ String.join (numbered 0 causes) ++ "\n"

end Failure

/-- What the program reads. -/
structure World where
  disk : LinkedDisk
  web : Source.Web
  surroundings : Surroundings

namespace World

/-- The template sets of a directory, or of the usual one. -/
def repository (world : World) (directory? : Option String) : Except Failure Repository := do
  let root ← Failure.during "Failed to resolve template directory"
    ((world.surroundings.templateRoot world.disk directory?).mapError RootFault.toError)
  Failure.during ("Failed to load template sets from " ++ root.text)
    (Repository.scan world.disk root)

/-- A template set of a directory, or of the usual one. -/
def templateSet (world : World) (id : String) (directory? : Option String) :
    Except Failure TemplateSet := do
  let repository ← world.repository directory?
  (repository.get id).mapError Failure.bare

end World

def padded (width : Nat) (text : String) : String :=
  text ++ String.ofList (List.replicate (width - text.length) ' ')

def listText (repository : Repository) : String :=
  match repository.list with
  | [] => "No template sets found in " ++ repository.root.text ++ "\n"
  | sets =>
      let width := (sets.map fun set => set.manifest.id.utf8ByteSize).foldl max 0
      String.join (sets.map fun set =>
        padded width set.manifest.id ++ "  " ++ set.manifest.description ++ "\n")

/-- The lines for a file of a template set. -/
def fileText (file : FileSpec) : String :=
  let target :=
    if file.targetDirectory.isEmpty then file.targetName
    else file.targetDirectory ++ "/" ++ file.targetName
  "  - " ++ file.source ++ " [" ++ file.scope.word ++ "] -> " ++ target ++ "\n" ++
    (if file.description.isEmpty then "" else "    " ++ file.description ++ "\n") ++
    (if file.snippets.isEmpty then ""
      else "    snippets: " ++ String.intercalate ", " file.snippets ++ "\n")

def infoText (set : TemplateSet) : String :=
  set.manifest.id ++ "\n" ++
    (if set.manifest.description.isEmpty then ""
      else "  " ++ set.manifest.description ++ "\n") ++
    "  root: " ++ set.root.text ++ "\nfiles:\n" ++ String.join (set.manifest.files.map fileText)

/-- The path of a record as reports show it: from the output directory on. -/
def shownPath (output : Path) (record : Record) : String :=
  ((record.path.stripPrefix? output).getD record.path).text

def textReport (output : Path) (records : List Record) : String :=
  String.join (records.map fun record =>
    padded 16 record.outcome.word ++ " " ++ shownPath output record ++ " (" ++ record.template ++
      ")\n") ++
    (Tally.ofRecords records).text ++ "\n"

def jsonReport (id : String) (output : Path) (records : List Record) : String :=
  (Value.object [("template", .string id), ("outputDir", .string output.text),
    ("files", .array (records.map Record.toValue)),
    ("summary", (Tally.ofRecords records).toValue)]).wide ++ "\n"

/-- What is left to do for a rendering once everything has been read. -/
def preparePass (world : World) (command : RenderCommand) : Except Failure Pass := do
  let set ← world.templateSet command.template command.templateDirectory?
  let id := set.manifest.id
  let document ← Failure.during ("Failed to load specification from " ++ command.source)
    (Source.load world.disk world.web command.source)
  let compiled ← Failure.during ("Failed to compile template set '" ++ id ++ "'")
    (CompiledSet.load world.disk set.root set.manifest)
  .ok ⟨compiled, document, world.surroundings.outputDirectory command.outputDirectory?,
    command.options⟩

def runRender {σ : Type} (world : World) (writer : Writer σ) (device : σ)
    (command : RenderCommand) : Except Failure String × σ :=
  match preparePass world command with
  | .error failure => (.error failure, device)
  | .ok pass =>
      let id := pass.set.manifest.id
      match pass.run writer device with
      | (.error error, progress) =>
          (.error ⟨some ("Failed to render template set '" ++ id ++ "'"), error⟩, progress.device)
      | (.ok (), progress) =>
          (.ok (match command.format with
            | .text => textReport pass.output progress.records
            | .json => jsonReport id pass.output progress.records), progress.device)

def runCommand {σ : Type} (world : World) (writer : Writer σ) (device : σ) (command : Command) :
    Except Failure String × σ :=
  match command with
  | .list directory? => ((world.repository directory?).map listText, device)
  | .info id directory? => ((world.templateSet id directory?).map infoText, device)
  | .render command => runRender world writer device command

/-- What the program shows, and the code with which it ends. -/
structure Ending where
  code : Nat
  output : String
  errors : String
deriving DecidableEq, Repr

def versionText : String := "specforge 0.1.0"

namespace Ending

/-- The ending for words that lead to no command. -/
def ofStop : Stop → Ending
  | .help about => ⟨0, about ++ "\n", ""⟩
  | .version => ⟨0, versionText ++ "\n", ""⟩
  | .misuse misuse => ⟨2, "", misuse.line ++ "\n"⟩

def ofResult : Except Failure String → Ending
  | .ok output => ⟨0, output, ""⟩
  | .error failure => ⟨1, "", failure.text⟩

end Ending

/-- Runs the program with the words of a command line. -/
def run {σ : Type} (world : World) (writer : Writer σ) (device : σ) (words : List String) :
    Ending × σ :=
  match Command.ofWords words with
  | .error stop => (.ofStop stop, device)
  | .ok command =>
      let (result, device) := runCommand world writer device command
      (.ofResult result, device)

end Stencil.CommandLine
