import Stencil.Render.Scope

/-!
# Words of a command line

The words after a command are options with a value, flags, and plain arguments.
The value of an option is the next word, or what follows an equals sign.  After
two dashes alone every word is plain.  An option is looked at more closely only
when the next one starts or the words end, so a word that nobody knows is
reported before the wrong value in front of it.
-/

namespace Stencil.CommandLine

/-- What the value of an option has to be. -/
inductive ValueKind where
  | text
  | path
  | scope
  | format
deriving DecidableEq, Repr

/-- An option with a value. -/
structure OptionSpec where
  name : String
  /-- The word that stands for the value in messages. -/
  placeholder : String
  kind : ValueKind
  isRepeatable : Bool
deriving DecidableEq, Repr

/-- The words that a command takes. -/
structure Usage where
  /-- What the command does. -/
  about : String
  options : List OptionSpec
  flags : List String
  /-- How many plain arguments there may be. -/
  plainLimit : Nat
deriving Repr

/-- The reports of a rendering. -/
inductive ReportFormat where
  | text
  | json
deriving DecidableEq, Repr, Inhabited

namespace ReportFormat

def ofWord? (word : String) : Option ReportFormat :=
  match word with
  | "text" => some text
  | "json" => some json
  | _ => none

end ReportFormat

/-- Why words are not a command. -/
inductive Misuse where
  /-- A command is missing; the text tells what there is to do. -/
  | noCommand (about : String)
  | unknownCommand (word : String)
  | unexpectedArgument (word : String)
  | unexpectedValue (flag value : String)
  | missingValue (option : String)
  | invalidValue (option value : String) (reason? : Option String)
  | repeated (option : String)
  | missingArguments
deriving DecidableEq, Repr

/-- Why words lead to no command. -/
inductive Stop where
  | help (about : String)
  | version
  | misuse (misuse : Misuse)
deriving DecidableEq, Repr

namespace Misuse

/-- The first line of what is told to the user. -/
def line : Misuse → String
  | noCommand about => about
  | unknownCommand word => "error: unrecognized subcommand '" ++ word ++ "'"
  | unexpectedArgument word => "error: unexpected argument '" ++ word ++ "' found"
  | unexpectedValue flag value =>
      "error: unexpected value '" ++ value ++ "' for '" ++ flag ++
        "' found; no more were expected"
  | missingValue option =>
      "error: a value is required for '" ++ option ++ "' but none was supplied"
  | invalidValue option value reason? =>
      "error: invalid value '" ++ value ++ "' for '" ++ option ++ "'" ++
        (match reason? with
          | some reason => ": " ++ reason
          | none => "")
  | repeated option => "error: the argument '" ++ option ++ "' cannot be used multiple times"
  | missingArguments => "error: the following required arguments were not provided:"

end Misuse

def unknownScopeReason (word : String) : String :=
  "unknown template type '" ++ word ++ "' (expected one of: " ++
    String.intercalate ", " (Scope.all.map Scope.word) ++ ")"

namespace OptionSpec

def shown (option : OptionSpec) : String :=
  "--" ++ option.name ++ " <" ++ option.placeholder ++ ">"

def misuse? (option : OptionSpec) (value : String) : Option Misuse :=
  match option.kind with
  | .text => none
  | .path => if value.isEmpty then some (.missingValue option.shown) else none
  | .scope =>
      match Scope.ofWord? value with
      | some _ => none
      | none => some (.invalidValue option.shown value (some (unknownScopeReason value)))
  | .format =>
      if value.isEmpty then some (.missingValue option.shown)
      else
        match ReportFormat.ofWord? value with
        | some _ => none
        | none => some (.invalidValue option.shown value none)

end OptionSpec

/-- The words of a command, sorted by their kind. -/
structure Words where
  /-- Options with their values, in order. -/
  values : List (String × String)
  flags : List String
  plain : List String
deriving DecidableEq, Repr

namespace Words

def none : Words := ⟨[], [], []⟩

def value? (words : Words) (option : String) : Option String :=
  words.values.lookup option

def valuesOf (words : Words) (option : String) : List String :=
  (words.values.filter fun entry => entry.1 == option).map Prod.snd

def hasFlag (words : Words) (flag : String) : Bool :=
  words.flags.contains flag

def accept (words : Words) (option : OptionSpec) (value? : Option String) :
    Except Misuse Words :=
  match value? with
  | Option.none => .error (.missingValue option.shown)
  | some value =>
      if !option.isRepeatable && (words.value? option.name).isSome then
        .error (.repeated option.shown)
      else
        match option.misuse? value with
        | some misuse => .error misuse
        | Option.none => .ok { words with values := words.values ++ [(option.name, value)] }

end Words

/-- The last option, which has not been looked at yet, with its value if there
was one. -/
abbrev Pending := Option (OptionSpec × Option String)

/-- Takes the last option. -/
def settle (words : Words) (pending : Pending) : Except Misuse Words :=
  match pending with
  | some (option, value?) => words.accept option value?
  | none => .ok words

/-- A word that starts with dashes, taken apart. -/
inductive Dashed where
  /-- Two dashes alone. -/
  | separator
  | long (name : String) (value? : Option String)
  | short (first : Char)
  | plain

def Dashed.ofWord (word : String) : Dashed :=
  match word.toList with
  | ['-', '-'] => separator
  | '-' :: '-' :: rest =>
      match rest.dropWhile (· ≠ '=') with
      | [] => long (String.ofList rest) none
      | _ :: value =>
          long (String.ofList (rest.takeWhile (· ≠ '='))) (some (String.ofList value))
  | '-' :: first :: _ => short first
  | _ => plain

namespace Usage

def takePlain (usage : Usage) (words : Words) (pending : Pending) (word : String) :
    Except Misuse Words :=
  if words.plain.length < usage.plainLimit then
    (settle words pending).map fun words => { words with plain := words.plain ++ [word] }
  else .error (.unexpectedArgument word)

def takeRest (usage : Usage) (words : Words) (pending : Pending) :
    List String → Except Misuse Words
  | [] => settle words pending
  | word :: rest => do
      let words ← usage.takePlain words pending word
      usage.takeRest words none rest

def takeFlag (words : Words) (pending : Pending) (flag : String) : Except Misuse Words := do
  let words ← settle words pending
  if words.hasFlag flag then .error (.repeated ("--" ++ flag))
  else .ok { words with flags := words.flags ++ [flag] }

/-- Stops for help once the last option has been looked at. -/
def stopForHelp (usage : Usage) (words : Words) (pending : Pending) : Stop :=
  match settle words pending with
  | .ok _ => .help usage.about
  | .error misuse => .misuse misuse

/-- Takes all words; the last option is still to be looked at. -/
def take (usage : Usage) (words : Words) (pending : Pending) : List String → Except Stop Words
  | [] => (settle words pending).mapError .misuse
  | word :: rest =>
      match Dashed.ofWord word with
      | .separator => (usage.takeRest words pending rest).mapError .misuse
      | .short first =>
          if first = 'h' then .error (usage.stopForHelp words pending)
          else .error (.misuse (.unexpectedArgument ("-" ++ first.toString)))
      | .long name value? =>
          match usage.options.find? fun option => option.name == name with
          | some option => do
              let words ← (settle words pending).mapError .misuse
              match value? with
              | some value =>
                  let words ← (words.accept option (some value)).mapError .misuse
                  usage.take words none rest
              | none => usage.take words (some (option, none)) rest
          | none =>
              if usage.flags.contains name || name = "help" then
                match value? with
                | some value => .error (.misuse (.unexpectedValue ("--" ++ name) value))
                | none =>
                    if name = "help" then .error (usage.stopForHelp words pending)
                    else do
                      let words ← (takeFlag words pending name).mapError .misuse
                      usage.take words none rest
              else .error (.misuse (.unexpectedArgument ("--" ++ name)))
      | .plain =>
          match pending with
          | some (option, none) => usage.take words (some (option, some word)) rest
          | pending => do
              let words ← (usage.takePlain words pending word).mapError .misuse
              usage.take words none rest

def sort (usage : Usage) (words : List String) : Except Stop Words :=
  usage.take Words.none none words

end Usage

end Stencil.CommandLine
