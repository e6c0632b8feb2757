import Stencil.CommandLine.Command
import Stencil.Directories
import Stencil.Source.Address

/-!
# What a command reads

A command reads the directories where template sets may be, and the file of its
document.  A disk that agrees with the real one on these and on the places that
lead there makes the command run as it would on the real one.
-/

namespace Stencil.CommandLine

namespace Command

def templateDirectory? : Command → Option String
  | list directory? => directory?
  | info _ directory? => directory?
  | render command => command.templateDirectory?

def treesRead (surroundings : Surroundings) (command : Command) : List Path :=
  match surroundings.requested? command.templateDirectory? surroundings.templateSetting? with
  | some path => [path]
  | none => surroundings.customRoots

def filesRead (surroundings : Surroundings) : Command → List Path
  | render command =>
      if Source.isRemote command.source then []
      else [Path.under ⟨command.source⟩ surroundings.workingDirectory]
  | _ => []

end Command

/-- The places that the segments of an absolute path lead through from a place,
in order. -/
def placesAlong (place : Place) : List String → List Place
  | [] => []
  | segment :: rest =>
      if segment = "" ∨ segment = "." then placesAlong place rest
      else if segment = ".." then placesAlong place.dropLast rest
      else (place ++ [segment]) :: placesAlong (place ++ [segment]) rest

/-- The place that segments lead to from a place when nothing is in the way. -/
def placeAfter (place : Place) : List String → Place
  | [] => place
  | segment :: rest =>
      if segment = "" ∨ segment = "." then placeAfter place rest
      else if segment = ".." then placeAfter place.dropLast rest
      else placeAfter (place ++ [segment]) rest

end Stencil.CommandLine
