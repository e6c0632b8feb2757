import Stencil.Api.Types

/-!
# Groups of operations

Operations are grouped by their first tag.  Declared tags come first, in the
order of their declaration; other groups follow in the order of first use.
Groups that nobody uses are dropped.
-/

namespace Stencil.Api

/-- The group of operations without a tag. -/
def defaultGroup : String := "default"

namespace Operation

def groupName (operation : Operation) : String :=
  operation.tags.head?.getD defaultGroup

end Operation

def declaredGroups (document : Value) : List Group :=
  (((document.get? "tags").bind Value.items?).getD []).filterMap fun tag =>
    (tag.text? "name").map fun name => ⟨name, tag.text? "description", []⟩

/-- Adds an operation to the first group with its name, or to a new one at the
end. -/
def addToGroup (operation : Operation) : List Group → List Group
  | [] => [⟨operation.groupName, none, [operation]⟩]
  | group :: rest =>
      if group.name == operation.groupName then
        { group with operations := group.operations ++ [operation] } :: rest
      else group :: addToGroup operation rest

def groupOperations (declared : List Group) (operations : List Operation) : List Group :=
  (operations.foldl (fun groups operation => addToGroup operation groups) declared).filter
    fun group => !group.operations.isEmpty

end Stencil.Api
