import SolverHub.Path

/-! The origin of a problem set lies below the root of a collection, and its first step names the author. -/

namespace SolverHub

/-- The author of sets that lie directly in the root of a collection. -/
def unknownAuthor : String := "Unknown"

/-- Where a problem set comes from. -/
inductive Origin
  /-- A file. -/
  | file (path : Path)
  /-- A module of the program. -/
  | inside (path : String)
deriving DecidableEq, Repr

namespace Origin

/-- The text of an origin. -/
def render : Origin → String
  | file path => path.text
  | inside path => path

/-- The author of a file whose steps below the collection's directory are given.

A file directly in the directory has no author of its own, and the directory itself has none at all. -/
def authorOfSteps (steps : List Component) : Option String :=
  match steps.filterMap Component.name? with
  | [] => none
  | [_] => some unknownAuthor
  | author :: _ => some author

/-- The author of a module below the module of the collection. -/
def authorOfModule (root path : List Char) : Option String :=
  if path = root then some unknownAuthor
  else do
    let rest ← Text.dropLeading? [':', ':'] (← Text.dropLeading? root path)
    match Text.segments rest with
    | author :: _ => if author.isEmpty then none else some (String.ofList author)
    | [] => none

/-- The author of an origin in a collection with the given module and directory. -/
def author? (root : String) (directory : Path) : Origin → Option String
  | file path => do authorOfSteps (← path.below? directory)
  | inside path => authorOfModule root.toList path.toList

end Origin

end SolverHub
