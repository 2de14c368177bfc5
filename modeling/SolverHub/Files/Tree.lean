import SolverHub.Keyed
import SolverHub.Path
import SolverHub.Text.Decimal

/-! A file tree has directories, files with contents and links, and a path is followed through the links. -/

namespace SolverHub

/-- The names that lead from the root to an entry. -/
abbrev Location := List String

/-- An entry of a file tree. -/
inductive Node (α : Type)
  | directory
  | file (content : α)
  | link (target : Path)
deriving DecidableEq, Repr

/-- The reasons for which a file operation does not succeed. -/
inductive Fault
  | missing
  | exists
  | notDirectory
  | isDirectory
  | invalid
  | notEmpty
  | tooManyLinks
deriving DecidableEq, Repr

/-- The number by which systems know a fault. -/
def Fault.number : Fault → Nat
  | .missing => 2
  | .exists => 17
  | .notDirectory => 20
  | .isDirectory => 21
  | .invalid => 22
  | .notEmpty => 39
  | .tooManyLinks => 40

/-- The name by which systems know a fault. -/
def Fault.name : Fault → String
  | .missing => "No such file or directory"
  | .exists => "File exists"
  | .notDirectory => "Not a directory"
  | .isDirectory => "Is a directory"
  | .invalid => "Invalid argument"
  | .notEmpty => "Directory not empty"
  | .tooManyLinks => "Too many levels of symbolic links"

/-- The wording of a fault. -/
def Fault.message (fault : Fault) : String :=
  fault.name ++ " (os error " ++ Text.natText fault.number ++ ")"

/-- The entries below the root, by location. -/
structure Tree (α : Type) where
  /-- Each location with its entry. -/
  entries : List (Location × Node α)

namespace Tree

variable {α : Type}

/-- A tree with nothing but the root. -/
def empty : Tree α := ⟨[]⟩

/-- The entry at a location, where the root is a directory. -/
def node? (tree : Tree α) : Location → Option (Node α)
  | [] => some .directory
  | location => Keyed.get? location tree.entries

/-- The entry at a location is a directory. -/
def isDirectoryAt (tree : Tree α) (location : Location) : Bool :=
  match tree.node? location with
  | some .directory => true
  | _ => false

/-- The names in the directory at a location, in order. -/
def names (tree : Tree α) (location : Location) : List String :=
  tree.entries.filterMap fun entry =>
    if entry.1.dropLast = location then entry.1.getLast? else none

/-- The number of links that are followed on the way along one path. -/
def linkLimit : Nat := 40

/-- The location that some steps lead to from another one.

The last step may lead to a place where nothing is, if that is allowed. -/
def walk (tree : Tree α) (vacant : Bool) (links : Nat) (done : Location) :
    List Component → Except Fault Location
  | [] => .ok done
  | .root :: rest => walk tree vacant links [] rest
  | .here :: rest => walk tree vacant links done rest
  | .up :: rest => walk tree vacant links done.dropLast rest
  | .name name :: rest =>
    let child := done ++ [name]
    match tree.node? child, links with
    | some .directory, links => walk tree vacant links child rest
    | some (.file _), _ => if rest.isEmpty then .ok child else .error .notDirectory
    | some (.link _), 0 => .error .tooManyLinks
    | some (.link target), links + 1 => walk tree vacant links done (target.components ++ rest)
    | none, _ => if vacant && rest.isEmpty then .ok child else .error .missing
termination_by steps => (links, steps.length)

/-- The steps along a path, of which one stays where a trailing slash asks for a directory. -/
def stepsOf (path : Path) : List Component :=
  match path.fields.getLast? with
  | some [] | some ['.'] => path.components ++ [.here]
  | _ => path.components

/-- The location that an absolute path leads to. -/
def locate (tree : Tree α) (path : Path) : Except Fault Location :=
  if path.isAbsolute then tree.walk false linkLimit [] (stepsOf path) else .error .missing

/-- The location at which writing to a path takes place, where nothing may be yet. -/
def locateTarget (tree : Tree α) (path : Path) : Except Fault Location :=
  if path.isAbsolute then tree.walk true linkLimit [] (stepsOf path) else .error .missing

/-- The location of the last name of a path in the directory that the steps before it lead to. -/
def locateEntry (tree : Tree α) (path : Path) : Except Fault Location := do
  if !path.isAbsolute then throw .missing
  match path.components.getLast? with
  | some (.name name) =>
    let parent ← tree.walk false linkLimit [] path.components.dropLast
    if tree.isDirectoryAt parent then return parent ++ [name] else throw .notDirectory
  | _ => throw .exists

/-- The entry that a path leads to. -/
def find? (tree : Tree α) (path : Path) : Option (Node α) :=
  match tree.locate path with
  | .ok location => tree.node? location
  | .error _ => none

/-- A path leads to a directory. -/
def isDirectory (tree : Tree α) (path : Path) : Bool :=
  match tree.find? path with
  | some .directory => true
  | _ => false

/-- A path leads to a file. -/
def isFile (tree : Tree α) (path : Path) : Bool :=
  match tree.find? path with
  | some (.file _) => true
  | _ => false

/-- The content of the file that a path leads to. -/
def read? (tree : Tree α) (path : Path) : Option α :=
  match tree.find? path with
  | some (.file content) => some content
  | _ => none

end Tree

end SolverHub
