import SolverHub.Files.Tree

/-! A change of a file tree tells which locations it touched and how. -/

namespace SolverHub

/-- What happened at a location. -/
inductive Touch
  /-- An entry appeared. -/
  | created (location : Location)
  /-- The content of a file changed. -/
  | modified (location : Location)
  /-- An entry got another location. -/
  | moved (source target : Location)
  /-- An entry disappeared. -/
  | removed (location : Location)
deriving DecidableEq, Repr

namespace Tree

variable {α : Type}

/-- The tree with an entry at a location. -/
def put (tree : Tree α) (location : Location) (node : Node α) : Tree α :=
  ⟨Keyed.put location node tree.entries⟩

/-- A location is another one or lies below it. -/
def isWithin (base location : Location) : Bool :=
  location.take base.length = base

/-- The tree without the entry at a location and those below it. -/
def erase (tree : Tree α) (location : Location) : Tree α :=
  ⟨tree.entries.filter fun entry => !isWithin location entry.1⟩

/-- The location that an entry below a moved one gets. -/
def relocated (source target location : Location) : Location :=
  if isWithin source location then target ++ location.drop source.length else location

/-- The tree after the entry at a location, with those below it, got another location. -/
def move (tree : Tree α) (source target : Location) : Tree α :=
  ⟨Keyed.ofPairs <| (tree.erase target).entries.map fun entry =>
    (relocated source target entry.1, entry.2)⟩

/-- A directory is made in one that exists. -/
def makeDirectory (tree : Tree α) (path : Path) : Except Fault (Tree α × List Touch) := do
  let location ← tree.locateEntry path
  if (tree.node? location).isSome then throw .exists
  return (tree.put location .directory, [.created location])

/-- A directory that may exist already. -/
def ensureDirectory (tree : Tree α) (path : Path) : Except Fault (Tree α × List Touch) :=
  match tree.makeDirectory path with
  | .ok made => .ok made
  | .error fault => if tree.isDirectory path then .ok (tree, []) else .error fault

/-- Directories are made from the first to the last of a list, as far as they are missing. -/
def ensureAll (tree : Tree α) : List Path → Except Fault (Tree α × List Touch)
  | [] => .ok (tree, [])
  | path :: rest => do
    let (made, touches) ← tree.ensureDirectory path
    let (last, others) ← ensureAll made rest
    return (last, touches ++ others)

/-- A path and those paths above it that are missing, the uppermost first. -/
def missingAbove (tree : Tree α) (path : Path) : List Path :=
  path :: (path.ancestors.tail.takeWhile fun above => match tree.makeDirectory above with
    | .ok _ => true
    | .error fault => fault = .missing)

/-- A directory is made with all those above it that are missing. -/
def makeDirectories (tree : Tree α) (path : Path) : Except Fault (Tree α × List Touch) :=
  match tree.ensureDirectory path with
  | .error .missing => tree.ensureAll (tree.missingAbove path).reverse
  | other => other

/-- A file gets a content, in directories that are made as far as they are missing. -/
def write (tree : Tree α) (path : Path) (content : α) : Except Fault (Tree α × List Touch) := do
  let (made, touches) ← match path.parent? with
    | some parent => tree.makeDirectories parent
    | none => .ok (tree, [])
  let location ← made.locateTarget path
  match made.node? location with
  | some .directory => throw .isDirectory
  | some _ => return (made.put location (.file content), touches ++ [.modified location])
  | none => return (made.put location (.file content), touches ++ [.created location])

/-- An entry is removed with all those below it. -/
def remove (tree : Tree α) (path : Path) : Except Fault (Tree α × List Touch) := do
  let location ← tree.locateEntry path
  if (tree.node? location).isNone then throw .missing
  return (tree.erase location, [.removed location])

/-- A link to a target is made. -/
def makeLink (tree : Tree α) (target path : Path) : Except Fault (Tree α × List Touch) := do
  if target.text.isEmpty then throw .missing
  let location ← tree.locateEntry path
  if (tree.node? location).isSome then throw .exists
  return (tree.put location (.link target), [.created location])

/-- Whether an entry may take the place of another one. -/
def mayReplace (tree : Tree α) (source target : Location) : Except Fault Unit :=
  match tree.node? source, tree.node? target with
  | none, _ => .error .missing
  | _, none => .ok ()
  | some .directory, some .directory =>
    if (tree.names target).isEmpty then .ok () else .error .notEmpty
  | some .directory, some _ => .error .notDirectory
  | some _, some .directory => .error .isDirectory
  | some _, some _ => .ok ()

/-- An entry gets another path. -/
def rename (tree : Tree α) (path target : Path) : Except Fault (Tree α × List Touch) := do
  let source ← tree.locateEntry path
  let goal ← tree.locateEntry target
  if source = goal then
    if (tree.node? source).isNone then throw .missing
    return (tree, [])
  if isWithin source goal then throw .invalid
  if isWithin goal source then throw .notEmpty
  tree.mayReplace source goal
  return (tree.move source goal, [.moved source goal])

end Tree

end SolverHub
