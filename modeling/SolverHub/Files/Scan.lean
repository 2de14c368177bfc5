import SolverHub.Files.Tree

/-! A scan lists all files below a directory through links, up to those that lead back. -/

namespace SolverHub

/-- An entry that a scan cannot read. -/
inductive ScanFault
  /-- A path that leads nowhere. -/
  | unreadable (path : Path) (fault : Fault)
  /-- A link to a directory through which the scan came. -/
  | loop (path ancestor : Path)
deriving DecidableEq, Repr

/-- The wording of a scan fault. -/
def ScanFault.message : ScanFault → String
  | .unreadable path fault =>
    "IO error for operation on " ++ path.text ++ ": " ++ fault.message
  | .loop path ancestor =>
    "File system loop found: " ++ path.text ++ " points to an ancestor " ++ ancestor.text

/-- What a scan meets. -/
inductive Finding
  | file (path : Path)
  | directory (path : Path) (location : Location)
  | fault (fault : ScanFault)
deriving DecidableEq, Repr

/-- The path of a file that was found. -/
def Finding.file? : Finding → Option Path
  | .file path => some path
  | _ => none

/-- The fault that was found. -/
def Finding.fault? : Finding → Option ScanFault
  | .fault reason => some reason
  | _ => none

namespace Tree

variable {α : Type}

/-- The way of a scan down to a directory, the nearest first, each path with its location. -/
abbrev Trail := List (Path × Location)

/-- What a child of the last directory of a trail is, or the trail that goes on to it. -/
def enter (tree : Tree α) (trail : Trail) (path : Path) (location : Location) :
    Finding ⊕ Trail :=
  match tree.node? location with
  | some (.file _) => .inl (.file path)
  | some .directory => .inr ((path, location) :: trail)
  | some (.link _) =>
    match tree.locate path with
    | .error fault => .inl (.fault (.unreadable path fault))
    | .ok target =>
      if tree.isDirectoryAt target then
        match trail.find? fun step => step.2 = target with
        | some step => .inl (.fault (.loop path step.1))
        | none => .inr ((path, target) :: trail)
      else .inl (.file path)
  | none => .inl (.fault (.unreadable path .missing))

/-- All that a scan meets below the last directory of a trail, up to a number of levels. -/
def scanBelow (tree : Tree α) : Nat → Trail → List Finding
  | _, [] => []
  | 0, _ => []
  | levels + 1, (path, location) :: above =>
    let trail := (path, location) :: above
    Finding.directory path location :: (tree.names location).flatMap fun name =>
      match tree.enter trail (path.join ⟨name⟩) (location ++ [name]) with
      | .inl finding => [finding]
      | .inr trail => scanBelow tree levels trail

/-- A number of levels that no trail without a loop exceeds.

Between two links a trail goes down at most once through each entry, and no link leads twice to one entry. -/
def levelLimit (tree : Tree α) : Nat :=
  (tree.entries.length + 2) * (tree.entries.length + 2)

/-- All that a scan meets at and below a path. -/
def scan (tree : Tree α) (path : Path) : List Finding :=
  match tree.locate path with
  | .error fault => [.fault (.unreadable path fault)]
  | .ok location =>
    if tree.isDirectoryAt location then tree.scanBelow tree.levelLimit [(path, location)]
    else [.file path]

end Tree

end SolverHub
