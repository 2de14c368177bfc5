import SolverHub.Files.Change
import SolverHub.Loader.Scope
import SolverHub.Log.Entry

/-! A watch turns changes below its targets into events, and events lead to the sources to load again. -/

namespace SolverHub

/-- What an event tells of its paths. -/
inductive EventKind
  | created
  | modified
  | renamedFrom
  | renamedTo
  | renamed
  | removed
deriving DecidableEq, Repr

/-- One message of a watch. -/
structure Event where
  /-- What happened. -/
  kind : EventKind
  /-- Where it happened. -/
  paths : List Path
deriving DecidableEq, Repr

namespace Event

/-- Something new may be found at the paths of the event. -/
def isChange (event : Event) : Bool :=
  event.kind ≠ .removed

/-- The findings at a path of an event: the path itself, or a scan of a directory that was created. -/
def findingsAt {α : Type} (scope : Scope) (tree : Tree α) (event : Event) (path : Path) :
    List Finding :=
  if tree.isFile path && scope.covers path then [.file path]
  else if event.kind = .created && tree.isDirectory path && scope.leadsTo path then tree.scan path
  else []

/-- The findings of an event that is a change. -/
def findings {α : Type} (scope : Scope) (tree : Tree α) (event : Event) : List Finding :=
  if event.isChange then event.paths.flatMap (event.findingsAt scope tree) else []

/-- The sources that wait to be loaded after an event. -/
def collect {α : Type} (scope : Scope) (tree : Tree α) (pending : List Path) (event : Event) :
    List Path :=
  Path.sorted (pending ++ scope.sourcesAmong (event.findings scope tree))

/-- The sources to load after some events, each once and in order. -/
def sources {α : Type} (scope : Scope) (tree : Tree α) (events : List Event) : List Path :=
  events.foldl (collect scope tree) []

end Event

/-- A directory that is watched under one path. -/
structure View where
  /-- The path under which changes are told. -/
  path : Path
  /-- The location whose changes are told. -/
  location : Location
deriving DecidableEq, Repr

/-- The directories that are watched, and the events that nobody has taken yet. -/
structure Watch where
  /-- The watched directories. -/
  views : List View
  /-- The events in order. -/
  events : List Event
deriving DecidableEq, Repr

namespace Watch

variable {α : Type}

/-- The directories that a scan met. -/
def viewOf? : Finding → Option View
  | .directory path location => some ⟨path, location⟩
  | _ => none

/-- The views with one more, which replaces an earlier one of its location. -/
def addView (views : List View) (view : View) : List View :=
  views.filter (·.location ≠ view.location) ++ [view]

/-- The views with those of a path and all directories below it. -/
def addViews (tree : Tree α) (views : List View) (path : Path) : List View :=
  ((tree.scan path).filterMap viewOf?).foldl addView views

/-- A watch of some directories and all below them. -/
def start (tree : Tree α) (targets : List Path) : Watch :=
  ⟨targets.foldl (addViews tree) [], []⟩

/-- The path under which a location is seen, if its directory is watched. -/
def pathOf? (watch : Watch) (location : Location) : Option Path := do
  let name ← location.getLast?
  let view ← watch.views.find? fun view => view.location = location.dropLast
  return view.path.join ⟨name⟩

/-- The watch after an event for a location that is seen. -/
def report (watch : Watch) (kind : EventKind) (location : Location) : Watch :=
  match watch.pathOf? location with
  | some path => { watch with events := watch.events ++ [⟨kind, [path]⟩] }
  | none => watch

/-- The watch after a new directory is watched with all below it. -/
def follow (tree : Tree α) (location : Location) (watch : Watch) : Watch :=
  match watch.pathOf? location with
  | some path =>
    if tree.isDirectoryAt location then
      { watch with views := addViews tree watch.views path }
    else watch
  | none => watch

/-- The watch after the directories at and below a location are no longer watched. -/
def leave (location : Location) (watch : Watch) : Watch :=
  { watch with views := watch.views.filter fun view => !Tree.isWithin location view.location }

/-- A watch takes notice of what was touched, given the tree after it. -/
def touch (tree : Tree α) (watch : Watch) : Touch → Watch
  | .created location => (watch.report .created location).follow tree location
  | .modified location => watch.report .modified location
  | .moved source target =>
    (((watch.report .renamedFrom source).leave source).report .renamedTo target).follow tree target
  | .removed location => (watch.report .removed location).leave location

end Watch

end SolverHub
