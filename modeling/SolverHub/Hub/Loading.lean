import SolverHub.Hub.Reload

/-! A bulk load and the reloading of changed sources share a hub, in which a lock is held from compiling a source to merging it. -/

namespace SolverHub.Hub

/-- One of those that load sources. -/
inductive Task
  | bulk
  | reload
deriving DecidableEq, Repr

/-- What a loader has read. -/
structure Reading where
  /-- The path of the source. -/
  path : Path
  /-- The location of its file. -/
  location : Option Location
  /-- The content of the file, if there was one. -/
  content : Option Image

/-- What somebody has written. -/
structure Writing where
  /-- The path that was written to. -/
  path : Path
  /-- The location of its file. -/
  location : Option Location
  /-- The content that the file got. -/
  content : Image

/-- How far the loading of a source has come. -/
inductive Phase
  /-- It wants the lock, unless the source lies outside all collections. -/
  | waiting
  /-- It has the lock and is about to compile the source. -/
  | locked
  /-- It has the sets of the source and is about to merge them. -/
  | compiled (reading : Reading) (sets : List ProblemSet)
  /-- It has merged the sets, or there were none, and it is about to give the lock back. -/
  | over

/-- Sources that are loaded one by one. -/
structure Job where
  /-- The sources that are left, the one at work first. -/
  todo : List Path
  /-- How far the first one has come. -/
  phase : Phase

/-- What the reloading of changed sources is about. -/
inductive Stage
  /-- It waits for an event. -/
  | waiting
  /-- It has taken an event and waits for a while. -/
  | debouncing (first : Event)
  /-- It collects the sources that the events of this while lead to. -/
  | collecting
  /-- It loads the sources. -/
  | loading

/-- A hub whose sources are loaded while they are written. -/
structure Loading where
  /-- The hub with its files. -/
  hub : Hub
  /-- The locations that have been written without an event since. -/
  owed : List Location
  /-- The events that nobody has taken. -/
  queue : List Event
  /-- The loader that has the lock. -/
  lock : Option Task
  /-- The sources of each loader. -/
  jobs : Task → Job
  /-- What the reloading is about. -/
  stage : Stage
  /-- All that has been written, in order. -/
  writings : List Writing
  /-- All that has been compiled, in order. -/
  readings : List Reading
  /-- All sets that have been merged, in order, each time with what they were compiled from. -/
  merges : List (Reading × List ProblemSet)

/-- An event tells of the source at a location. -/
def isTold (hub : Hub) (location : Location) (event : Event) : Bool :=
  event.isChange && event.paths.any fun path =>
    hub.scope.covers path && (hub.tree.locate path).toOption == some location

/-- What a loader reads at a path. -/
def reading (hub : Hub) (path : Path) : Reading :=
  ⟨path, (hub.tree.locate path).toOption, hub.tree.read? path⟩

namespace Loading

/-- Something that happens in a hub whose sources are loaded. -/
inductive Step
  /-- Somebody writes a file. -/
  | write (path : Path) (content : Image)
  /-- The watch takes notice of something. -/
  | notice (event : Event)
  /-- A bulk load finds its sources, whichever it met while files were written. -/
  | scan (found : List Path)
  /-- A loader does what comes next for it. -/
  | next (task : Task)

/-- A hub in which nobody loads or writes yet. -/
def start (hub : Hub) : Loading :=
  ⟨hub, [], [], none, fun _ => ⟨[], .waiting⟩, .waiting, [], [], []⟩

/-- The state after a loader has come on with its sources. -/
def setJob (state : Loading) (task : Task) (job : Job) : Loading :=
  { state with jobs := fun other => if other = task then job else state.jobs other }

/-- The state after a file has been written, as far as that is possible. -/
def write (state : Loading) (path : Path) (content : Image) : Loading :=
  match state.hub.tree.write path content with
  | .error _ => state
  | .ok (tree, _) =>
    let location := (tree.locate path).toOption
    { state with
      hub := { state.hub with tree := tree }
      owed := if state.hub.scope.covers path then state.owed ++ location.toList else state.owed
      writings := state.writings ++ [⟨path, location, content⟩] }

/-- The state after the watch has taken notice of an event. -/
def notice (state : Loading) (event : Event) : Loading :=
  { state with
    queue := state.queue ++ [event]
    owed := state.owed.filter fun location => !state.hub.isTold location event }

/-- A source is compiled, by a loader that has the lock. -/
def compile (state : Loading) (task : Task) (path : Path) (rest : List Path) : Loading :=
  let reading := state.hub.reading path
  let phase := match state.hub.compile path with
    | .ok sets => .compiled reading sets
    | .error _ => .over
  { state.setJob task ⟨path :: rest, phase⟩ with readings := state.readings ++ [reading] }

/-- The sets of a source are merged, by a loader that has the lock. -/
def merge (state : Loading) (task : Task) (path : Path) (rest : List Path) (reading : Reading)
    (sets : List ProblemSet) : Loading :=
  { state.setJob task ⟨path :: rest, .over⟩ with
    hub := (state.hub.mergeFile reading.path sets).value.1
    merges := state.merges ++ [(reading, sets)] }

/-- A loader goes on with its first source. -/
def load (state : Loading) (task : Task) : Loading :=
  match state.jobs task with
  | ⟨[], _⟩ => state
  | ⟨path :: rest, .waiting⟩ =>
    if state.hub.scope.covers path then
      if state.lock = none then { state.setJob task ⟨path :: rest, .locked⟩ with lock := some task }
      else state
    else state.setJob task ⟨rest, .waiting⟩
  | ⟨path :: rest, .locked⟩ => state.compile task path rest
  | ⟨path :: rest, .compiled reading sets⟩ => state.merge task path rest reading sets
  | ⟨_ :: rest, .over⟩ => { state.setJob task ⟨rest, .waiting⟩ with lock := none }

/-- The sources that an event leads to join those that wait to be reloaded. -/
def collect (state : Loading) (pending : List Path) (event : Event) : Loading :=
  let todo := event.collect state.hub.scope state.hub.tree pending
  { state.setJob .reload ⟨todo, .waiting⟩ with stage := .collecting }

/-- The state after the reloading has done what comes next for it. -/
def cycle (state : Loading) : Loading :=
  match state.stage, state.queue with
  | .waiting, [] => state
  | .waiting, first :: rest => { state with stage := .debouncing first, queue := rest }
  | .debouncing first, _ => state.collect [] first
  | .collecting, event :: rest =>
    { state.collect (state.jobs .reload).todo event with queue := rest }
  | .collecting, [] => { state with stage := .loading }
  | .loading, _ =>
    if (state.jobs .reload).todo = [] then { state with stage := .waiting } else state.load .reload

/-- The state after something has happened. -/
def step (state : Loading) : Step → Loading
  | .write path content => state.write path content
  | .notice event => state.notice event
  | .scan found =>
    if (state.jobs .bulk).todo = [] then state.setJob .bulk ⟨found, .waiting⟩ else state
  | .next .bulk => state.load .bulk
  | .next .reload => state.cycle

/-- The state after some steps in turn. -/
def play (state : Loading) (steps : List Step) : Loading :=
  steps.foldl step state

/-- Nobody loads a source, and no event is left or about to come. -/
structure Quiet (state : Loading) : Prop where
  owed : state.owed = []
  queue : state.queue = []
  bulk : (state.jobs .bulk).todo = []
  stage : state.stage = .waiting

end Loading

end SolverHub.Hub
