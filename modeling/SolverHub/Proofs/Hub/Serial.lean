import SolverHub.Proofs.Hub.Loading

/-! A loader that nothing interrupts does step by step what loading sources does at once. -/

namespace SolverHub.Hub

/-- The hub after a source has been loaded. -/
def afterFile (hub : Hub) (path : Path) : Hub :=
  (hub.loadFile path).value.1

/-- A path outside all collections changes nothing. -/
theorem afterFile_uncovered {hub : Hub} {path : Path} (uncovered : hub.scope.covers path = false) :
    hub.afterFile path = hub := by
  -- A path that nothing covers is not even compiled.
  rw [afterFile, loadFile, uncovered]
  rfl

/-- A source that does not compile changes nothing. -/
theorem afterFile_error {hub : Hub} {path : Path} {error : CompileError}
    (wrong : hub.compile path = .error error) : hub.afterFile path = hub := by
  -- Nothing of a file is merged unless it compiles.
  rw [afterFile, loadFile, wrong]
  cases hub.scope.covers path <;> rfl

/-- The sets of a source that compiles are merged. -/
theorem afterFile_ok {hub : Hub} {path : Path} {sets : List ProblemSet}
    (covered : hub.scope.covers path = true) (compiled : hub.compile path = .ok sets) :
    hub.afterFile path = (hub.mergeFile path sets).value.1 := by
  -- A covered file that compiles is merged, and what is logged is no part of the hub.
  rw [afterFile, loadFile, covered, compiled]
  rfl

/-- Loading one more source on top of a report loads the source. -/
theorem value_loadNext (state : Hub × LoadReport) (path : Path) :
    (loadNext state path).value.1 = state.1.afterFile path := by
  obtain ⟨hub, report⟩ := state
  -- The report is counted differently for each outcome, the hub is the same.
  rw [loadNext, afterFile]
  simp only [Logged.value_bind]
  obtain ⟨loaded, outcome⟩ := (hub.loadFile path).value
  cases outcome <;> rfl

/-- Loading everything loads the sources that are found one after another. -/
theorem value_loadAll (hub : Hub) :
    hub.loadAll.value.1 = (hub.scope.sources hub.tree).foldl afterFile hub := by
  have general (paths : List Path) (state : Hub × LoadReport) :
      (paths.foldl (fun state path => (loadNext state path).value) state).1 =
        paths.foldl afterFile state.1 := by
    -- The induction follows the paths with the report that grows along them.
    induction paths generalizing state with
    | nil => rfl
    | cons path rest ih => rw [List.foldl_cons, ih, value_loadNext, List.foldl_cons]
  simp only [loadAll, Logged.value_bind, Logged.value_foldlM, Logged.value_pure]
  exact general _ _

/-- Reloading a source loads it. -/
theorem value_reload (hub : Hub) (path : Path) : (hub.reload path).value = hub.afterFile path := by
  -- A reload logs what a failed load returns, and keeps the hub.
  rw [reload, afterFile]
  simp only [Logged.value_bind]
  obtain ⟨loaded, outcome⟩ := (hub.loadFile path).value
  cases outcome <;> rfl

/-- Settling loads the sources that the events have led to one after another. -/
theorem value_settle {hub : Hub} {watch : Watch} (watched : hub.watch = some watch) :
    hub.settle.value = (Event.sources hub.scope hub.tree watch.events).foldl afterFile
      { hub with watch := some { watch with events := [] } } := by
  -- The watch starts with no events again, and then the sources are loaded in order.
  simp only [settle, watched, Logged.value_bind, Logged.value_foldlM, value_reload]

namespace Loading

variable (state : Loading) {task : Task}

/-- A loader with sources goes on with the first one. -/
theorem step_next (working : task = .reload → state.stage = .loading)
    {path : Path} {rest : List Path} {phase : Phase} (here : state.jobs task = ⟨path :: rest, phase⟩) :
    state.step (.next task) = state.load task := by
  -- The bulk load runs by itself, the reloading task only while it is loading.
  cases task with
  | bulk => rfl
  | reload =>
    show state.cycle = _
    rw [cycle, working rfl]
    exact if_neg (by rw [here]; exact List.cons_ne_nil _ _)

/-- Steps in turn go on from where earlier ones have ended. -/
theorem play_append (first second : List Step) :
    state.play (first ++ second) = (state.play first).play second :=
  -- The steps are played one after another.
  List.foldl_append

/-- The outcome of loading some sources, after which others are left. -/
structure Loaded (before last : Loading) (task : Task) (hub : Hub) (rest : List Path) : Prop where
  hub : last.hub = hub
  job : last.jobs task = ⟨rest, .waiting⟩
  lock : last.lock = none
  stage : last.stage = before.stage
  queue : last.queue = before.queue

/-- The sources of a loader that comes on are those that it has come to. -/
theorem jobs_setJob (job : Job) : (state.setJob task job).jobs task = job :=
  if_pos rfl

/-- A loader that nothing interrupts loads its first source. -/
theorem exists_play_first (working : task = .reload → state.stage = .loading)
    (free : state.lock = none) {path : Path} {rest : List Path}
    (here : state.jobs task = ⟨path :: rest, .waiting⟩) :
    ∃ count, Loaded state (state.play (List.replicate count (.next task))) task
      (state.hub.afterFile path) rest := by
  cases covered : state.hub.scope.covers path with
  | false =>
    -- Such a path is passed over without the lock.
    refine ⟨1, ?_⟩
    show Loaded state (state.step (.next task)) task _ rest
    rw [step_next state working here, load, here, afterFile_uncovered covered]
    simp only [covered]
    exact ⟨rfl, jobs_setJob _ _, free, rfl, rfl⟩
  | true =>
    let locked := { state.setJob task ⟨path :: rest, .locked⟩ with lock := some task }
    have first : state.step (.next task) = locked := by
      rw [step_next state working here, load, here]
      simp only [covered, free, if_true]
      rfl
    have second : locked.step (.next task) = locked.compile task path rest := by
      have job : locked.jobs task = ⟨path :: rest, .locked⟩ := jobs_setJob _ _
      rw [step_next locked working job, load, job]
    -- What the loader goes on with depends on the outcome of compiling.
    have outcome : (locked.compile task path rest).jobs task =
        ⟨path :: rest, compiledPhase state.hub path⟩ := jobs_setJob _ _
    cases compiled : state.hub.compile path with
    | error error =>
      -- The lock is given back after the failure.
      have job : (locked.compile task path rest).jobs task = ⟨path :: rest, .over⟩ := by
        rw [outcome, compiledPhase, compiled]
      refine ⟨3, ?_⟩
      show Loaded state (((state.step (.next task)).step (.next task)).step (.next task)) task _ rest
      rw [first, second, step_next (locked.compile task path rest) working job, load, job,
        afterFile_error compiled]
      exact ⟨rfl, jobs_setJob _ _, rfl, rfl, rfl⟩
    | ok sets =>
      have job : (locked.compile task path rest).jobs task =
          ⟨path :: rest, .compiled (state.hub.reading path) sets⟩ := by
        rw [outcome, compiledPhase, compiled]
      let merged := (locked.compile task path rest).merge task path rest (state.hub.reading path) sets
      have third : (locked.compile task path rest).step (.next task) = merged := by
        rw [step_next (locked.compile task path rest) working job, load, job]
      have done : merged.jobs task = ⟨path :: rest, .over⟩ := jobs_setJob _ _
      refine ⟨4, ?_⟩
      show Loaded state ((((state.step (.next task)).step (.next task)).step (.next task)).step
        (.next task)) task _ rest
      rw [first, second, third, step_next merged working done, load, done,
        afterFile_ok covered compiled]
      exact ⟨rfl, jobs_setJob _ _, rfl, rfl, rfl⟩

/-- A loader that nothing interrupts loads all its sources, one after another. -/
theorem exists_play_all (working : task = .reload → state.stage = .loading)
    (free : state.lock = none) {todo : List Path} (here : state.jobs task = ⟨todo, .waiting⟩) :
    ∃ count, Loaded state (state.play (List.replicate count (.next task))) task
      (todo.foldl afterFile state.hub) [] := by
  -- The induction follows the sources.
  induction todo generalizing state with
  | nil => exact ⟨0, rfl, here, free, rfl, rfl⟩
  | cons path rest ih =>
    obtain ⟨first, loaded⟩ := exists_play_first state working free here
    obtain ⟨others, last⟩ := ih _ (fun same => loaded.stage.trans (working same)) loaded.lock loaded.job
    refine ⟨first + others, ?_⟩
    rw [← List.replicate_append_replicate, play_append, List.foldl_cons, ← loaded.hub]
    exact ⟨last.hub, last.job, last.lock, last.stage.trans loaded.stage,
      last.queue.trans loaded.queue⟩

/-- A loader has covered sources, and what it has read and will read is what some others are about to. -/
structure Reads (before last : Loading) (task : Task) : Prop where
  scope : last.hub.scope = before.hub.scope
  tree : last.hub.tree = before.hub.tree
  covered : ∀ path ∈ (last.jobs task).todo, last.hub.scope.covers path = true
  readings : last.readings ++ (unread (last.jobs task)).map last.hub.reading =
    before.readings ++ (unread (before.jobs task)).map before.hub.reading

/-- A loader that goes on with a covered source reads it once. -/
theorem reads_load (covered : ∀ path ∈ (state.jobs task).todo, state.hub.scope.covers path = true) :
    Reads state (state.load task) task := by
  -- The cases are the phases, of which one reads the source and the others leave what is unread.
  unfold Loading.load
  split
  · exact ⟨rfl, rfl, covered, rfl⟩
  · rename_i path rest here
    rw [here] at covered
    rw [if_pos (covered path List.mem_cons_self)]
    split
    · let locked := { state.setJob task ⟨path :: rest, .locked⟩ with lock := some task }
      have job : locked.jobs task = ⟨path :: rest, .locked⟩ := jobs_setJob _ _
      show Reads state locked task
      exact ⟨rfl, rfl, by rw [job]; exact covered, by rw [job, here]; rfl⟩
    · exact ⟨rfl, rfl, here ▸ covered, rfl⟩
  · rename_i path rest here
    rw [here] at covered
    have job : (state.compile task path rest).jobs task =
        ⟨path :: rest, compiledPhase state.hub path⟩ := jobs_setJob _ _
    refine ⟨rfl, rfl, by rw [job]; exact covered, ?_⟩
    show (state.readings ++ [state.hub.reading path]) ++ (unread _).map state.hub.reading = _
    rw [job, unread_compiledPhase, here, List.append_assoc]
    rfl
  · rename_i path rest reading sets here
    rw [here] at covered
    have job : (state.merge task path rest reading sets).jobs task = ⟨path :: rest, .over⟩ :=
      jobs_setJob _ _
    have scope := scope_mergeFile state.hub reading.path sets
    refine ⟨scope, rfl, ?_, ?_⟩
    · rw [job]
      exact fun path member => (congrArg (·.covers path) scope).trans (covered path member)
    · rw [job, here]
      rfl
  · rename_i path rest here
    rw [here] at covered
    let released := { state.setJob task ⟨rest, .waiting⟩ with lock := none }
    have job : released.jobs task = ⟨rest, .waiting⟩ := jobs_setJob _ _
    have left : ∀ path ∈ (released.jobs task).todo, state.hub.scope.covers path = true := by
      rw [job]
      exact fun path member => covered path (List.mem_cons_of_mem _ member)
    show Reads state released task
    exact ⟨rfl, rfl, left, by rw [job, here]; rfl⟩

/-- A bulk load that goes on with covered sources reads each of them once. -/
theorem reads_play (covered : ∀ path ∈ (state.jobs .bulk).todo, state.hub.scope.covers path = true)
    (count : Nat) : Reads state (state.play (List.replicate count (.next .bulk))) .bulk := by
  -- The induction counts the steps, with the state behind the first one.
  induction count generalizing state with
  | zero => exact ⟨rfl, rfl, covered, rfl⟩
  | succ count ih =>
    have first := reads_load state covered
    have others := ih (state.load .bulk) first.covered
    exact ⟨others.scope.trans first.scope, others.tree.trans first.tree, others.covered,
      others.readings.trans first.readings⟩

/-- A bulk load that nothing interrupts loads everything at once, and compiles each source once in order. -/
theorem exists_play_loadAll (hub : Hub) :
    ∃ count,
      let last := (start hub).play
        (.scan (hub.scope.sources hub.tree) :: List.replicate count (.next .bulk))
      last.hub = hub.loadAll.value.1 ∧
        last.readings = (hub.scope.sources hub.tree).map hub.reading := by
  let scanned := (start hub).setJob .bulk ⟨hub.scope.sources hub.tree, .waiting⟩
  have job : scanned.jobs .bulk = ⟨hub.scope.sources hub.tree, .waiting⟩ := jobs_setJob _ _
  have working : Task.bulk = .reload → scanned.stage = .loading := nofun
  obtain ⟨count, loaded⟩ := exists_play_all scanned working rfl job
  -- The sources are found in one step before they are loaded.
  refine ⟨count, loaded.hub.trans (value_loadAll hub).symm, ?_⟩
  have covered : ∀ path ∈ (scanned.jobs .bulk).todo, hub.scope.covers path = true := by
    rw [job]
    intro path source
    obtain ⟨_, _, among⟩ := List.mem_flatMap.mp (Path.mem_of_mem_sorted source)
    exact (List.mem_filter.mp among).2
  have reads := (reads_play scanned covered count).readings
  rw [loaded.job, job] at reads
  exact (List.append_nil _).symm.trans reads

/-- The reloading is about to load some sources. -/
structure Gathered (last : Loading) (hub : Hub) (todo : List Path) : Prop where
  hub : last.hub = hub
  stage : last.stage = .loading
  lock : last.lock = none
  job : last.jobs .reload = ⟨todo, .waiting⟩

/-- The reloading that nothing interrupts collects the sources of all events that are left. -/
theorem play_collecting {events : List Event} {todo : List Path} (stage : state.stage = .collecting)
    (queue : state.queue = events) (here : state.jobs .reload = ⟨todo, .waiting⟩)
    (free : state.lock = none) :
    Gathered (state.play (List.replicate (events.length + 1) (.next .reload))) state.hub
      (events.foldl (Event.collect state.hub.scope state.hub.tree) todo) := by
  -- The induction follows the events.
  induction events generalizing state todo with
  | nil =>
    have last : state.step (.next .reload) = { state with stage := .loading } := by
      show state.cycle = _
      rw [cycle, stage, queue]
    show Gathered (state.step (.next .reload)) _ _
    rw [last]
    exact ⟨rfl, rfl, free, here⟩
  | cons event rest ih =>
    have next : state.step (.next .reload) = { state.collect todo event with queue := rest } := by
      show state.cycle = _
      rw [cycle, stage, queue, here]
    show Gathered ((state.step (.next .reload)).play (List.replicate (rest.length + 1) _)) _ _
    rw [next]
    exact ih { state.collect todo event with queue := rest } rfl rfl rfl free

/-- The reloading that nothing interrupts takes an event, waits and collects the sources of all. -/
theorem play_take {first : Event} {rest : List Event} (stage : state.stage = .waiting)
    (queue : state.queue = first :: rest) (free : state.lock = none) :
    Gathered (state.play (List.replicate (rest.length + 3) (.next .reload))) state.hub
      (Event.sources state.hub.scope state.hub.tree (first :: rest)) := by
  -- The first event is taken and collected before the ones behind it.
  have take : state.step (.next .reload) =
      { state with stage := .debouncing first, queue := rest } := by
    show state.cycle = _
    rw [cycle, stage, queue]
  show Gathered (((state.step (.next .reload)).step (.next .reload)).play
    (List.replicate (rest.length + 1) (.next .reload))) _ _
  rw [take]
  exact play_collecting (collect { state with stage := .debouncing first, queue := rest } [] first)
    rfl rfl rfl free

/-- Noticing some events puts them into the queue. -/
theorem play_notice (events : List Event) :
    ∃ owed, state.play (events.map .notice) =
      { state with queue := state.queue ++ events, owed := owed } := by
  -- The induction follows the events, whatever each of them settles.
  induction events generalizing state with
  | nil => exact ⟨state.owed, by rw [List.append_nil]; rfl⟩
  | cons event rest ih =>
    obtain ⟨owed, same⟩ := ih (state.notice event)
    refine ⟨owed, same.trans ?_⟩
    rw [notice, List.append_assoc]
    rfl

/-- The reloading that nothing interrupts settles the events that the watch has taken notice of. -/
theorem exists_play_settle {hub : Hub} {watch : Watch} (watched : hub.watch = some watch) :
    ∃ steps, ((start { hub with watch := some { watch with events := [] } }).play steps).hub =
      hub.settle.value := by
  rw [value_settle watched]
  cases watch.events with
  | nil => exact ⟨[], rfl⟩
  | cons first rest =>
    -- The events are noticed, then collected, and then their sources are loaded.
    let drained := start { hub with watch := some { watch with events := [] } }
    obtain ⟨owed, noticed⟩ := play_notice drained (first :: rest)
    have gathered := play_take { drained with queue := first :: rest, owed := owed } rfl rfl rfl
    obtain ⟨count, loaded⟩ := exists_play_all _ (fun _ => gathered.stage) gathered.lock gathered.job
    refine ⟨(first :: rest).map .notice ++ (List.replicate (rest.length + 3) (.next .reload) ++
      List.replicate count (.next .reload)), ?_⟩
    rw [play_append, noticed, play_append]
    exact loaded.hub.trans (congrArg (fun hub => List.foldl afterFile hub _) gathered.hub)

end Loading

end SolverHub.Hub
