import SolverHub.Hub.Loading
import SolverHub.Proofs.Catalogue.Actions
import SolverHub.Proofs.Loader.Pending

/-! What is written is owed to the loaders until one of them has read it. -/

namespace SolverHub

namespace Hub

/-- Merging a file changes nothing but the hall of a hub, and that by what it was. -/
theorem value_mergeFile (hub : Hub) (path : Path) (sets : List ProblemSet) :
    (hub.mergeFile path sets).value.1 = { hub with
      hall := ((hub.hall.number sets).1.mergeAll
        ((hub.hall.number sets).2.map fun set => (.file path, set))).value.1 } := rfl

/-- Merging a file leaves the sources as they are. -/
theorem scope_mergeFile (hub : Hub) (path : Path) (sets : List ProblemSet) :
    (hub.mergeFile path sets).value.1.scope = hub.scope := by
  rw [value_mergeFile, scope]
  -- A scope is made of the directories of the collections, which merging never changes.
  exact congrArg (Scope.mk hub.compiler.accepts) (Hall.directories_mergeEach _ _ _)

/-- The sets that a reading stands for, with the reading. -/
def Reading.result? (compiler : Compiler Image) (reading : Reading) :
    Option (Reading × List ProblemSet) :=
  match compiler.compile reading.path reading.content with
  | .ok sets => some (reading, sets)
  | .error _ => none

/-- The last one of some items at a location. -/
def lastAt {α : Type} (place : α → Option Location) (items : List α) (location : Location) :
    Option α :=
  (items.filter fun item => place item = some location).getLast?

/-- One more item comes last at its location. -/
theorem lastAt_concat {α : Type} (place : α → Option Location) (items : List α) (item : α)
    (location : Location) :
    lastAt place (items ++ [item]) location =
      if place item = some location then some item else lastAt place items location := by
  rw [lastAt, List.filter_append]
  -- The item is kept among those at the location, or left out with those elsewhere.
  by_cases here : place item = some location
  · simp [here]
  · simp [here, lastAt]

namespace Loading

/-- The sources of a job that have still to be read. -/
def unread (job : Job) : List Path :=
  match job.phase with
  | .waiting | .locked => job.todo
  | _ => job.todo.tail

/-- The events that have not led to any sources yet. -/
def events (stage : Stage) (queue : List Event) : List Event :=
  match stage with
  | .debouncing first => first :: queue
  | _ => queue

/-- The sets that are about to be merged in a phase. -/
def Phase.late : Phase → List (Reading × List ProblemSet)
  | .compiled reading sets => [(reading, sets)]
  | _ => []

/-- The sets that the loaders are about to merge. -/
def late (jobs : Task → Job) : List (Reading × List ProblemSet) :=
  Phase.late (jobs .bulk).phase ++ Phase.late (jobs .reload).phase

/-- An event tells of a source by a path that leads to it. -/
def Tells (scope : Scope) (tree : Tree Image) (location : Location) (event : Event) : Prop :=
  event.isChange = true ∧
    ∃ path ∈ event.paths, scope.covers path = true ∧ tree.locate path = .ok location

/-- A content that has been written at a location has been read last, or it will be read. -/
inductive Due (scope : Scope) (tree : Tree Image) (owed : List Location) (events : List Event)
    (unread : List Path) (readings : List Reading) (location : Location) (content : Image) : Prop
  | owed (member : location ∈ owed)
  | told {event : Event} (waits : event ∈ events) (tells : Tells scope tree location event)
  | pending {path : Path} (waits : path ∈ unread) (leads : tree.locate path = .ok location)
  | read {reading : Reading} (last : lastAt Reading.location readings location = some reading)
      (same : reading.content = some content)

/-- The loaders are in order. -/
structure Sound (origin : Hub) (state : Loading) : Prop where
  scope : state.hub.scope = origin.scope
  compiler : state.hub.compiler = origin.compiler
  hall : state.hub.hall = (state.merges.foldl (fun hub merge =>
    (hub.mergeFile merge.1.path merge.2).value.1) origin).hall
  formed : state.hub.tree.WellFormed
  held : ∀ task, (state.jobs task).phase ≠ .waiting ↔ state.lock = some task
  busy : ∀ task, (state.jobs task).todo = [] → (state.jobs task).phase = .waiting
  calm : state.stage ≠ .loading → (state.jobs .reload).phase = .waiting
  rest : state.stage = .waiting ∨ (∃ first, state.stage = .debouncing first) →
    (state.jobs .reload).todo = []
  firm : ∀ path ∈ (state.jobs .reload).todo,
    origin.scope.covers path = true ∧ state.hub.tree.Firm path
  ordered : state.readings.filterMap (Reading.result? origin.compiler) = state.merges ++ late state.jobs
  written : ∀ location writing, lastAt Writing.location state.writings location = some writing →
    state.hub.tree.node? location = some (.file writing.content) ∧
      state.hub.tree.locate writing.path = .ok location ∧
      (origin.scope.covers writing.path = true →
        Due origin.scope state.hub.tree state.owed (events state.stage state.queue)
          (unread (state.jobs .reload)) state.readings location writing.content)

section Due

variable {scope : Scope} {tree : Tree Image} {owed : List Location} {waiting : List Event}
  {todo : List Path} {readings : List Reading} {location : Location} {content : Image}

/-- What is due stays due when files are written. -/
theorem Due.write {next : Tree Image} (keeps : tree.Keeps next) (more : List Location)
    (due : Due scope tree owed waiting todo readings location content) :
    Due scope next (owed ++ more) waiting todo readings location content := by
  -- Paths that lead to a file still lead there once other files have been written.
  cases due with
  | owed member => exact .owed (List.mem_append_left _ member)
  | told waits tells =>
    obtain ⟨change, path, member, covered, leads⟩ := tells
    exact .told waits ⟨change, path, member, covered, Tree.locate_of_keeps keeps leads⟩
  | pending waits leads => exact .pending waits (Tree.locate_of_keeps keeps leads)
  | read last same => exact .read last same

/-- What is due stays due when the watch takes notice of something. -/
theorem Due.notice {event : Event} {heard : Location → Bool}
    (tells : ∀ place, heard place = true → Tells scope tree place event)
    (due : Due scope tree owed waiting todo readings location content) :
    Due scope tree (owed.filter fun place => !heard place) (waiting ++ [event]) todo readings
      location content := by
  cases due with
  | owed member =>
    -- A location is owed no longer exactly where the new event tells of it.
    cases known : heard location with
    | true => exact .told (List.mem_append_right _ (List.mem_singleton_self _)) (tells _ known)
    | false => exact .owed (List.mem_filter.mpr ⟨member, by rw [known]; rfl⟩)
  | told waits tells => exact .told (List.mem_append_left _ waits) tells
  | pending waits leads => exact .pending waits leads
  | read last same => exact .read last same

/-- What is due stays due when the sources of an event join those that wait. -/
theorem Due.collect {event : Event} (formed : tree.WellFormed)
    (firm : ∀ path ∈ todo, scope.covers path = true ∧ tree.Firm path)
    (stands : tree.node? location = some (.file content))
    (due : Due scope tree owed (event :: waiting) todo readings location content) :
    Due scope tree owed waiting (Event.collect scope tree todo event) readings location content := by
  have kept {path : Path} (leads : tree.locate path = .ok location)
      (found : ∃ kept ∈ Event.collect scope tree todo event, kept.components = path.components) :
      Due scope tree owed waiting (Event.collect scope tree todo event) readings location content := by
    -- The path that is kept leads to the same file.
    obtain ⟨kept, member, same⟩ := found
    have settled := (Event.firm_of_mem_collect formed firm kept member).2
    exact .pending member (settled.locate same leads)
  cases due with
  | owed member => exact .owed member
  | told waits tells =>
    rcases List.mem_cons.mp waits with here | later
    · obtain ⟨change, path, member, covered, leads⟩ := tells
      subst here
      -- The file is still there, so the event is not passed over.
      have file : tree.isFile path = true := by
        rw [Tree.isFile, Tree.find?_of_locate leads, stands]
      exact kept leads (Event.exists_collect_of_told change member covered file)
    · exact .told later tells
  | pending waits leads => exact kept leads (Event.exists_collect_of_mem waits)
  | read last same => exact .read last same

/-- What is due stays due when a source is read, which is its content where it was written. -/
theorem Due.compile {hub : Hub} {path : Path} {left : List Path}
    (stands : hub.tree.node? location = some (.file content))
    (rest : ∀ other ∈ todo, other = path ∨ other ∈ left)
    (due : Due scope hub.tree owed waiting todo readings location content) :
    Due scope hub.tree owed waiting left (readings ++ [hub.reading path]) location content := by
  -- Reading the location itself settles it, and reading another one leaves its last reading.
  by_cases here : hub.tree.locate path = .ok location
  · have located : (hub.reading path).location = some location := by
      rw [reading, here]
      rfl
    have content : (hub.reading path).content = some content := by
      rw [reading, Tree.read?, Tree.find?_of_locate here, stands]
    exact .read (by rw [lastAt_concat, if_pos located]) content
  · have elsewhere : (hub.reading path).location ≠ some location := by
      intro same
      rw [reading] at same
      cases found : hub.tree.locate path with
      | error _ => simp [found, Except.toOption] at same
      | ok place =>
        rw [found] at same
        exact here (found.trans (congrArg _ (Option.some.inj same)))
    cases due with
    | owed member => exact .owed member
    | told waits tells => exact .told waits tells
    | pending waits leads =>
      rcases rest _ waits with same | left
      · exact absurd (same ▸ leads) here
      · exact .pending left leads
    | read last same => exact .read (by rw [lastAt_concat, if_neg elsewhere, last]) same

end Due

section Steps

variable {origin : Hub} {state : Loading}

/-- A hub tells of a location where an event does. -/
theorem tells_of_isTold {hub : Hub} {location : Location} {event : Event}
    (told : hub.isTold location event = true) : Tells hub.scope hub.tree location event := by
  obtain ⟨change, told⟩ := Bool.and_eq_true_iff.mp told
  obtain ⟨path, member, told⟩ := List.any_eq_true.mp told
  obtain ⟨covered, leads⟩ := Bool.and_eq_true_iff.mp told
  refine ⟨change, path, member, covered, ?_⟩
  -- A path that leads nowhere cannot lead to the place.
  cases found : hub.tree.locate path with
  | error _ => simp [found, Except.toOption] at leads
  | ok place => simpa [found, Except.toOption] using leads

/-- The loaders are in order before anything has happened. -/
theorem sound_start {hub : Hub} (formed : hub.tree.WellFormed) : Sound hub (start hub) where
  -- Nothing is due yet, and the lock is free.
  scope := rfl
  compiler := rfl
  hall := rfl
  formed := formed
  held := fun _ => ⟨fun busy => absurd rfl busy, nofun⟩
  busy := fun _ _ => rfl
  calm := fun _ => rfl
  rest := fun _ => rfl
  firm := nofun
  ordered := rfl
  written := nofun

/-- The loaders stay in order when a file is written. -/
theorem Sound.write (sound : Sound origin state) (path : Path) (content : Image) :
    Sound origin (state.write path content) := by
  unfold Loading.write
  split
  · -- A write that is refused changes nothing.
    exact sound
  · rename_i tree touches written
    obtain ⟨location, writes⟩ := Tree.writes_of_write sound.formed written
    have place : (tree.locate path).toOption = some location := by
      rw [writes.located]
      rfl
    refine { sound with
      formed := writes.formed
      firm := fun path member => ?_
      written := fun other writing last => ?_ }
    · exact ⟨(sound.firm path member).1, (sound.firm path member).2.of_keeps writes.keeps⟩
    · rw [lastAt_concat] at last
      split at last
      · -- The file that has just been written is owed an event.
        rename_i here
        cases last
        have same : other = location := by simpa [place] using here.symm
        subst same
        refine ⟨writes.content, writes.located, fun covered => .owed ?_⟩
        show other ∈ if state.hub.scope.covers path then _ else _
        rw [sound.scope, if_pos covered, place]
        exact List.mem_append_right _ (List.mem_singleton_self _)
      · -- Files elsewhere are as they were, and so is what is due there.
        rename_i differs
        obtain ⟨stands, leads, due⟩ := sound.written other writing last
        have elsewhere : other ≠ location := fun same => differs (by rw [place, same])
        refine ⟨writes.elsewhere other _ elsewhere stands,
          Tree.locate_of_keeps writes.keeps leads, fun covered => ?_⟩
        split
        · exact (due covered).write writes.keeps _
        · simpa only [List.append_nil] using (due covered).write writes.keeps []

/-- The loaders stay in order when the watch takes notice of something. -/
theorem Sound.notice (sound : Sound origin state) (event : Event) :
    Sound origin (state.notice event) := by
  have later : events state.stage (state.queue ++ [event]) =
      events state.stage state.queue ++ [event] := by
    cases state.stage <;> rfl
  refine { sound with written := fun location writing last => ?_ }
  obtain ⟨stands, leads, due⟩ := sound.written location writing last
  refine ⟨stands, leads, fun covered => ?_⟩
  -- What stops being owed is what the event tells of, and that event waits from now on.
  have told (place : Location) (heard : state.hub.isTold place event = true) :
      Tells origin.scope state.hub.tree place event :=
    sound.scope ▸ tells_of_isTold heard
  have noticed := (due covered).notice told
  rw [← later] at noticed
  exact noticed

/-- The loaders stay in order when one of them goes on. -/
theorem Sound.advance (sound : Sound origin state) {task : Task} (job : Job) (lock : Option Task)
    (readings : List Reading) (merges : List (Reading × List ProblemSet)) (hall : Hall)
    (working : task = .reload → state.stage = .loading)
    (held : ∀ other, (if other = task then job else state.jobs other).phase ≠ .waiting ↔
      lock = some other)
    (busy : job.todo = [] → job.phase = .waiting)
    (fewer : ∀ path ∈ job.todo, path ∈ (state.jobs task).todo)
    (scope : { state.hub with hall := hall }.scope = state.hub.scope)
    (merged : hall = (merges.foldl (fun hub merge =>
      (hub.mergeFile merge.1.path merge.2).value.1) origin).hall)
    (ordered : readings.filterMap (Reading.result? origin.compiler) =
      merges ++ late fun other => if other = task then job else state.jobs other)
    (due : ∀ location content, state.hub.tree.node? location = some (.file content) →
      Due origin.scope state.hub.tree state.owed (events state.stage state.queue)
        (unread (state.jobs .reload)) state.readings location content →
      Due origin.scope state.hub.tree state.owed (events state.stage state.queue)
        (unread (if .reload = task then job else state.jobs .reload)) readings location content) :
    Sound origin { state.setJob task job with
      hub := { state.hub with hall := hall }, lock := lock, readings := readings, merges := merges } := by
  refine { sound with
    scope := scope.trans sound.scope
    hall := merged
    held := held
    busy := fun other => ?_
    calm := fun idle => ?_
    rest := fun idle => ?_
    firm := fun path member => ?_
    ordered := ordered
    written := fun location writing last => ?_ }
  · show (if other = task then job else state.jobs other).todo = [] →
      (if other = task then job else state.jobs other).phase = .waiting
    split
    · exact busy
    · exact sound.busy other
  · show (if .reload = task then job else state.jobs .reload).phase = .waiting
    split
    · -- The reloading goes on with sources at the stage for it only.
      exact absurd (working (Eq.symm ‹_›)) idle
    · exact sound.calm idle
  · show (if .reload = task then job else state.jobs .reload).todo = []
    split
    · -- Sources are reloaded at no other stage.
      have loading := working (Eq.symm ‹_›)
      rcases idle with waiting | ⟨first, debouncing⟩
      · exact absurd (waiting.symm.trans loading) nofun
      · exact absurd (debouncing.symm.trans loading) nofun
    · exact sound.rest idle
  · have listed : path ∈ (if .reload = task then job else state.jobs .reload).todo := member
    split at listed
    · rename_i same
      exact sound.firm path (same ▸ fewer path listed)
    · exact sound.firm path listed
  · obtain ⟨stands, leads, outstanding⟩ := sound.written location writing last
    exact ⟨stands, leads, fun covered => due location _ stands (outstanding covered)⟩

/-- A loader that is past waiting for the lock has it. -/
theorem Sound.locked (sound : Sound origin state) {task : Task}
    (past : (state.jobs task).phase ≠ .waiting) : state.lock = some task :=
  -- The lock is held exactly by the task that is past waiting.
  (sound.held task).mp past

/-- While a loader has the lock, the others do not have it. -/
theorem apart_of_locked {task : Task} (locked : state.lock = some task) (other : Task)
    (differs : other ≠ task) : state.lock ≠ some other := by
  -- The lock has one holder.
  rw [locked]
  exact fun same => differs (Option.some.inj same).symm

/-- Only the loader with the lock is past waiting for it. -/
theorem Sound.alone (sound : Sound origin state) {other : Task}
    (apart : state.lock ≠ some other) : (state.jobs other).phase = .waiting := by
  -- A loader in any other phase holds the lock.
  by_contra busy
  exact apart ((sound.held other).mp busy)

/-- What is about to be merged comes from the only loader that is past waiting for the lock. -/
theorem late_alone {jobs : Task → Job} (task : Task)
    (alone : ∀ other, other ≠ task → (jobs other).phase = .waiting) :
    late jobs = Phase.late (jobs task).phase := by
  -- What is late is that of both tasks, of which one has nothing.
  cases task with
  | bulk => rw [late, alone .reload nofun]; exact List.append_nil _
  | reload => rw [late, alone .bulk nofun]; rfl

/-- What is about to be merged once a loader has come on, while the others wait for the lock. -/
theorem Sound.late_update (sound : Sound origin state) {task : Task}
    (apart : ∀ other, other ≠ task → state.lock ≠ some other) (job : Job) :
    (late fun other => if other = task then job else state.jobs other) = Phase.late job.phase := by
  rw [late_alone task, if_pos rfl]
  -- The other task cannot be past waiting without the lock.
  intro other differs
  rw [if_neg differs]
  exact sound.alone (apart other differs)

/-- Nothing else is about to be merged than what a loader has, while the others wait for the lock. -/
theorem Sound.late_eq (sound : Sound origin state) {task : Task}
    (apart : ∀ other, other ≠ task → state.lock ≠ some other) :
    late state.jobs = Phase.late (state.jobs task).phase :=
  -- Only one task can be past waiting.
  late_alone task fun other differs => sound.alone (apart other differs)

/-- The sources to reload are as before where a loader comes on that reads none. -/
theorem unread_update {jobs : Task → Job} {task : Task} {job : Job}
    (same : unread job = unread (jobs task)) :
    unread (if .reload = task then job else jobs .reload) = unread (jobs .reload) := by
  -- Only the reloading task matters here.
  split
  · rename_i here
    rw [same, here]
  · rfl

section Waiting

variable (sound : Sound origin state) {task : Task} (wants : (state.jobs task).phase = .waiting)
  (todo : List Path)

include sound wants

/-- A loader that waits without the lock may wait with other sources. -/
theorem Sound.held_update (other : Task) :
    (if other = task then ⟨todo, .waiting⟩ else state.jobs other : Job).phase ≠ .waiting ↔
      state.lock = some other := by
  rw [← sound.held other]
  -- The task waits before and after, and the other one is as before.
  split
  · rename_i same
    rw [same, wants]
  · exact Iff.rfl

/-- A loader that waits with other sources has nothing to merge. -/
theorem Sound.ordered_update : state.readings.filterMap (Reading.result? origin.compiler) =
    state.merges ++ late fun other => if other = task then ⟨todo, .waiting⟩ else state.jobs other := by
  rw [sound.ordered]
  -- The phase is the same as before, and so is what is about to be merged.
  cases task with
  | bulk => rw [late, late, wants]; rfl
  | reload => rw [late, late, wants]; rfl

end Waiting

/-- A loader that wants the lock takes it where it is free. -/
theorem Sound.lock (sound : Sound origin state) {task : Task}
    (working : task = .reload → state.stage = .loading) {path : Path} {rest : List Path}
    (here : state.jobs task = ⟨path :: rest, .waiting⟩) (free : state.lock = none) :
    Sound origin { state.setJob task ⟨path :: rest, .locked⟩ with lock := some task } := by
  -- Nobody has the lock, so neither of the loaders is past waiting for it.
  have apart (other : Task) (_ : other ≠ task) : state.lock ≠ some other := by
    rw [free]
    nofun
  have same : unread ⟨path :: rest, .locked⟩ = unread (state.jobs task) := by
    rw [here]
    rfl
  refine sound.advance ⟨path :: rest, .locked⟩ (some task) state.readings state.merges state.hub.hall
    working (fun other => ?_) nofun (fun path member => by rw [here]; exact member) rfl sound.hall ?_
    fun location content _ due => ?_
  · split
    · rename_i same
      exact ⟨fun _ => congrArg some same.symm, fun _ => nofun⟩
    · rename_i differs
      rw [sound.held other, free]
      exact ⟨nofun, fun same => absurd (Option.some.inj same).symm differs⟩
  · rw [sound.late_update apart, sound.ordered, sound.late_eq apart, here]
    rfl
  · rw [unread_update same]
    exact due

/-- A loader passes over a path that no collection covers. -/
theorem Sound.skip (sound : Sound origin state) {task : Task}
    (working : task = .reload → state.stage = .loading) {path : Path} {rest : List Path}
    (here : state.jobs task = ⟨path :: rest, .waiting⟩)
    (uncovered : origin.scope.covers path ≠ true) :
    Sound origin (state.setJob task ⟨rest, .waiting⟩) := by
  -- All sources to reload are covered.
  have bulk : .reload ≠ task := by
    intro same
    have listed : path ∈ (state.jobs .reload).todo := by
      rw [same, here]
      exact List.mem_cons_self
    exact uncovered (sound.firm path listed).1
  have phase : (state.jobs task).phase = .waiting := by rw [here]
  refine sound.advance ⟨rest, .waiting⟩ state.lock state.readings state.merges state.hub.hall working
    (sound.held_update phase rest) (fun _ => rfl)
    (fun path member => by rw [here]; exact List.mem_cons_of_mem _ member) rfl
    sound.hall (sound.ordered_update phase rest) fun location content _ due => ?_
  rw [if_neg bulk]
  exact due

/-- The phase after a source has been compiled. -/
def compiledPhase (hub : Hub) (path : Path) : Phase :=
  match hub.compile path with
  | .ok sets => .compiled (hub.reading path) sets
  | .error _ => .over

/-- What has been compiled is about to be merged, unless there was something wrong with it. -/
theorem late_compiledPhase (hub : Hub) (path : Path) :
    Phase.late (compiledPhase hub path) =
      [hub.reading path].filterMap (Reading.result? hub.compiler) := by
  rw [List.filterMap_cons, List.filterMap_nil, Reading.result?, compiledPhase, Hub.compile, reading]
  -- The reading holds the content that is compiled, so both come to the same outcome.
  cases hub.compiler.compile path (hub.tree.read? path) <;> rfl

/-- A source that has been compiled need not be read any more. -/
theorem unread_compiledPhase (hub : Hub) (path : Path) (rest : List Path) :
    unread ⟨path :: rest, compiledPhase hub path⟩ = rest := by
  -- A compiled file has been read, whatever came of it.
  rw [unread, compiledPhase]
  cases hub.compile path <;> rfl

/-- A loader with the lock compiles its source. -/
theorem Sound.compile (sound : Sound origin state) {task : Task}
    (working : task = .reload → state.stage = .loading) {path : Path} {rest : List Path}
    (here : state.jobs task = ⟨path :: rest, .locked⟩) :
    Sound origin (state.compile task path rest) := by
  have locked : state.lock = some task := sound.locked (by rw [here]; nofun)
  have apart := apart_of_locked locked
  refine sound.advance ⟨path :: rest, compiledPhase state.hub path⟩ state.lock
    (state.readings ++ [state.hub.reading path]) state.merges state.hub.hall working
    (fun other => ?_) nofun (fun path member => by rw [here]; exact member) rfl sound.hall ?_
    fun location content stands due => ?_
  · split
    · rename_i same
      rw [same, locked]
      refine ⟨fun _ => rfl, fun _ => ?_⟩
      rw [compiledPhase]
      split <;> nofun
    · exact sound.held other
  · -- Nothing was about to be merged before, so the new sets are next after all that were merged.
    rw [sound.late_update apart, List.filterMap_append, sound.ordered, sound.late_eq apart, here,
      late_compiledPhase, sound.compiler]
    exact congrArg (· ++ _) (List.append_nil _)
  · split
    · rename_i same
      rw [same, here] at due
      rw [unread_compiledPhase]
      exact due.compile stands fun other member => List.mem_cons.mp member
    · exact due.compile stands fun other member => .inr member

/-- A loader with the lock merges the sets of its source. -/
theorem Sound.merge (sound : Sound origin state) {task : Task}
    (working : task = .reload → state.stage = .loading) {path : Path} {rest : List Path}
    {reading : Reading} {sets : List ProblemSet}
    (here : state.jobs task = ⟨path :: rest, .compiled reading sets⟩) :
    Sound origin (state.merge task path rest reading sets) := by
  have locked : state.lock = some task := sound.locked (by rw [here]; nofun)
  have apart := apart_of_locked locked
  -- Merging looks at the hall of a hub only, so it goes on from the hall that all merges have made.
  have hall : (state.hub.mergeFile reading.path sets).value.1.hall =
      ((state.merges ++ [(reading, sets)]).foldl (fun hub merge =>
        (hub.mergeFile merge.1.path merge.2).value.1) origin).hall := by
    rw [List.foldl_append, List.foldl_cons, List.foldl_nil, value_mergeFile, value_mergeFile,
      sound.hall]
  have same : unread ⟨path :: rest, .over⟩ = unread (state.jobs task) := by
    rw [here]
    rfl
  refine sound.advance ⟨path :: rest, .over⟩ state.lock state.readings
    (state.merges ++ [(reading, sets)]) _ working (fun other => ?_) nofun
    (fun path member => by rw [here]; exact member) (scope_mergeFile state.hub reading.path sets)
    hall ?_ fun location content _ due => ?_
  · split
    · rename_i same
      rw [same, locked]
      exact ⟨fun _ => rfl, fun _ => nofun⟩
    · exact sound.held other
  · -- The sets leave those that are about to be merged for the end of those that have been.
    rw [sound.late_update apart, sound.ordered, sound.late_eq apart, here]
    exact (List.append_nil _).symm
  · rw [unread_update same]
    exact due

/-- A loader gives the lock back and goes on to its next source. -/
theorem Sound.release (sound : Sound origin state) {task : Task}
    (working : task = .reload → state.stage = .loading) {path : Path} {rest : List Path}
    (here : state.jobs task = ⟨path :: rest, .over⟩) :
    Sound origin { state.setJob task ⟨rest, .waiting⟩ with lock := none } := by
  have locked : state.lock = some task := sound.locked (by rw [here]; nofun)
  have apart := apart_of_locked locked
  have same : unread ⟨rest, .waiting⟩ = unread (state.jobs task) := by
    rw [here]
    rfl
  -- Nothing is late once the task is over, so all readings are merged in order.
  refine sound.advance ⟨rest, .waiting⟩ none state.readings state.merges state.hub.hall working
    (fun other => ?_) (fun _ => rfl)
    (fun path member => by rw [here]; exact List.mem_cons_of_mem _ member) rfl sound.hall ?_
    fun location content _ due => ?_
  · split
    · exact ⟨fun busy => absurd rfl busy, nofun⟩
    · rename_i differs
      rw [sound.held other]
      exact ⟨fun holds => absurd holds (apart other differs), nofun⟩
  · rw [sound.late_update apart, sound.ordered, sound.late_eq apart, here]
    rfl
  · rw [unread_update same]
    exact due

/-- The loaders stay in order when one of them goes on with its first source. -/
theorem Sound.load (sound : Sound origin state) (task : Task)
    (working : task = .reload → state.stage = .loading) : Sound origin (state.load task) := by
  -- The cases are the phases that the first source can be in.
  unfold Loading.load
  split
  · exact sound
  · rename_i path rest here
    split
    · split
      · exact sound.lock working here ‹_›
      · exact sound
    · rename_i uncovered
      exact sound.skip working here (sound.scope ▸ uncovered)
  · exact sound.compile working ‹_›
  · exact sound.merge working ‹_›
  · exact sound.release working ‹_›

/-- The loaders stay in order when the sources of an event are collected. -/
theorem Sound.collect (sound : Sound origin state) {pending : List Path} {event : Event}
    {queue : List Event} (idle : state.stage ≠ .loading)
    (todo : (state.jobs .reload).todo = pending)
    (waiting : events state.stage state.queue = event :: queue) :
    Sound origin { state.collect pending event with queue := queue } := by
  -- The reloading waits while it collects, so it may wait with other sources.
  have wants := sound.calm idle
  have firm : ∀ path ∈ pending, origin.scope.covers path = true ∧ state.hub.tree.Firm path :=
    todo ▸ sound.firm
  refine { sound with
    held := sound.held_update wants _
    busy := fun task => ?_
    calm := fun _ => rfl
    rest := nofun
    firm := ?_
    ordered := sound.ordered_update wants _
    written := fun location writing last => ?_ }
  · show (if task = .reload then _ else state.jobs task).todo = [] →
      (if task = .reload then _ else state.jobs task).phase = .waiting
    split
    · exact fun _ => rfl
    · exact sound.busy task
  · show ∀ path ∈ Event.collect state.hub.scope state.hub.tree pending event, _
    rw [sound.scope]
    exact Event.firm_of_mem_collect sound.formed firm
  · obtain ⟨stands, leads, due⟩ := sound.written location writing last
    refine ⟨stands, leads, fun covered => ?_⟩
    have outstanding := due covered
    rw [waiting, unread, wants, todo] at outstanding
    show Due _ _ _ queue (Event.collect state.hub.scope state.hub.tree pending event) _ _ _
    rw [sound.scope]
    exact outstanding.collect sound.formed firm stands

/-- The loaders stay in order when the reloading comes to another stage with the same events. -/
theorem Sound.turn (sound : Sound origin state) {stage : Stage} {queue : List Event}
    (same : events stage queue = events state.stage state.queue)
    (calm : stage ≠ .loading → (state.jobs .reload).phase = .waiting)
    (rest : stage = .waiting ∨ (∃ first, stage = .debouncing first) →
      (state.jobs .reload).todo = []) :
    Sound origin { state with stage := stage, queue := queue } :=
  -- The new stage may change what waits, but no event gets lost on the way.
  { sound with
    calm := calm
    rest := rest
    written := fun location writing last => by
      rw [same]
      exact sound.written location writing last }

/-- The loaders stay in order when the reloading does what comes next for it. -/
theorem Sound.cycle (sound : Sound origin state) : Sound origin state.cycle := by
  -- The cases are the stages, each with a queue that is empty or not where that matters.
  unfold Loading.cycle
  split
  · exact sound
  · rename_i stage queue
    have idle : state.stage ≠ .loading := by rw [stage]; nofun
    exact sound.turn (by rw [stage, queue]; rfl) (fun _ => sound.calm idle)
      fun _ => sound.rest (.inl stage)
  · rename_i first stage
    exact sound.collect (by rw [stage]; nofun) (sound.rest (.inr ⟨first, stage⟩)) (by rw [stage]; rfl)
  · rename_i stage queue
    exact sound.collect (by rw [stage]; nofun) rfl (by rw [stage, queue]; rfl)
  · rename_i stage queue
    exact sound.turn (by rw [stage, queue]; rfl) (fun other => absurd rfl other) nofun
  · split
    · rename_i stage done
      exact sound.turn (by rw [stage]; rfl) (fun _ => sound.busy .reload done) fun _ => done
    · exact sound.load .reload fun _ => ‹_›

/-- The loaders stay in order when a bulk load finds its sources. -/
theorem Sound.scan (sound : Sound origin state) (done : (state.jobs .bulk).todo = [])
    (found : List Path) : Sound origin (state.setJob .bulk ⟨found, .waiting⟩) := by
  -- Whatever it finds, what was due is left to the reloading.
  have wants := sound.busy .bulk done
  refine { sound with
    held := sound.held_update wants found
    busy := fun task => ?_
    ordered := sound.ordered_update wants found }
  show (if task = .bulk then _ else state.jobs task).todo = [] →
    (if task = .bulk then _ else state.jobs task).phase = .waiting
  split
  · exact fun _ => rfl
  · exact sound.busy task

/-- The loaders stay in order whatever happens. -/
theorem Sound.step (sound : Sound origin state) (step : Step) : Sound origin (state.step step) := by
  -- There is one lemma for each thing that can happen.
  cases step with
  | write path content => exact sound.write path content
  | notice event => exact sound.notice event
  | scan found =>
    rw [Loading.step]
    split
    · exact sound.scan ‹_› found
    · exact sound
  | next task =>
    cases task with
    | bulk => exact sound.load .bulk nofun
    | reload => exact sound.cycle

/-- The loaders stay in order with any steps. -/
theorem Sound.play (sound : Sound origin state) (steps : List Step) :
    Sound origin (state.play steps) := by
  -- The induction follows the steps.
  induction steps generalizing state with
  | nil => exact sound
  | cons step rest ih => exact ih (sound.step step)

end Steps

end Loading

end Hub

end SolverHub
