import SolverHub.Proofs.Catalogue.Merging

/-! A merge that nothing interrupts does step by step what a merge does at once. -/

namespace SolverHub.Hall.Merging

/-- What a registry of some size does between taking its lock for a merge and giving it back. -/
def rebuildSteps (caller size : Nat) : List Step :=
  .lock caller :: (List.replicate size .read ++ [.publish, .unlock])

variable (state : Merging) {registry : Registry}

/-- Steps in turn go on from where earlier ones have ended. -/
theorem play_append (first second : List Step) :
    state.play (first ++ second) = (state.play first).play second :=
  -- The steps are played one after another.
  List.foldl_append

/-- A registry that is not interrupted reads all its collections as they are. -/
theorem play_reads {rebuilding : Rebuilding} (held : state.rebuilding = some rebuilding)
    {rest : List Nat} (left : state.members.drop rebuilding.versions.length = rest) :
    state.play (List.replicate rest.length .read) = { state with
      rebuilding := some { rebuilding with
        collections := rebuilding.collections ++ rest.filterMap state.hall.collection?
        versions := rebuilding.versions ++ rest.map state.version } } := by
  -- The induction follows the members that are still to be read.
  induction rest generalizing state rebuilding with
  | nil =>
    show state = _
    simp only [List.filterMap_nil, List.map_nil, List.append_nil, ← held]
  | cons position rest ih =>
    have next : state.members[rebuilding.versions.length]? = some position := by
      rw [← List.head?_drop, left, List.head?_cons]
    have step : state.step .read = state.read rebuilding position := by
      simp only [Merging.step, held, next]
    have fewer : state.members.drop (rebuilding.versions ++ [state.version position]).length = rest := by
      rw [List.length_append, List.length_singleton, ← List.drop_drop, left]
      rfl
    show (state.step .read).play (List.replicate rest.length .read) = _
    rw [step, ih (state.read rebuilding position) rfl fewer]
    simp only [Merging.read, List.append_assoc, List.singleton_append, List.map_cons]
    cases here : state.hall.collection? position with
    | none =>
      rw [List.filterMap_cons_none here]
      rfl
    | some collection =>
      rw [List.filterMap_cons_some here]
      rfl

/-- A registry that has read all its collections publishes their index. -/
theorem step_publish {rebuilding : Rebuilding} (held : state.rebuilding = some rebuilding)
    (complete : rebuilding.versions.length = state.members.length)
    (waiting : rebuilding.published = false) :
    state.step .publish = state.publish rebuilding := by
  -- All members are read and nothing is published yet, which is what the step asks for.
  simp only [Merging.step, held]
  rw [if_pos ⟨complete, waiting⟩]

/-- A registry that has published its index gives its lock back. -/
theorem step_unlock {rebuilding : Rebuilding} (held : state.rebuilding = some rebuilding)
    (published : rebuilding.published = true) {call : Call} {version left : Nat}
    (called : state.calls[rebuilding.caller]? = some call)
    (merged : call.stage = .merged version (left + 1)) :
    state.step .unlock =
      { state with rebuilding := none }.reach rebuilding.caller (.merged version left) := by
  -- The merge that the registry has been told of is still waiting for it.
  have stage : state.stage? rebuilding.caller = some (.merged version (left + 1)) := by
    rw [stage?, called, Option.map_some, merged]
  simp only [Merging.step, held, published, stage]

/-- A merge returns when the registry need not be told of it any more. -/
theorem step_finish {caller version : Nat} (told : state.stage? caller = some (.merged version 0)) :
    state.step (.finish caller) = state.reach caller (.returned (some version)) := by
  -- No listener is left to be told.
  simp only [Merging.step, told]

/-- A registry that is not interrupted publishes the index of its collections as they are. -/
theorem play_rebuildSteps (found : state.hall.registry? state.number = some registry)
    (members : registry.members = state.members) (free : state.rebuilding = none) {caller : Nat}
    {call : Call} {version left : Nat} (called : state.calls[caller]? = some call)
    (merged : call.stage = .merged version (left + 1)) :
    state.play (rebuildSteps caller state.members.length) =
      { state with
        hall := state.hall.publish registry
        shown := state.members.map state.version }.reach caller (.merged version left) := by
  have stage : state.stage? caller = some (.merged version (left + 1)) := by
    rw [stage?, called, Option.map_some, merged]
  let locked : Merging := { state with rebuilding := some ⟨caller, [], [], false⟩ }
  have lock : state.step (.lock caller) = locked := by
    simp only [Merging.step, stage, free]
    rfl
  -- Between taking the lock and publishing the registry reads every member once.
  let done : Rebuilding :=
    ⟨caller, state.members.filterMap state.hall.collection?, state.members.map state.version, false⟩
  have reads : locked.play (List.replicate state.members.length .read) =
      { state with rebuilding := some done } :=
    play_reads locked rfl rfl
  have named : registry.number = state.number := number_of_found found
  show (state.step (.lock caller)).play _ = _
  rw [lock, play_append, reads]
  show (Merging.step _ .publish).step .unlock = _
  let complete : Merging := { state with rebuilding := some done }
  have published : complete.step .publish = complete.publish done :=
    step_publish complete rfl (List.length_map _) rfl
  have unlocked := step_unlock (complete.publish done) rfl rfl called merged
  rw [published, unlocked, Hall.publish, membersOf, named, members]
  simp only [Merging.publish, Merging.reach, complete, done, free]

/-- A registry that is not interrupted rebuilds its index as often as it has to be told of a merge. -/
theorem play_rounds (found : state.hall.registry? state.number = some registry)
    (members : registry.members = state.members) (free : state.rebuilding = none) {caller : Nat}
    {call : Call} {version : Nat} (collection : Collection) (rounds : Nat)
    (called : state.calls[caller]? = some call) (merged : call.stage = .merged version rounds) :
    let last := state.play
      (List.replicate rounds (rebuildSteps caller state.members.length)).flatten
    last.hall = (List.replicate rounds (.registry state.number)).foldl
        (fun hall listener => (tell collection hall listener).value) state.hall ∧
      last.rebuilding = none ∧ last.stage? caller = some (.merged version 0) := by
  -- The induction follows the rounds, each of which leaves the registry as it was but for its index.
  induction rounds generalizing state registry call with
  | zero =>
    refine ⟨rfl, free, ?_⟩
    show (state.calls[caller]?).map _ = _
    rw [called, Option.map_some, merged]
  | succ rounds ih =>
    have told : (tell collection state.hall (.registry state.number)).value =
        state.hall.publish registry := by
      show (state.hall.rebuild state.number).value = _
      rw [value_rebuild, found, Option.elim_some]
    have named : registry.number = state.number := number_of_found found
    -- The same registry is found under its number, with the new index.
    have again : Hall.registry? (state.hall.publish registry) state.number =
        some { registry with
          index := Index.build state.hall.editions (state.hall.membersOf registry) } := by
      have changed := registry?_changeRegistry state.hall registry.number (fun held =>
        { held with index := Index.build state.hall.editions (state.hall.membersOf registry) })
        fun _ => rfl
      rw [← named] at found ⊢
      rw [found] at changed
      exact changed
    let next : Merging := { state with
        hall := state.hall.publish registry
        shown := state.members.map state.version }.reach caller (.merged version rounds)
    have stays : next.calls[caller]? = some { call with stage := .merged version rounds } := by
      show (state.calls.modify _ _)[caller]? = _
      rw [List.getElem?_modify_eq, called]
      rfl
    rw [List.replicate_succ, List.flatten_cons, play_append,
      play_rebuildSteps state found members free called merged, List.replicate_succ, List.foldl_cons, told]
    exact ih next again members free stays rfl

/-- A merge that comes to a stage is at that stage. -/
theorem stage?_reach {caller : Nat} {call : Call} (called : state.calls[caller]? = some call)
    (stage : Stage) : (state.reach caller stage).stage? caller = some stage := by
  -- The merge at the place of the caller is the one that moves on.
  show ((state.calls.modify _ _)[caller]?).map _ = _
  rw [List.getElem?_modify_eq, called]
  rfl

/-- A merge that has been called can go on without interruption, as a merge does at once. -/
theorem exists_play_change (found : state.hall.registry? state.number = some registry)
    (members : registry.members = state.members) (free : state.rebuilding = none)
    {caller : Nat} {call : Call} (called : state.calls[caller]? = some call)
    (waits : call.stage = .called) {shelf : Shelf}
    (here : state.hall.shelves[call.position]? = some shelf)
    (alone : ∀ listener ∈ shelf.listeners, listener = .registry state.number) :
    ∃ steps last, state.play steps = last ∧
      last.hall = (state.hall.merge call.position call.batch).value.1 ∧ last.rebuilding = none ∧
      ∃ version, last.stage? caller = some (.returned version) := by
  have change : state.step (.change caller) = state.change caller call shelf := by
    simp only [Merging.step, called, waits, here]
  rw [value_merge state.hall here]
  by_cases nothing : (shelf.collection.merge call.batch).2 = 0
  · -- Nobody is told of a merge of nothing.
    refine ⟨[.change caller], _, change, ?_⟩
    rw [Merging.change, if_pos nothing, if_pos nothing]
    exact ⟨rfl, free, none, stage?_reach state called _⟩
  · -- The registry is told once for each time that it listens.
    have heard : shelf.listeners.count (.registry state.number) = shelf.listeners.length :=
      List.count_eq_length.mpr fun listener member => (alone listener member).symm
    let told := (state.changed call.position shelf call.batch).reach caller
      (.merged (state.version call.position + 1) shelf.listeners.length)
    have changes : state.change caller call shelf = told := by
      rw [Merging.change, if_neg nothing, subscriptions, here, Option.elim_some, heard]
      rfl
    have merged : told.stage? caller =
        some (.merged (state.version call.position + 1) shelf.listeners.length) :=
      stage?_reach (state.changed call.position shelf call.batch) called _
    obtain ⟨other, stands, stage⟩ := Option.map_eq_some_iff.mp merged
    obtain ⟨hall, unlocked, last⟩ := play_rounds told found members free
      (shelf.collection.merge call.batch).1 shelf.listeners.length stands stage
    obtain ⟨ended, there, _⟩ := Option.map_eq_some_iff.mp last
    refine ⟨.change caller :: ((List.replicate shelf.listeners.length
        (rebuildSteps caller told.members.length)).flatten ++ [.finish caller]), _, rfl, ?_⟩
    have whole (steps : List Step) : state.play (.change caller :: steps) = told.play steps := by
      show (state.step (.change caller)).play steps = _
      rw [change, changes]
    have finish (earlier : Merging) : earlier.play [.finish caller] = earlier.step (.finish caller) :=
      rfl
    rw [if_neg nothing, whole, play_append, finish, step_finish _ last]
    refine ⟨hall.trans ?_, unlocked, _, stage?_reach _ there _⟩
    exact congrArg (List.foldl _ _) (List.eq_replicate_of_mem alone).symm

/-- A merge can take place without interruption, and then it does what a merge does at once.

This is what happens where nobody but the registry listens to the collection. -/
theorem exists_play_merge (found : state.hall.registry? state.number = some registry)
    (members : registry.members = state.members) (free : state.rebuilding = none)
    {position : Nat} {shelf : Shelf} (here : state.hall.shelves[position]? = some shelf)
    (alone : ∀ listener ∈ shelf.listeners, listener = .registry state.number) (batch : Batch) :
    ∃ steps last, state.play (.call position batch :: steps) = last ∧
      last.hall = (state.hall.merge position batch).value.1 ∧ last.rebuilding = none ∧
      ∃ version, last.stage? state.calls.length = some (.returned version) := by
  have called : state.step (.call position batch) =
      { state with calls := state.calls ++ [⟨position, batch, .called⟩] } := by
    simp only [Merging.step]
    rw [if_pos (List.getElem?_eq_some_iff.mp here).1]
  let next : Merging := { state with calls := state.calls ++ [⟨position, batch, .called⟩] }
  have waits : next.calls[state.calls.length]? = some ⟨position, batch, .called⟩ :=
    List.getElem?_concat_length
  -- The merge comes last in the list of merges and goes through all its stages.
  obtain ⟨steps, last, ends, outcome⟩ :=
    exists_play_change next found members free waits rfl here alone
  refine ⟨steps, last, ?_, outcome⟩
  show (state.step (.call position batch)).play steps = last
  rw [called, ends]

end SolverHub.Hall.Merging
