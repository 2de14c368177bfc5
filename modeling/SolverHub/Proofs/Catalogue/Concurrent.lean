import SolverHub.Proofs.Catalogue.Merging
import SolverHub.Proofs.Catalogue.Mirror

/-! However merges interleave, an index shows whole states and never loses a merge that has returned. -/

namespace SolverHub.Hall.Merging

/-- The index shows states that the collections have had. -/
structure Shows (origin : Hall) (state : Merging) : Prop where
  shelves : ∀ place : Nat, state.hall.shelves[place]? =
    (origin.shelves[place]?).map fun shelf =>
      { shelf with collection := (shelf.collection.merges (batchesAt state.made place)).1 }
  listens : ∀ member ∈ state.members, ∀ shelf : Shelf,
    state.hall.shelves[member]? = some shelf → .registry state.number ∈ shelf.listeners
  current : ∃ edition, state.index? =
    some (Index.build edition (reading origin state.made state.members state.shown))
  complete : state.shown.length = state.members.length
  reached : Reached state.made state.members state.shown

/-- A merge has changed its collection in its turn, and is shown once the registry knows of it. -/
structure Tracked (origin : Hall) (state : Merging) (call : Call) : Prop where
  numbered : ∀ version, call.stage.version? = some version → ∃ count, version = count + 1 ∧
    (batchesAt state.made call.position)[count]? = some call.batch
  told : ∀ version, call.stage.told? = some version →
    Covers state.members state.shown call.position version
  passed : call.stage = .returned none → ∀ collection,
    origin.collection? call.position = some collection → call.batch.countP collection.owns = 0

/-- Every version of a collection was made by a merge, and every merge is tracked. -/
structure Follows (origin : Hall) (state : Merging) : Prop where
  known : ∀ position count, count < state.version position →
    ∃ call ∈ state.calls, call.position = position ∧ call.stage.version? = some (count + 1)
  tracked : ∀ call ∈ state.calls, Tracked origin state call

/-- A rebuilding has read states that are not older than those shown.

They are not older than the one that its caller has made either. -/
structure Reads (origin : Hall) (state : Merging) (rebuilding : Rebuilding) : Prop where
  collections : rebuilding.collections =
    reading origin state.made state.members rebuilding.versions
  reached : Reached state.made state.members rebuilding.versions
  advances : List.Forall₂ (· ≤ ·) (state.shown.take rebuilding.versions.length) rebuilding.versions
  published : rebuilding.published = true → state.shown = rebuilding.versions
  caller : ∃ call version left, state.calls[rebuilding.caller]? = some call ∧
    call.stage = .merged version (left + 1) ∧
    Covers state.members rebuilding.versions call.position version

/-- The index, the merges and the rebuilding at work are all in order. -/
structure Sound (origin : Hall) (state : Merging) : Prop where
  shows : Shows origin state
  follows : Follows origin state
  reads : ∀ rebuilding, state.rebuilding = some rebuilding → Reads origin state rebuilding

variable {origin : Hall} {state : Merging}

/-- A collection that has only been merged into is in the state after all of its batches. -/
theorem collection?_eq_stateAt (shelves : ∀ place : Nat, state.hall.shelves[place]? =
      (origin.shelves[place]?).map fun shelf =>
        { shelf with collection := (shelf.collection.merges (batchesAt state.made place)).1 })
    (position : Nat) :
    state.hall.collection? position =
      stateAt origin state.made position (state.version position) := by
  -- The first batches up to the last version are all of them.
  rw [stateAt, version, List.take_length, Hall.collection?, Hall.collection?, collections,
    collections, List.getElem?_map, List.getElem?_map, shelves]
  cases origin.shelves[position]? <;> rfl

section Reach

variable {caller : Nat} {call other : Call} {stage : Stage}

/-- The other merges are as before when one comes to another stage. -/
theorem reach_ne {place : Nat} (others : caller ≠ place) :
    (state.reach caller stage).calls[place]? = state.calls[place]? :=
  -- One place of the list of merges is modified.
  List.getElem?_modify_ne _ _ others

/-- The merge that comes to another stage is among the merges after it. -/
theorem mem_reach_self (found : state.calls[caller]? = some call) :
    { call with stage := stage } ∈ (state.reach caller stage).calls := by
  -- The merge stays at its place in the list.
  refine List.mem_of_getElem? (i := caller) ?_
  rw [reach, List.getElem?_modify_eq, found]
  rfl

/-- Any merge is either the one that comes to another stage or stays as it is. -/
theorem mem_reach (found : state.calls[caller]? = some call) (member : other ∈ state.calls)
    (stage : Stage) : other = call ∨ other ∈ (state.reach caller stage).calls := by
  obtain ⟨place, there⟩ := List.mem_iff_getElem?.mp member
  -- The merge at the caller's place is the one that moves on.
  by_cases here : caller = place
  · rw [← here, found] at there
    exact .inl (Option.some.inj there).symm
  · refine .inr (List.mem_of_getElem? (i := place) ?_)
    rw [reach_ne here, there]

/-- A merge after another one has come to a stage is that one or was there before. -/
theorem of_mem_reach (found : state.calls[caller]? = some call)
    (member : other ∈ (state.reach caller stage).calls) :
    other = { call with stage := stage } ∨ other ∈ state.calls := by
  obtain ⟨place, there⟩ := List.mem_iff_getElem?.mp member
  rw [reach, List.getElem?_modify] at there
  -- Only the caller's place holds another merge than before.
  by_cases here : caller = place
  · rw [← here, found] at there
    exact .inl (by simpa using there.symm)
  · refine .inr (List.mem_of_getElem? (i := place) ?_)
    simpa [here] using there

/-- A merge that comes to a stage at which it is tracked leaves the others tracked. -/
theorem Follows.reach (follows : Follows origin state) (found : state.calls[caller]? = some call)
    (keeps : ∀ version, call.stage.version? = some version → stage.version? = some version)
    (tracked : Tracked origin state { call with stage := stage }) :
    Follows origin (state.reach caller stage) := by
  refine ⟨fun position count less => ?_, fun other member => ?_⟩
  · -- The merge that made a version keeps its number at the new stage.
    obtain ⟨other, member, here, made⟩ := follows.known position count less
    rcases mem_reach found member stage with same | stays
    · rw [same] at here made
      exact ⟨_, mem_reach_self found, here, keeps _ made⟩
    · exact ⟨other, stays, here, made⟩
  · have stays : Tracked origin state other := by
      rcases of_mem_reach found member with same | earlier
      · exact same ▸ tracked
      · exact follows.tracked other earlier
    exact ⟨stays.numbered, stays.told, stays.passed⟩

/-- A rebuilding goes on while another merge comes to some stage. -/
theorem Reads.reach {rebuilding : Rebuilding} (reads : Reads origin state rebuilding)
    (found : state.calls[caller]? = some call)
    (idle : ∀ version left, call.stage ≠ .merged version (left + 1)) :
    Reads origin (state.reach caller stage) rebuilding := by
  obtain ⟨teller, version, left, there, merged, covers⟩ := reads.caller
  -- The caller of the rebuilding is at a stage that the other merge is not at.
  have others : caller ≠ rebuilding.caller := by
    intro same
    rw [← same, found] at there
    exact idle version left (Option.some.inj there ▸ merged)
  refine ⟨reads.collections, reads.reached, reads.advances, reads.published, teller, version, left,
    ?_, merged, covers⟩
  rw [reach_ne others, there]

end Reach

/-- A merge stays tracked while collections and the index go on. -/
theorem Tracked.mono {next : Merging} {call : Call} (tracked : Tracked origin state call)
    (grows : state.made <+: next.made) (members : next.members = state.members)
    (advances : List.Forall₂ (· ≤ ·) state.shown next.shown) : Tracked origin next call := by
  refine ⟨fun version made => ?_, fun version told => ?_, tracked.passed⟩
  · -- Later batches come behind the batch of this merge.
    obtain ⟨count, same, batch⟩ := tracked.numbered version made
    obtain ⟨rest, longer⟩ := prefix_batchesAt grows call.position
    refine ⟨count, same, ?_⟩
    rw [← longer, List.getElem?_append_left (List.getElem?_eq_some_iff.mp batch).1, batch]
  · rw [members]
    exact (tracked.told version told).of_forall₂ advances

/-- A change adds one version to the collection that it changes. -/
theorem version_changed (position place : Nat) (shelf : Shelf) (batch : Batch) :
    (state.changed position shelf batch).version place =
      state.version place + if position = place then 1 else 0 := by
  -- The version counts the batches, and the new one counts for its position.
  rw [version, changed, batchesAt_concat, List.length_append, ← version]
  split <;> rfl

/-- The index shows what it has shown when a collection changes. -/
theorem Shows.changed (shows : Shows origin state) {position : Nat} {shelf : Shelf}
    (here : state.hall.shelves[position]? = some shelf) (batch : Batch) :
    Shows origin (state.changed position shelf batch) := by
  have grows : state.made <+: state.made ++ [(position, batch)] := List.prefix_append _ _
  refine ⟨fun place => ?_, fun member belongs held there => ?_, ?_, shows.complete,
    shows.reached.grown grows⟩
  · -- One more batch has been merged into the collection that has changed.
    show (state.hall.shelves.modify _ _)[place]? = _
    rw [List.getElem?_modify, shows.shelves, Merging.changed, batchesAt_concat]
    have first := shows.shelves position
    rw [here] at first
    obtain ⟨earlier, before, same⟩ := Option.map_eq_some_iff.mp first.symm
    by_cases stands : position = place
    · subst stands
      simp [before, ← same, Collection.fst_merges_concat]
    · simp [stands]
  · -- A change of the collection leaves the listeners.
    obtain ⟨earlier, before, same⟩ := shelf_changeShelf there
    have listening := shows.listens member belongs earlier before
    split at same
    · exact same ▸ listening
    · exact same ▸ listening
  · -- What the index shows was reached before the change.
    obtain ⟨edition, built⟩ := shows.current
    exact ⟨edition, built.trans (by rw [← reading_grown shows.reached grows]; rfl)⟩

/-- A registry that is told of no merge has no index that shows the collection. -/
theorem Shows.covers_of_subscriptions (shows : Shows origin state) {position : Nat} {shelf : Shelf}
    (here : state.hall.shelves[position]? = some shelf)
    (deaf : subscriptions state.hall state.number position = 0) (version : Nat) :
    Covers state.members state.shown position version := by
  intro entry member there
  have belongs : position ∈ state.members := there ▸ (List.of_mem_zip member).1
  -- A member would have the registry among its listeners.
  rw [subscriptions, here, Option.elim_some] at deaf
  exact absurd (shows.listens position belongs shelf here) (List.count_eq_zero.mp deaf)

section Steps

variable {caller : Nat} {call : Call} {shelf : Shelf}

/-- A merge may be called at any time. -/
theorem Sound.called (sound : Sound origin state) (position : Nat) (batch : Batch) :
    Sound origin { state with calls := state.calls ++ [⟨position, batch, .called⟩] } := by
  refine ⟨{ sound.shows with }, ⟨fun place count less => ?_, fun other member => ?_⟩,
    fun rebuilding held => ?_⟩
  · obtain ⟨other, member, made⟩ := sound.follows.known place count less
    exact ⟨other, List.mem_append_left _ member, made⟩
  · rcases List.mem_append.mp member with earlier | new
    · exact { sound.follows.tracked other earlier with }
    · -- A merge that has just been called has done nothing yet.
      rw [List.mem_singleton.mp new]
      exact ⟨nofun, nofun, nofun⟩
  · -- The merges before the new one keep their places.
    have reads := sound.reads rebuilding held
    obtain ⟨teller, version, left, there, merged, covers⟩ := reads.caller
    have stays : (state.calls ++ [⟨position, batch, .called⟩])[rebuilding.caller]? = some teller := by
      rw [List.getElem?_append_left (List.getElem?_eq_some_iff.mp there).1, there]
    exact { reads with caller := ⟨teller, version, left, stays, merged, covers⟩ }

/-- A merge of nothing is over at once. -/
theorem Sound.passed (sound : Sound origin state) (found : state.calls[caller]? = some call)
    (called : call.stage = .called) (here : state.hall.shelves[call.position]? = some shelf)
    (nothing : (shelf.collection.merge call.batch).2 = 0) :
    Sound origin (state.reach caller (.returned none)) := by
  refine ⟨{ sound.shows with }, sound.follows.reach found (by rw [called]; nofun)
    ⟨nofun, nofun, fun _ collection there => ?_⟩, fun rebuilding held =>
    (sound.reads rebuilding held).reach found (by rw [called]; nofun)⟩
  -- Merges leave the pairs that a collection has an author for.
  have merged := collection?_eq_stateAt sound.shows.shelves call.position
  rw [stateAt, there, Option.map_some, Hall.collection?, collections, List.getElem?_map, here,
    Option.map_some] at merged
  have owns : shelf.collection.owns = collection.owns := by
    rw [Option.some.inj merged]
    funext pair
    simp [Collection.owns, Collection.authorOf?_merges]
  rwa [Collection.merge, Collection.foldl_mergeOne_snd, Nat.zero_add, owns] at nothing

/-- A merge changes its collection. -/
theorem Sound.changed (sound : Sound origin state) (found : state.calls[caller]? = some call)
    (called : call.stage = .called) (here : state.hall.shelves[call.position]? = some shelf) :
    Sound origin ((state.changed call.position shelf call.batch).reach caller
      (.merged (state.version call.position + 1)
        (subscriptions state.hall state.number call.position))) := by
  have grows : state.made <+: state.made ++ [(call.position, call.batch)] := List.prefix_append _ _
  have shows := sound.shows.changed here call.batch
  have found' : (state.changed call.position shelf call.batch).calls[caller]? = some call := found
  refine ⟨{ shows with }, ⟨fun position count less => ?_, fun other member => ?_⟩,
    fun rebuilding held => ?_⟩
  · by_cases new : call.position = position ∧ count = state.version position
    · -- The newest version is the one that this merge has made.
      refine ⟨_, mem_reach_self found', new.1, ?_⟩
      rw [new.2, ← new.1]
      rfl
    · have earlier : count < state.version position := by
        have bound : count < (state.changed call.position shelf call.batch).version position := less
        rw [version_changed] at bound
        split at bound <;> omega
      obtain ⟨other, member, there, made⟩ := sound.follows.known position count earlier
      rcases mem_reach found' member _ with same | stays
      · rw [same, called] at made
        cases made
      · exact ⟨other, stays, there, made⟩
  · rcases of_mem_reach found' member with same | earlier
    · subst same
      refine ⟨fun version made => ⟨_, (Option.some.inj made).symm, ?_⟩, fun version told => ?_, nofun⟩
      · show (batchesAt (state.made ++ _) call.position)[_]? = _
        rw [batchesAt_concat, if_pos rfl, Merging.version, List.getElem?_concat_length]
      · -- Only a registry without the collection need not be told of the merge.
        cases deaf : subscriptions state.hall state.number call.position with
        | zero => exact sound.shows.covers_of_subscriptions here deaf version
        | succ more =>
          rw [deaf] at told
          cases told
    · exact (sound.follows.tracked other earlier).mono grows rfl (List.forall₂_refl _)
  · have reads := sound.reads rebuilding held
    refine Reads.reach ?_ found' (by rw [called]; nofun)
    -- What the rebuilding has read so far are states from before the change.
    refine { reads with
      collections := ?_
      reached := reads.reached.grown grows }
    rw [reads.collections]
    exact (reading_grown reads.reached grows).symm

/-- A registry that has been told of a merge takes its lock. -/
theorem Sound.locked (sound : Sound origin state) {version left : Nat}
    (found : state.calls[caller]? = some call) (merged : call.stage = .merged version (left + 1)) :
    Sound origin { state with rebuilding := some ⟨caller, [], [], false⟩ } := by
  refine ⟨{ sound.shows with },
    ⟨sound.follows.known, fun other member => { sound.follows.tracked other member with }⟩,
    fun rebuilding held => ?_⟩
  -- Nothing has been read yet.
  rw [← Option.some.inj held]
  have nothing : state.members.zip ([] : List Nat) = [] := List.zip_nil_right
  refine ⟨?_, fun entry member => ?_, ?_, nofun, call, version, left, found, merged,
    fun entry member => ?_⟩
  · rw [reading, nothing]
    rfl
  · exact absurd (nothing ▸ member) List.not_mem_nil
  · exact List.Forall₂.nil
  · exact absurd (nothing ▸ member) List.not_mem_nil

/-- A registry reads the next one of its collections. -/
theorem Sound.read (sound : Sound origin state) {rebuilding : Rebuilding} {position : Nat}
    (held : state.rebuilding = some rebuilding)
    (next : state.members[rebuilding.versions.length]? = some position) :
    Sound origin (state.read rebuilding position) := by
  refine ⟨{ sound.shows with },
    ⟨sound.follows.known, fun other member => { sound.follows.tracked other member with }⟩,
    fun following read => ?_⟩
  have reads := sound.reads rebuilding held
  obtain ⟨teller, version, left, there, merged, covers⟩ := reads.caller
  rw [← Option.some.inj read]
  refine ⟨?_, reads.reached.concat next, ?_, ?_, teller, version, left, there, merged, ?_⟩
  · show rebuilding.collections ++ _ = reading origin state.made state.members
      (rebuilding.versions ++ [state.version position])
    rw [reading_concat next, reads.collections, collection?_eq_stateAt sound.shows.shelves]
  · -- The version that is shown has been reached, and what is read now is the last one.
    have short : rebuilding.versions.length < state.shown.length :=
      sound.shows.complete ▸ (List.getElem?_eq_some_iff.mp next).1
    have reached := sound.shows.reached (position, state.shown[_]) (List.mem_of_getElem?
      (List.getElem?_zip_eq_some.mpr ⟨next, List.getElem?_eq_getElem short⟩))
    show List.Forall₂ _ (state.shown.take (rebuilding.versions ++ [_]).length) _
    rw [List.length_append, List.length_singleton, List.take_add_one,
      List.getElem?_eq_getElem short]
    exact List.rel_append reads.advances (.cons reached .nil)
  · -- Nothing is left to read once the index has been published.
    intro published
    have all := (congrArg List.length (reads.published published)).symm.trans sound.shows.complete
    exact absurd (List.getElem?_eq_some_iff.mp next).1 (Nat.not_lt.mpr all.ge)
  · -- The caller has made its version before, so the collection has come to it.
    obtain ⟨count, same, batch⟩ :=
      (sound.follows.tracked teller (List.mem_of_getElem? there)).numbered version
        (by rw [merged]; rfl)
    exact covers.concat next (same ▸ (List.getElem?_eq_some_iff.mp batch).1)

/-- What a registry has read completely is not older than what its index shows. -/
theorem Sound.advances (sound : Sound origin state) {rebuilding : Rebuilding}
    (held : state.rebuilding = some rebuilding)
    (complete : rebuilding.versions.length = state.members.length) :
    List.Forall₂ (· ≤ ·) state.shown rebuilding.versions := by
  -- A complete reading has a version for each one shown, so none is cut off.
  have whole := (sound.reads rebuilding held).advances
  rwa [complete, ← sound.shows.complete, List.take_length] at whole

/-- A registry publishes the index of what it has read. -/
theorem Sound.published (sound : Sound origin state) {rebuilding : Rebuilding}
    (held : state.rebuilding = some rebuilding)
    (complete : rebuilding.versions.length = state.members.length) :
    Sound origin (state.publish rebuilding) := by
  have reads := sound.reads rebuilding held
  have shows := sound.shows
  refine ⟨⟨shows.shelves, shows.listens, ⟨state.hall.editions, ?_⟩, complete, reads.reached⟩,
    ⟨sound.follows.known, fun other member =>
      (sound.follows.tracked other member).mono (List.prefix_refl _) rfl
        (sound.advances held complete)⟩,
    fun following published => ?_⟩
  · -- The registry with the number is the one whose index is replaced.
    obtain ⟨edition, before⟩ := shows.current
    obtain ⟨registry, found, _⟩ := Option.map_eq_some_iff.mp before
    have changed := registry?_changeRegistry state.hall state.number (fun registry =>
      { registry with index := Index.build state.hall.editions rebuilding.collections }) fun _ => rfl
    show (Hall.registry? (state.hall.changeRegistry state.number _) state.number).map _ = _
    rw [changed, found, reads.collections]
    rfl
  · rw [← Option.some.inj published]
    refine ⟨reads.collections, reads.reached, ?_, fun _ => rfl, reads.caller⟩
    show List.Forall₂ _ (rebuilding.versions.take rebuilding.versions.length) _
    rw [List.take_length]
    exact List.forall₂_refl _

/-- A registry gives its lock back, and its caller goes on. -/
theorem Sound.unlocked (sound : Sound origin state) {rebuilding : Rebuilding} {version left : Nat}
    (held : state.rebuilding = some rebuilding) (published : rebuilding.published = true)
    (found : state.calls[rebuilding.caller]? = some call)
    (merged : call.stage = .merged version (left + 1)) :
    Sound origin ({ state with rebuilding := none }.reach rebuilding.caller
      (.merged version left)) := by
  have reads := sound.reads rebuilding held
  have follows : Follows origin { state with rebuilding := none } :=
    ⟨sound.follows.known, fun other member => { sound.follows.tracked other member with }⟩
  have tracked := follows.tracked call (List.mem_of_getElem? found)
  refine ⟨{ sound.shows with }, follows.reach found (by rw [merged]; exact fun _ same => same)
    ⟨fun other made => tracked.numbered other (by rw [merged]; exact made), fun other told => ?_,
      nofun⟩, nofun⟩
  -- What is shown now was read after the merge, since its caller has held the lock.
  obtain ⟨teller, earlier, _, there, stage, covers⟩ := reads.caller
  rw [found] at there
  rw [← Option.some.inj there, merged] at stage
  rw [← reads.published published, ← Option.some.inj there, ← (Stage.merged.inj stage).1] at covers
  cases left with
  | zero =>
    rw [← Option.some.inj told]
    exact covers
  | succ left => cases told

/-- A merge returns when all registries have been told of it. -/
theorem Sound.finished (sound : Sound origin state) {version : Nat}
    (found : state.calls[caller]? = some call) (merged : call.stage = .merged version 0) :
    Sound origin (state.reach caller (.returned (some version))) := by
  -- The version that the merge returns is the one it had made, which is shown already.
  have tracked := sound.follows.tracked call (List.mem_of_getElem? found)
  exact ⟨{ sound.shows with }, sound.follows.reach found (by rw [merged]; exact fun _ same => same)
    ⟨fun other made => tracked.numbered other (by rw [merged]; exact made),
      fun other told => tracked.told other (by rw [merged]; exact told), nofun⟩,
    fun rebuilding held => (sound.reads rebuilding held).reach found (by rw [merged]; nofun)⟩

/-- Everything stays in order with every step. -/
theorem Sound.step (sound : Sound origin state) (step : Step) : Sound origin (state.step step) := by
  -- There is one lemma for each thing that a step can do.
  have moves := moves_step state step
  generalize state.step step = next at moves ⊢
  cases moves with
  | idle => exact sound
  | call batch here => exact sound.called _ batch
  | pass found called here nothing => exact sound.passed found called here nothing
  | change found called here => exact sound.changed found called here
  | lock found merged free => exact sound.locked found merged
  | read held next => exact sound.read held next
  | publish held complete => exact sound.published held complete
  | unlock held published found merged => exact sound.unlocked held published found merged
  | finish found merged => exact sound.finished found merged

/-- Everything stays in order with any steps. -/
theorem Sound.play (sound : Sound origin state) (steps : List Step) :
    Sound origin (state.play steps) := by
  -- The induction follows the steps.
  induction steps generalizing state with
  | nil => exact sound
  | cons step rest ih => exact ih (sound.step step)

end Steps

end SolverHub.Hall.Merging
