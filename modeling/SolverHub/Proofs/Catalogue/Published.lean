import Mathlib.Data.List.Induction
import SolverHub.Proofs.Catalogue.Concurrent

/-! What lookups find while merges interleave: whole states, never older ones, and all there is in the end. -/

namespace SolverHub.Hall.Merging

variable {origin : Hall} {state : Merging}

/-- Where all versions shown are the last ones, the index shows the collections as they are. -/
theorem reading_versions (state : Merging) (shelves : ∀ place : Nat, state.hall.shelves[place]? =
      (origin.shelves[place]?).map fun shelf =>
        { shelf with collection := (shelf.collection.merges (batchesAt state.made place)).1 })
    (members : List Nat) :
    reading origin state.made members (members.map state.version) =
      members.filterMap state.hall.collection? := by
  -- Each member is paired with its own version.
  rw [reading, ← List.map_prod_left_eq_zip, List.filterMap_map]
  exact List.filterMap_congr fun position _ => (collection?_eq_stateAt shelves position).symm

/-- Nothing is going on at the start, so everything is in order. -/
theorem sound_start {hall : Hall} (mirrors : Mirrors [] hall) {registry : Registry}
    (registered : registry ∈ hall.registries) : Sound hall (start hall registry) := by
  have shelves (place : Nat) : hall.shelves[place]? = (hall.shelves[place]?).map fun shelf =>
      { shelf with collection := (shelf.collection.merges (batchesAt [] place)).1 } := by
    cases hall.shelves[place]? <;> rfl
  refine ⟨⟨shelves, ?_, ?_, List.length_map _, ?_⟩, ⟨nofun, nofun⟩, nofun⟩
  · exact mirrors.listens _ (List.mem_map_of_mem registered)
  · obtain ⟨edition, built⟩ :=
      (mirrors.current registry registered).resolve_left List.not_mem_nil
    refine ⟨edition, ?_⟩
    have whole := reading_versions (start hall registry) shelves registry.members
    show (hall.registry? registry.number).map _ =
      some (Index.build edition (reading hall [] registry.members (registry.members.map fun _ => 0)))
    rw [mirrors.registry?_eq registered, Option.map_some, built]
    exact congrArg (fun collections => some (Index.build edition collections)) whole.symm
  · -- Every version shown is the first one.
    intro entry member
    have zero := (List.of_mem_zip member).2
    obtain ⟨_, _, same⟩ := List.mem_map.mp zero
    exact same ▸ Nat.zero_le _

/-- Versions that advance twice advance. -/
theorem advances_trans {first second third : List Nat} (early : List.Forall₂ (· ≤ ·) first second)
    (late : List.Forall₂ (· ≤ ·) second third) : List.Forall₂ (· ≤ ·) first third := by
  -- The induction compares the versions one by one.
  induction early generalizing third with
  | nil =>
    cases late
    exact .nil
  | cons less _ ih =>
    cases late with
    | cons further late => exact .cons (less.trans further) (ih late)

/-- One state comes after another: batches are added, the index advances and what is over stays so. -/
structure Continues (state next : Merging) : Prop where
  members : next.members = state.members
  grows : state.made <+: next.made
  advances : List.Forall₂ (· ≤ ·) state.shown next.shown
  remains : ∀ call ∈ state.calls, call.stage.isReturned = true → call ∈ next.calls

/-- Every state comes after itself. -/
theorem Continues.refl (state : Merging) : Continues state state :=
  ⟨rfl, List.prefix_refl _, List.forall₂_refl _, fun _ member _ => member⟩

/-- What comes after a later state comes after an earlier one. -/
theorem Continues.trans {next last : Merging} (first : Continues state next)
    (second : Continues next last) : Continues state last where
  -- Whatever a later state keeps of an earlier one it keeps of the one before.
  members := second.members.trans first.members
  grows := first.grows.trans second.grows
  advances := advances_trans first.advances second.advances
  remains call member done := second.remains call (first.remains call member done) done

/-- A merge that comes to another stage was not over before. -/
theorem Continues.reach (state : Merging) {caller : Nat} {call : Call}
    (found : state.calls[caller]? = some call) (busy : call.stage.isReturned = false)
    (stage : Stage) :
    Continues state (state.reach caller stage) where
  members := rfl
  grows := List.prefix_refl _
  advances := List.forall₂_refl _
  -- The merge that moves on is the only one that changes, and it was not over.
  remains other member done := (mem_reach found member stage).resolve_left fun same => by
    rw [same, busy] at done
    cases done

/-- Every step leads to a state that comes after the one before. -/
theorem Sound.continues_step (sound : Sound origin state) (step : Step) :
    Continues state (state.step step) := by
  have moves := moves_step state step
  generalize state.step step = next at moves ⊢
  -- Only a change adds a batch, and only a publication changes what is shown.
  cases moves with
  | idle => exact .refl state
  | call batch here =>
    exact { Continues.refl state with remains := fun call member _ => List.mem_append_left _ member }
  | pass found called here nothing => exact .reach state found (by rw [called]; rfl) _
  | @change caller call shelf found called here =>
    let made := state.changed call.position shelf call.batch
    have changes : Continues state made :=
      { Continues.refl state with grows := List.prefix_append _ _ }
    exact changes.trans (.reach made found (by rw [called]; rfl) _)
  | lock found merged free => exact { Continues.refl state with }
  | read held next => exact { Continues.refl state with }
  | publish held complete =>
    exact { Continues.refl state with advances := sound.advances held complete }
  | @unlock rebuilding version left call held published found merged =>
    let free : Merging := { state with rebuilding := none }
    have unlocks : Continues state free := { Continues.refl state with }
    exact unlocks.trans (.reach free found (by rw [merged]; rfl) _)
  | finish found merged => exact .reach state found (by rw [merged]; rfl) _

/-- Any steps lead to a state that comes after the one before them. -/
theorem Sound.continues_play (sound : Sound origin state) (steps : List Step) :
    Continues state (state.play steps) := by
  -- The induction follows the steps, since everything stays in order.
  induction steps generalizing state with
  | nil => exact .refl state
  | cons step rest ih => exact (sound.continues_step step).trans (ih (sound.step step))

/-- A step adds at most one version to a collection. -/
theorem version_step (state : Merging) (step : Step) (position : Nat) :
    (state.step step).version position ≤ state.version position + 1 := by
  have moves := moves_step state step
  generalize state.step step = next at moves ⊢
  -- Nothing but a change adds a batch.
  cases moves with
  | @change caller call shelf found called here =>
    refine (version_changed call.position position shelf call.batch).le.trans ?_
    split <;> omega
  | _ => exact Nat.le_succ _

/-- Every version of a collection is a state that the collection has had. -/
theorem Sound.exists_prefix (sound : Sound origin state) (fresh : state.made = [])
    (steps : List Step) {position version : Nat}
    (reached : version ≤ (state.play steps).version position) :
    ∃ earlier, earlier <+: steps ∧ (state.play earlier).hall.collection? position =
      stateAt origin (state.play steps).made position version := by
  -- The induction adds a step at the end, which makes the last version or leaves the versions.
  induction steps using List.reverseRecOn with
  | nil =>
    refine ⟨[], List.prefix_refl _, ?_⟩
    have none : state.version position = 0 := by rw [Merging.version, fresh]; rfl
    have same : version = state.version position :=
      Nat.le_antisymm reached (none ▸ Nat.zero_le version)
    rw [same]
    exact collection?_eq_stateAt sound.shows.shelves position
  | append_singleton steps step ih =>
    have last : state.play (steps ++ [step]) = (state.play steps).step step :=
      List.foldl_concat _ _ _ _
    rw [last] at reached ⊢
    have before := sound.play steps
    by_cases earlier : version ≤ (state.play steps).version position
    · -- The collection had this version before the last step.
      obtain ⟨first, within, had⟩ := ih earlier
      refine ⟨first, within.trans (List.prefix_append _ _), had.trans ?_⟩
      exact (stateAt_grown (before.continues_step step).grows earlier).symm
    · have newest : version = ((state.play steps).step step).version position := by
        have more := version_step (state.play steps) step position
        omega
      refine ⟨steps ++ [step], List.prefix_refl _, ?_⟩
      rw [last, newest]
      exact collection?_eq_stateAt (before.step step).shows.shelves position

/-- Once all merges are over, the index shows the last version of every collection. -/
theorem Sound.shown_eq (sound : Sound origin state)
    (done : ∀ call ∈ state.calls, call.stage.isReturned = true) :
    state.shown = state.members.map state.version := by
  have complete := sound.shows.complete
  refine List.ext_getElem (by rw [List.length_map, complete]) fun place short _ => ?_
  rw [List.getElem_map]
  have member : (state.members[place], state.shown[place]) ∈ state.members.zip state.shown :=
    List.mem_of_getElem? (i := place) (List.getElem?_zip_eq_some.mpr
      ⟨List.getElem?_eq_getElem _, List.getElem?_eq_getElem short⟩)
  refine Nat.le_antisymm (sound.shows.reached _ member) ?_
  -- The merge that has made the last version is over, so its version is shown.
  cases last : state.version state.members[place] with
  | zero => exact Nat.zero_le _
  | succ count =>
    obtain ⟨call, called, here, made⟩ :=
      sound.follows.known state.members[place] count (by omega)
    have told : call.stage.told? = some (count + 1) := by
      have returned := done call called
      cases stage : call.stage with
      | returned version => rwa [stage] at made
      | _ => simp [stage, Stage.isReturned] at returned
    exact (sound.follows.tracked call called).told _ told _ member here.symm

/-- Where no member comes twice, versions of the members are versions of their positions. -/
theorem exists_version {members versions : List Nat} (once : members.Nodup)
    (complete : versions.length = members.length) :
    ∃ version : Nat → Nat, members.map version = versions := by
  -- The induction follows the members, of which the first one does not come again.
  induction members generalizing versions with
  | nil => exact ⟨id, (List.length_eq_zero_iff.mp complete).symm⟩
  | cons position rest ih =>
    obtain ⟨elsewhere, once⟩ := List.nodup_cons.mp once
    obtain ⟨number, numbers, rfl⟩ := List.exists_cons_of_length_eq_add_one complete
    obtain ⟨version, rfl⟩ := ih once (Nat.succ.inj complete)
    refine ⟨Function.update version position number, ?_⟩
    rw [List.map_cons, Function.update_self]
    refine congrArg (number :: ·) (List.map_congr_left fun place member => ?_)
    exact Function.update_of_ne (fun same : place = position => elsewhere (same ▸ member)) _ _

/-- Where no member comes twice, what has been read is one state of each collection. -/
theorem exists_reading (origin : Hall) (made : List (Nat × Batch)) {members versions : List Nat}
    (once : members.Nodup) (complete : versions.length = members.length) :
    ∃ version : Nat → Nat, reading origin made members versions =
      members.filterMap fun position => stateAt origin made position (version position) := by
  obtain ⟨version, rfl⟩ := exists_version once complete
  refine ⟨version, ?_⟩
  -- Each member is paired with the version of its position.
  rw [reading, ← List.map_prod_left_eq_zip, List.filterMap_map]
  rfl

/-- What has been read of the collections of a hall is in order. -/
theorem sorted_reading {hall : Hall} (mirrors : Mirrors [] hall) {made : List (Nat × Batch)}
    {members versions : List Nat} {collection : Collection}
    (member : collection ∈ reading hall made members versions) :
    Keyed.Sorted collection.authors := by
  obtain ⟨entry, _, stood⟩ := List.mem_filterMap.mp member
  obtain ⟨early, found, rfl⟩ := Option.map_eq_some_iff.mp stood
  rw [collection?, collections, List.getElem?_map, Option.map_eq_some_iff] at found
  obtain ⟨shelf, here, rfl⟩ := found
  -- Merges keep the authors in order, from those that the hall held before.
  obtain ⟨_, holds⟩ := mirrors.merged _ shelf here
  exact (holds.merges _).sorted

/-- However merges interleave, what lookups find in a registry is up to date.

For each entry in its list of collections the index is built from a state that the collection has had
between two merges, in which a lookup finds the last problem that it addresses. So the index is built
from one state of each collection where none is listed twice. Once a merge has returned, no index is
shown that is older than it, and no index is followed by an older one. While no merge takes place the
index is that of the collections as they are. -/
theorem published_play (places : List (String × Year × String × Path)) (actions : List Action)
    {registry : Registry} (registered : registry ∈ (after places actions).registries)
    (steps : List Step) :
    let origin := after places actions
    let state := (start origin registry).play steps
    (∃ index, state.index? = some index ∧
      (∃ edition, index = Index.build edition
        (reading origin state.made registry.members state.shown)) ∧
      ∀ id, (index.get? id).map (·.problem) =
        (Index.matching (reading origin state.made registry.members state.shown) id).getLast?) ∧
    (state.shown.length = registry.members.length ∧
      ∀ entry ∈ registry.members.zip state.shown, ∃ earlier, earlier <+: steps ∧
        ((start origin registry).play earlier).hall.collection? entry.1 =
          stateAt origin state.made entry.1 entry.2) ∧
    (registry.members.Nodup → ∃ (edition : Nat) (version : Nat → Nat), state.index? =
      some (Index.build edition (registry.members.filterMap fun position =>
        stateAt origin state.made position (version position)))) ∧
    (∀ call ∈ state.calls, ∀ version, call.stage = .returned (some version) →
      ∃ count, version = count + 1 ∧ ∀ more, call ∈ (state.play more).calls ∧
        (batchesAt (state.play more).made call.position)[count]? = some call.batch ∧
        Covers registry.members (state.play more).shown call.position version) ∧
    (∀ call ∈ state.calls, call.stage = .returned none → ∀ collection,
      origin.collection? call.position = some collection → call.batch.countP collection.owns = 0) ∧
    (∀ more, List.Forall₂ (· ≤ ·) state.shown (state.play more).shown) ∧
    ((∀ call ∈ state.calls, call.stage.isReturned = true) →
      ∃ edition, state.index? = some (Index.build edition (state.hall.membersOf registry))) := by
  intro origin state
  have mirrors : Mirrors [] origin := mirrors_after places actions
  have first : Sound origin (start origin registry) := sound_start mirrors registered
  have sound : Sound origin state := first.play steps
  have members : state.members = registry.members := (first.continues_play steps).members
  refine ⟨?_, ⟨members ▸ sound.shows.complete, fun entry member => ?_⟩,
    fun once => ?_, fun call called version returned => ?_,
    fun call called => (sound.follows.tracked call called).passed,
    fun more => (sound.continues_play more).advances, fun done => ?_⟩
  · -- Lookups go by what the collections had when they were read.
    obtain ⟨edition, built⟩ := sound.shows.current
    rw [members] at built
    exact ⟨_, built, ⟨edition, rfl⟩, fun id =>
      Index.problem_get?_build edition (fun _ member => sorted_reading mirrors member) id⟩
  · exact first.exists_prefix rfl steps (sound.shows.reached entry (members ▸ member))
  · -- Entries of different collections have versions of their own.
    obtain ⟨edition, built⟩ := sound.shows.current
    obtain ⟨version, same⟩ :=
      exists_reading origin state.made (members ▸ once) sound.shows.complete
    exact ⟨edition, version, built.trans (by rw [same, members])⟩
  · -- A merge that has returned stays as it is, and what is shown only advances.
    obtain ⟨count, same, _⟩ :=
      (sound.follows.tracked call called).numbered version (by rw [returned]; rfl)
    refine ⟨count, same, fun more => ?_⟩
    have continues := sound.continues_play more
    have stays := continues.remains call called (by rw [returned]; rfl)
    have tracked := (sound.play more).follows.tracked call stays
    obtain ⟨_, again, batch⟩ := tracked.numbered version (by rw [returned]; rfl)
    have shown := tracked.told version (by rw [returned]; rfl)
    rw [continues.members, members] at shown
    exact ⟨stays, Nat.succ.inj (same.symm.trans again) ▸ batch, shown⟩
  · obtain ⟨edition, built⟩ := sound.shows.current
    refine ⟨edition, built.trans ?_⟩
    rw [sound.shown_eq done, reading_versions state sound.shows.shelves, members]
    rfl

/-- A set with a name, which takes the place of any other set of its author in a collection. -/
def namedSet (name : String) : ProblemSet :=
  ⟨name, ⟨2023, 12, 2, 18000, 0, by decide⟩, [⟨"Part 1", none, fun _ _ => ⟨[], .ok ()⟩⟩], false, 0⟩

/-- The problem of a set with a name that ann has in one of two places. -/
def address (name : String) : Identifier := ⟨"Advent of Code", 2023, "ann", name, "Part 1"⟩

/-- The names, of some, under which the index shown leads to a problem. -/
def leadsTo (state : Merging) (names : List String) : List String :=
  names.filter fun name => (state.index?.bind (·.get? (address name))).isSome

/-- Two merges, of which the second changes its collection between the two readings of the first. -/
def slipping : List Step :=
  [.call 0 [(.inside "first::ann", namedSet "early")],
    .call 1 [(.inside "second::ann", namedSet "late")], .change 0, .lock 0, .read, .change 1, .read,
    .publish, .unlock, .finish 0]

/-- The registry is told of the second merge as well. -/
def catchingUp : List Step :=
  [.lock 1, .read, .read, .publish, .unlock, .finish 1]

/-- A merge that has slipped in is missed by one index and shown by the next one. -/
theorem published_play_slipping :
    ∃ registry ∈ (after twoPlaces [.openRegistry [1, 0]]).registries,
      let state := (start (after twoPlaces [.openRegistry [1, 0]]) registry).play slipping
      let last := state.play catchingUp
      state.shown = [0, 1] ∧ state.leadsTo ["early", "late"] = ["early"] ∧
      (∃ call ∈ state.calls, call.stage = .returned (some 1) ∧
        Covers registry.members last.shown call.position 1) ∧
      last.shown = [1, 1] ∧ last.leadsTo ["early", "late"] = ["early", "late"] ∧
      ∃ edition, last.index? = some (Index.build edition (last.hall.membersOf registry)) := by
  obtain ⟨registry, registered⟩ :
      ∃ registry, registry ∈ (after twoPlaces [.openRegistry [1, 0]]).registries :=
    List.exists_mem_of_length_pos (by decide +kernel)
  have run : ∀ registry ∈ (after twoPlaces [.openRegistry [1, 0]]).registries,
      let state := (start (after twoPlaces [.openRegistry [1, 0]]) registry).play slipping
      let last := state.play catchingUp
      (state.shown = [0, 1] ∧ state.leadsTo ["early", "late"] = ["early"]) ∧
        (∃ call ∈ state.calls, call.stage = .returned (some 1)) ∧
        (last.shown = [1, 1] ∧ last.leadsTo ["early", "late"] = ["early", "late"]) ∧
        ∀ call ∈ last.calls, call.stage.isReturned = true := by
    decide +kernel
  obtain ⟨⟨early, one⟩, ⟨call, called, returned⟩, ⟨late, both⟩, done⟩ := run registry registered
  -- The first merge is shown from its return on, and both are when the second one has returned.
  obtain ⟨_, _, _, shows, _⟩ := published_play twoPlaces [.openRegistry [1, 0]] registered slipping
  obtain ⟨_, _, _, _, _, _, whole⟩ :=
    published_play twoPlaces [.openRegistry [1, 0]] registered (slipping ++ catchingUp)
  obtain ⟨_, _, later⟩ := shows call called 1 returned
  rw [Merging.play, List.foldl_append] at whole
  exact ⟨registry, registered, early, one, ⟨call, called, returned, (later catchingUp).2.2⟩, late,
    both, whole done⟩

/-- Two merges into one collection, of which the second changes it between two readings of it. -/
def doubling : List Step :=
  [.call 0 [(.inside "first::ann", namedSet "early")],
    .call 0 [(.inside "first::ann", namedSet "late")], .change 0, .lock 0, .read, .change 1, .read,
    .publish]

/-- A registry that lists one collection twice. -/
def pairing : Registry :=
  (after twoPlaces [.openRegistry [0, 0]]).registries.head (by decide +kernel)

/-- Both merges have changed their collection, and the index of the first one is shown. -/
def doubled : Merging := (start (after twoPlaces [.openRegistry [0, 0]]) pairing).play doubling

/-- A state of the collection, for each of the two entries that list it. -/
def twice (version : Nat) : List Collection :=
  [0, 0].filterMap fun _ => stateAt (after twoPlaces [.openRegistry [0, 0]]) doubled.made 0 version

/-- Behind the last version of a collection come no further ones. -/
theorem stateAt_min (origin : Hall) (made : List (Nat × Batch)) (position version : Nat) :
    stateAt origin made position (min version (batchesAt made position).length) =
      stateAt origin made position version := by
  -- No batches are left behind the last one.
  rw [stateAt, stateAt, ← List.take_eq_take_min]

/-- The index of one state of the collection misses the set of one merge. -/
theorem get?_twice (edition version : Nat) :
    ∃ name ∈ ["early", "late"], (Index.build edition (twice version)).get? (address name) = none := by
  -- The collection is changed twice, so that it has three versions.
  have last : twice (min version 2) = twice version := by
    have changes : (batchesAt doubled.made 0).length = 2 := rfl
    rw [twice, ← changes, stateAt_min, twice]
  have states : ∀ count < 3,
      (∀ collection ∈ twice count,
        collection.authors.Pairwise fun first second => first.1 < second.1) ∧
      ∃ name ∈ ["early", "late"], (Index.matching (twice count) (address name)).isEmpty := by
    decide +kernel
  obtain ⟨sorted, name, brought, nowhere⟩ := states (min version 2) (by omega)
  rw [last] at sorted nowhere
  have found := @Index.problem_get?_build edition _ sorted (address name)
  rw [List.isEmpty_iff.mp nowhere, List.getLast?_nil, Option.map_eq_none_iff] at found
  exact ⟨name, brought, found⟩

/-- An index of a collection that is listed twice may show two of its states at once. -/
theorem not_published_play_doubling :
    ¬∀ (places : List (String × Year × String × Path)) (actions : List Action),
      ∀ registry ∈ (after places actions).registries, ∀ steps : List Step,
        let origin := after places actions
        let state := (start origin registry).play steps
        ∃ (edition : Nat) (version : Nat → Nat), state.index? =
          some (Index.build edition (registry.members.filterMap fun position =>
            stateAt origin state.made position (version position))) := by
  intro whole
  obtain ⟨edition, version, built⟩ := whole twoPlaces [.openRegistry [0, 0]] pairing
    (List.head_mem _) doubling
  replace built : doubled.index? = some (Index.build edition (twice (version 0))) := built
  -- The index shows the sets of both merges.
  have shows : doubled.leadsTo ["early", "late"] = ["early", "late"] := by decide +kernel
  obtain ⟨name, brought, nowhere⟩ := get?_twice edition (version 0)
  rw [← shows, leadsTo, List.mem_filter, built, Option.bind_some, nowhere] at brought
  cases brought.2

end SolverHub.Hall.Merging
