import Mathlib
import SolverHub.Proofs.Files.Built
import SolverHub.Proofs.Hub.Merged

/-! Reloading never loses an edit: at rest, every source that was written has been loaded as it was written last. -/

namespace SolverHub.Hub

/-- The last reading at a location, where it stands for sets, is the last one there that does. -/
theorem lastAt_results {compiler : Compiler Image} {readings : List Reading} {location : Location}
    {reading : Reading} {sets : List ProblemSet}
    (last : lastAt Reading.location readings location = some reading)
    (result : reading.result? compiler = some (reading, sets)) :
    lastAt (fun merge => merge.1.location) (readings.filterMap (Reading.result? compiler)) location =
      some (reading, sets) := by
  -- The induction looks at the last reading, which is the one or lies elsewhere.
  induction readings using List.reverseRecOn with
  | nil => cases last
  | append_singleton readings latest ih =>
    rw [lastAt_concat] at last
    rw [List.filterMap_append]
    by_cases here : latest.location = some location
    · rw [if_pos here] at last
      cases last
      rw [List.filterMap_cons_some result, List.filterMap_nil, lastAt_concat, if_pos here]
    · rw [if_neg here] at last
      cases other : latest.result? compiler with
      | none => rw [List.filterMap_cons_none other, List.filterMap_nil, List.append_nil, ih last]
      | some merge =>
        -- The sets that come from a reading come with it.
        have elsewhere : merge.1.location ≠ some location := by
          unfold Reading.result? at other
          split at other
          · cases other
            exact here
          · cases other
        rw [List.filterMap_cons_some other, List.filterMap_nil, lastAt_concat, if_neg elsewhere,
          ih last]

namespace Loading

variable {origin : Hub} {state : Loading}

/-- Nothing is about to be merged while the lock is free. -/
theorem Sound.late_of_free (sound : Sound origin state) (free : state.lock = none) :
    late state.jobs = [] := by
  -- A task is past waiting only with the lock.
  have waits (task : Task) : (state.jobs task).phase = .waiting := sound.alone (by rw [free]; nofun)
  rw [late, waits .bulk, waits .reload]
  rfl

/-- The sets of at most one source are about to be merged. -/
theorem Sound.length_late_le (sound : Sound origin state) : (late state.jobs).length ≤ 1 := by
  -- Only a loader with the lock has sets to merge, and there is one lock.
  cases locked : state.lock with
  | none =>
    rw [sound.late_of_free locked]
    exact Nat.zero_le 1
  | some task =>
    rw [sound.late_eq (apart_of_locked locked)]
    cases (state.jobs task).phase with
    | compiled reading sets => exact Nat.le_refl 1
    | _ => exact Nat.zero_le 1

/-- At rest nobody has sources left. -/
theorem Sound.done (sound : Sound origin state) (quiet : state.Quiet) (task : Task) :
    (state.jobs task).todo = [] := by
  -- Both tasks have come to the end of their paths.
  cases task with
  | bulk => exact quiet.bulk
  | reload => exact sound.rest (.inl quiet.stage)

/-- At rest the lock is free. -/
theorem Sound.free (sound : Sound origin state) (quiet : state.Quiet) : state.lock = none := by
  -- A loader without sources does not hold it.
  cases locked : state.lock with
  | none => rfl
  | some task => exact absurd (sound.busy task (sound.done quiet task)) ((sound.held task).mpr locked)

/-- At rest what was due has been read. -/
theorem Sound.read (sound : Sound origin state) (quiet : state.Quiet) {location : Location}
    {content : Image}
    (due : Due origin.scope state.hub.tree state.owed (events state.stage state.queue)
      (unread (state.jobs .reload)) state.readings location content) :
    ∃ reading, lastAt Reading.location state.readings location = some reading ∧
      reading.content = some content := by
  -- Nothing is owed, no event waits and no source is left, so the content must have been read.
  cases due with
  | owed member =>
    rw [quiet.owed] at member
    cases member
  | told waits _ =>
    rw [quiet.stage, quiet.queue] at waits
    cases waits
  | pending waits _ =>
    have done := sound.done quiet .reload
    rw [unread, sound.busy .reload done, done] at waits
    cases waits
  | read last same => exact ⟨_, last, same⟩

/-- The files whose sets have been merged, in order, each with its sets. -/
def mergedFiles (state : Loading) : List (Path × List ProblemSet) :=
  state.merges.map fun merge => (merge.1.path, merge.2)

/-- The hall is that of a hub into which the files have been merged in turn. -/
theorem Sound.hall_eq (sound : Sound origin state) :
    state.hub.hall = (origin.mergeFiles state.mergedFiles).hall := by
  -- A merge looks at the path of what has been read and at its sets only.
  rw [sound.hall, mergeFiles, mergedFiles, List.foldl_map]

/-- Reloading never loses an edit.

Every collection holds what has been merged into it file by file, in the order in which the files
have been compiled, so that a stale compilation never lands after a newer one. Where nobody loads
and no event is left or about to come, the last reading of each source that has been written is that
of its last content, and the sets that have been merged last from it are those of this content. -/
theorem reloaded_play (hub : Hub) (formed : hub.tree.WellFormed) (steps : List Step) :
    let state := (start hub).play steps
    (state.hub.hall = (hub.mergeFiles state.mergedFiles).hall ∧
      state.hub.hall.collections = hub.hall.collections.map fun collection =>
        (collection.merges (batches hub.hall.numbered state.mergedFiles)).1) ∧
    (∃ late, state.readings.filterMap (Reading.result? hub.compiler) = state.merges ++ late ∧
      late.length ≤ 1 ∧ (state.lock = none → late = [])) ∧
    (state.Quiet → ∀ location writing,
      lastAt Writing.location state.writings location = some writing →
      hub.scope.covers writing.path = true →
        state.hub.tree.read? writing.path = some writing.content ∧
        ∃ reading, lastAt Reading.location state.readings location = some reading ∧
          reading.content = some writing.content ∧
          ∀ sets, hub.compiler.compile reading.path (some writing.content) = .ok sets →
            lastAt (fun merge => merge.1.location) state.merges location = some (reading, sets)) := by
  intro state
  have sound : Sound hub state := (sound_start formed).play steps
  refine ⟨⟨sound.hall_eq, ?_⟩, ⟨_, sound.ordered, sound.length_late_le, sound.late_of_free⟩,
    fun quiet location writing last covered => ?_⟩
  · rw [sound.hall_eq]
    exact hub.collections_mergeFiles _
  obtain ⟨stands, leads, due⟩ := sound.written location writing last
  obtain ⟨reading, newest, content⟩ := sound.read quiet (due covered)
  refine ⟨?_, reading, newest, content, fun sets compiled => ?_⟩
  · -- The file still holds what was written last.
    rw [Tree.read?, Tree.find?_of_locate leads, stands]
  · -- All that has been compiled has been merged.
    have merged := sound.ordered
    rw [sound.late_of_free (sound.free quiet), List.append_nil] at merged
    rw [← merged]
    refine lastAt_results newest ?_
    rw [Reading.result?, content, compiled]

/-- A library whose only problem is described by some text. -/
def describedLibrary (text : String) : Image :=
  .library ⟨some 1, some [⟨"Day 1", Instant.epoch,
    [⟨"Part 1", some text, fun _ _ => ⟨[], .ok ()⟩⟩], false, 0⟩]⟩

/-- A hub with an empty collection and no files. -/
def vacantHub : Hub :=
  .ofCollections [.empty "Advent of Code" 2023 "aoc" ⟨"/"⟩] Library.compiler

/-- A library is written anew after a bulk load has read it and before it is merged. -/
def editedMeanwhile : List Step :=
  [.write ⟨"/amy/day.so"⟩ (describedLibrary "old"), .scan [⟨"/amy/day.so"⟩], .next .bulk,
    .next .bulk, .write ⟨"/amy/day.so"⟩ (describedLibrary "new"),
    .notice ⟨.modified, [⟨"/amy/day.so"⟩]⟩, .next .reload, .next .reload, .next .reload,
    .next .reload, .next .bulk, .next .bulk, .next .reload, .next .reload, .next .reload,
    .next .reload, .next .reload]

/-- The edit is loaded after the bulk load has merged what it had read before, and its set is shown. -/
theorem reloaded_play_editedMeanwhile :
    let state := (start vacantHub).play editedMeanwhile
    state.readings.map (·.content.isSome) = [true, true] ∧ state.Quiet ∧
      (∃ reading sets, lastAt (fun merge => merge.1.location) state.merges ["amy", "day.so"] =
        some (reading, sets) ∧
      sets.map (fun set => set.problems.map (·.description)) = [[some "new"]]) ∧
      state.hub.hall.collections.map (fun collection => collection.info.authors) =
        [[("amy", [⟨"Day 1", "amy", Instant.epoch, [⟨"Part 1", some "new"⟩]⟩])]] := by
  have formed : vacantHub.tree.WellFormed := Tree.Built.empty.wellFormed
  have quiet : ((start vacantHub).play editedMeanwhile).Quiet :=
    ⟨by cbv, by cbv, by cbv, by cbv⟩
  have written : lastAt Writing.location ((start vacantHub).play editedMeanwhile).writings
      ["amy", "day.so"] =
        some ⟨⟨"/amy/day.so"⟩, some ["amy", "day.so"], describedLibrary "new"⟩ := by cbv
  obtain ⟨⟨_, merged⟩, _, loads⟩ := reloaded_play vacantHub formed editedMeanwhile
  obtain ⟨_, reading, _, _, last⟩ := loads quiet _ _ written (by decide +kernel)
  refine ⟨by cbv, quiet, ⟨reading, _, last _ rfl, rfl⟩, ?_⟩
  -- The old set is merged first, and the new one with its release time takes its place.
  rw [merged]
  cbv

end Loading

end SolverHub.Hub
