import Mathlib.Data.List.Forall2
import SolverHub.Catalogue.Merging
import SolverHub.Proofs.Catalogue.Actions
import SolverHub.Proofs.Catalogue.Merge

/-! What a step of concurrent merges does, and which states of the collections a registry has read. -/

namespace SolverHub.Hall

/-- Changing the registry with a number changes what is found under the number. -/
theorem registry?_changeRegistry (hall : Hall) (number : Nat) (change : Registry → Registry)
    (kept : ∀ registry, (change registry).number = registry.number) :
    Hall.registry? (hall.changeRegistry number change) number =
      (hall.registry? number).map change := by
  -- The registry found under the number is the one that is changed.
  rw [registry?_changed hall number number kept]
  cases found : hall.registry? number with
  | none => rfl
  | some registry => simp only [Option.map_some, number_of_found found, if_true]

namespace Merging

/-- The state of the collection at a position after the first ones of its batches. -/
def stateAt (origin : Hall) (made : List (Nat × Batch)) (position version : Nat) :
    Option Collection :=
  (origin.collection? position).map fun collection =>
    (collection.merges ((batchesAt made position).take version)).1

/-- The states that some collections had when each of them had its version. -/
def reading (origin : Hall) (made : List (Nat × Batch)) (members versions : List Nat) :
    List Collection :=
  (members.zip versions).filterMap fun entry => stateAt origin made entry.1 entry.2

/-- Some collections have come to their versions. -/
def Reached (made : List (Nat × Batch)) (members versions : List Nat) : Prop :=
  ∀ entry ∈ members.zip versions, entry.2 ≤ (batchesAt made entry.1).length

/-- Wherever the collection at a position is among some, its version is at least a given one. -/
def Covers (members versions : List Nat) (position version : Nat) : Prop :=
  ∀ entry ∈ members.zip versions, entry.1 = position → version ≤ entry.2

section Versions

variable {origin : Hall} {made : List (Nat × Batch)} {members versions : List Nat}

/-- A batch comes last among those of its position and leaves the others. -/
theorem batchesAt_concat (position place : Nat) (batch : Batch) :
    batchesAt (made ++ [(position, batch)]) place =
      batchesAt made place ++ if position = place then [batch] else [] := by
  rw [batchesAt, List.filterMap_append]
  -- The new batch is kept or left out like any other one.
  by_cases here : position = place
  · simp [batchesAt, here]
  · simp [batchesAt, here]

/-- Later batches come behind those of a position. -/
theorem prefix_batchesAt {later : List (Nat × Batch)} (grows : made <+: later) (position : Nat) :
    batchesAt made position <+: batchesAt later position :=
  -- Choosing the batches of a position keeps their order.
  grows.filterMap _

/-- Later batches leave the states from before them. -/
theorem stateAt_grown {later : List (Nat × Batch)} (grows : made <+: later) {position version : Nat}
    (reached : version ≤ (batchesAt made position).length) :
    stateAt origin later position version = stateAt origin made position version := by
  -- The first batches are the same.
  obtain ⟨rest, same⟩ := prefix_batchesAt grows position
  rw [stateAt, stateAt, ← same, List.take_append_of_le_length reached]

/-- Collections that have come to their versions stay beyond them. -/
theorem Reached.grown {later : List (Nat × Batch)} (reached : Reached made members versions)
    (grows : made <+: later) : Reached later members versions := fun entry member =>
  -- A position that has more batches has come further.
  (reached entry member).trans (prefix_batchesAt grows entry.1).length_le

/-- Later batches leave what has been read before them. -/
theorem reading_grown {later : List (Nat × Batch)} (reached : Reached made members versions)
    (grows : made <+: later) :
    reading origin later members versions = reading origin made members versions :=
  -- No version goes beyond the earlier batches, so none sees the later ones.
  List.filterMap_congr fun entry member => stateAt_grown grows (reached entry member)

/-- The member whose turn is next is paired with the version that comes next. -/
theorem zip_concat {position : Nat} (next : members[versions.length]? = some position)
    (version : Nat) :
    members.zip (versions ++ [version]) = members.zip versions ++ [(position, version)] := by
  -- The induction follows the versions, each of which has a member in its place.
  induction versions generalizing members with
  | nil =>
    cases members with
    | nil => cases next
    | cons member rest => simpa using next
  | cons first _ ih =>
    cases members with
    | nil => cases next
    | cons member rest =>
      rw [List.length_cons, List.getElem?_cons_succ] at next
      rw [List.cons_append, List.zip_cons_cons, List.zip_cons_cons, List.cons_append, ih next]

/-- Reading one more collection adds the state that it has. -/
theorem reading_concat {position : Nat} (next : members[versions.length]? = some position)
    (version : Nat) :
    reading origin made members (versions ++ [version]) =
      reading origin made members versions ++ (stateAt origin made position version).toList := by
  rw [reading, zip_concat next, List.filterMap_append, ← reading]
  -- A position without a collection adds nothing.
  cases found : stateAt origin made position version <;> simp [found]

/-- Reading one more collection reaches a version that the collection has come to. -/
theorem Reached.concat {position : Nat} (reached : Reached made members versions)
    (next : members[versions.length]? = some position) :
    Reached made members (versions ++ [(batchesAt made position).length]) := by
  intro entry member
  rw [zip_concat next, List.mem_append, List.mem_singleton] at member
  -- Only the last pair is new, and its version is the number of batches so far.
  rcases member with earlier | new
  · exact reached entry earlier
  · rw [new]

/-- Reading one more collection covers what the collection has come to. -/
theorem Covers.concat {position place version : Nat} (covers : Covers members versions place version)
    (next : members[versions.length]? = some position)
    (reached : version ≤ (batchesAt made place).length) :
    Covers members (versions ++ [(batchesAt made position).length]) place version := by
  intro entry member here
  rw [zip_concat next, List.mem_append, List.mem_singleton] at member
  -- Only the last pair is new, and its version is the latest.
  rcases member with earlier | new
  · exact covers entry earlier here
  · rw [new] at here ⊢
    rwa [show position = place from here]

/-- Each collection with a later version has its earlier one. -/
theorem exists_mem_zip {later : List Nat} (advances : List.Forall₂ (· ≤ ·) versions later)
    {entry : Nat × Nat} (member : entry ∈ members.zip later) :
    ∃ version, (entry.1, version) ∈ members.zip versions ∧ version ≤ entry.2 := by
  -- The induction follows the versions, which are compared one by one.
  induction advances generalizing members with
  | nil => simp at member
  | cons less _ ih =>
    cases members with
    | nil => simp at member
    | cons first rest =>
      rcases List.mem_cons.mp member with rfl | elsewhere
      · exact ⟨_, List.mem_cons_self, less⟩
      · obtain ⟨version, found, less⟩ := ih elsewhere
        exact ⟨version, List.mem_cons_of_mem _ found, less⟩

/-- Later versions cover what earlier ones have covered. -/
theorem Covers.of_forall₂ {later : List Nat} {position version : Nat}
    (covers : Covers members versions position version)
    (advances : List.Forall₂ (· ≤ ·) versions later) : Covers members later position version := by
  intro entry member here
  -- The pair stands where an earlier pair with a lower version stood.
  obtain ⟨earlier, found, less⟩ := exists_mem_zip advances member
  exact (covers _ found here).trans less

end Versions

/-- The state after a batch has changed a collection. -/
def changed (state : Merging) (position : Nat) (shelf : Shelf) (batch : Batch) : Merging :=
  { state with
    hall := state.hall.changeShelf position fun held =>
      { held with collection := (shelf.collection.merge batch).1 }
    made := state.made ++ [(position, batch)] }

/-- What one step can do. -/
inductive Moves (state : Merging) : Merging → Prop
  | idle : Moves state state
  | call {position : Nat} (batch : Batch) (here : position < state.hall.shelves.length) :
      Moves state { state with calls := state.calls ++ [⟨position, batch, .called⟩] }
  | pass {caller : Nat} {call : Call} {shelf : Shelf} (found : state.calls[caller]? = some call)
      (called : call.stage = .called) (here : state.hall.shelves[call.position]? = some shelf)
      (nothing : (shelf.collection.merge call.batch).2 = 0) :
      Moves state (state.reach caller (.returned none))
  | change {caller : Nat} {call : Call} {shelf : Shelf} (found : state.calls[caller]? = some call)
      (called : call.stage = .called) (here : state.hall.shelves[call.position]? = some shelf) :
      Moves state ((state.changed call.position shelf call.batch).reach caller
        (.merged (state.version call.position + 1)
          (subscriptions state.hall state.number call.position)))
  | lock {caller version left : Nat} {call : Call} (found : state.calls[caller]? = some call)
      (merged : call.stage = .merged version (left + 1)) (free : state.rebuilding = none) :
      Moves state { state with rebuilding := some ⟨caller, [], [], false⟩ }
  | read {rebuilding : Rebuilding} {position : Nat} (held : state.rebuilding = some rebuilding)
      (next : state.members[rebuilding.versions.length]? = some position) :
      Moves state (state.read rebuilding position)
  | publish {rebuilding : Rebuilding} (held : state.rebuilding = some rebuilding)
      (complete : rebuilding.versions.length = state.members.length) :
      Moves state (state.publish rebuilding)
  | unlock {rebuilding : Rebuilding} {version left : Nat} {call : Call}
      (held : state.rebuilding = some rebuilding) (published : rebuilding.published = true)
      (found : state.calls[rebuilding.caller]? = some call)
      (merged : call.stage = .merged version (left + 1)) :
      Moves state ({ state with rebuilding := none }.reach rebuilding.caller
        (.merged version left))
  | finish {caller version : Nat} {call : Call} (found : state.calls[caller]? = some call)
      (merged : call.stage = .merged version 0) :
      Moves state (state.reach caller (.returned (some version)))

/-- A merge that has come to a stage has been called. -/
theorem call_of_stage {state : Merging} {caller : Nat} {stage : Stage}
    (found : state.stage? caller = some stage) :
    ∃ call, state.calls[caller]? = some call ∧ call.stage = stage :=
  -- The stage at a place is the stage of the merge at that place.
  Option.map_eq_some_iff.mp found

/-- Every step does one of the things that a step can do. -/
theorem moves_step (state : Merging) (step : Step) : Moves state (state.step step) := by
  -- A step whose guard fails leaves the state as it is.
  cases step with
  | call position batch =>
    rw [Merging.step]
    split
    · exact .call batch ‹_›
    · exact .idle
  | change caller =>
    rw [Merging.step]
    split
    · rename_i call found
      split
      · rename_i shelf called here
        rw [Merging.change]
        split
        · -- A merge of nothing leaves the collection as it is.
          rename_i nothing
          have same := Collection.merge_fst_of_snd nothing
          rw [same, changeShelf_self here]
          exact .pass found called here nothing
        · exact .change found called here
      · exact .idle
    · exact .idle
  | lock caller =>
    rw [Merging.step]
    split
    · rename_i version left stage free
      obtain ⟨call, found, merged⟩ := call_of_stage stage
      exact .lock found merged free
    · exact .idle
  | read =>
    rw [Merging.step]
    split
    · rename_i rebuilding held
      split
      · exact .read held ‹_›
      · exact .idle
    · exact .idle
  | publish =>
    rw [Merging.step]
    split
    · rename_i rebuilding held
      split
      · rename_i ready
        exact .publish held ready.1
      · exact .idle
    · exact .idle
  | unlock =>
    rw [Merging.step]
    split
    · rename_i rebuilding held
      split
      · rename_i version left published stage
        obtain ⟨call, found, merged⟩ := call_of_stage stage
        exact .unlock held published found merged
      · exact .idle
    · exact .idle
  | finish caller =>
    rw [Merging.step]
    split
    · rename_i version stage
      obtain ⟨call, found, merged⟩ := call_of_stage stage
      exact .finish found merged
    · exact .idle

end Merging

end SolverHub.Hall
