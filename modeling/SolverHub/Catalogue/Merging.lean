import SolverHub.Catalogue.Hall

/-! Merges may take place at the same time: each changes its collection at once, and then a registry rebuilds its index. -/

namespace SolverHub.Hall

/-- Sets that are merged together, each with its origin. -/
abbrev Batch := List (Origin × ProblemSet)

/-- How far a merge has come. -/
inductive Stage
  /-- It has been called. -/
  | called
  /-- It has changed its collection, and the registry is still to be told a number of times. -/
  | merged (version left : Nat)
  /-- It has returned, and has changed its collection unless there was nothing to merge. -/
  | returned (version : Option Nat)
deriving DecidableEq, Repr

/-- The number of the state that a merge has made of its collection. -/
def Stage.version? : Stage → Option Nat
  | .called => none
  | .merged version _ => some version
  | .returned version => version

/-- The number of the state that a merge has made, once the registry need not be told of it. -/
def Stage.told? : Stage → Option Nat
  | .merged version 0 => some version
  | .returned version => version
  | _ => none

/-- The merge is over. -/
def Stage.isReturned : Stage → Bool
  | .returned _ => true
  | _ => false

/-- A merge into the collection at a position. -/
structure Call where
  /-- The position of the collection. -/
  position : Nat
  /-- The sets that are merged. -/
  batch : Batch
  /-- How far the merge has come. -/
  stage : Stage

/-- A registry at work on its next index, which nobody else rebuilds meanwhile. -/
structure Rebuilding where
  /-- The number of the merge that the registry has been told of. -/
  caller : Nat
  /-- The collections that have been read. -/
  collections : List Collection
  /-- For each member whose turn has been, the number of the state in which it was read. -/
  versions : List Nat
  /-- The index has been published. -/
  published : Bool

/-- A hall in which merges take place at the same time, as one of its registries sees it. -/
structure Merging where
  /-- The collections and the registries over them. -/
  hall : Hall
  /-- The number of the registry. -/
  number : Nat
  /-- The positions of its collections. -/
  members : List Nat
  /-- The batches that have changed a collection, in order, each with the position of that. -/
  made : List (Nat × Batch)
  /-- The merges in the order in which they were called. -/
  calls : List Call
  /-- The rebuilding that holds the lock of the registry, if there is one. -/
  rebuilding : Option Rebuilding
  /-- For each member of the registry, the number of the state that its index shows. -/
  shown : List Nat

namespace Merging

/-- Something that one of the merges does. -/
inductive Step
  /-- A merge into the collection at a position is called. -/
  | call (position : Nat) (batch : Batch)
  /-- A merge changes its collection. -/
  | change (caller : Nat)
  /-- The registry has been told of a merge and takes its lock. -/
  | lock (caller : Nat)
  /-- The registry reads the next one of its collections. -/
  | read
  /-- The registry publishes the index of the collections that it has read. -/
  | publish
  /-- The registry gives its lock back. -/
  | unlock
  /-- A merge returns. -/
  | finish (caller : Nat)

/-- A registry and the hall around it while no merge takes place. -/
def start (hall : Hall) (registry : Registry) : Merging where
  hall := hall
  number := registry.number
  members := registry.members
  made := []
  calls := []
  rebuilding := none
  shown := registry.members.map fun _ => 0

/-- The batches among some that have changed the collection at a position. -/
def batchesAt (made : List (Nat × Batch)) (position : Nat) : List Batch :=
  made.filterMap fun entry => if entry.1 = position then some entry.2 else none

/-- The number of the state that the collection at a position has now. -/
def version (state : Merging) (position : Nat) : Nat :=
  (batchesAt state.made position).length

/-- The index that a lookup finds. -/
def index? (state : Merging) : Option Index :=
  (state.hall.registry? state.number).map (·.index)

/-- The stage that a merge has come to. -/
def stage? (state : Merging) (caller : Nat) : Option Stage :=
  (state.calls[caller]?).map (·.stage)

/-- The state after a merge has come to another stage. -/
def reach (state : Merging) (caller : Nat) (stage : Stage) : Merging :=
  { state with calls := state.calls.modify caller fun call => { call with stage := stage } }

/-- The number of times that a registry listens to the collection at a position. -/
def subscriptions (hall : Hall) (number position : Nat) : Nat :=
  (hall.shelves[position]?).elim 0 fun shelf => shelf.listeners.count (.registry number)

/-- A merge changes its collection, which is over at once where there is nothing to merge. -/
def change (state : Merging) (caller : Nat) (call : Call) (shelf : Shelf) : Merging :=
  let merged := shelf.collection.merge call.batch
  let changed := { state with hall := state.hall.changeShelf call.position fun shelf =>
    { shelf with collection := merged.1 } }
  if merged.2 = 0 then changed.reach caller (.returned none)
  else
    let version := state.version call.position + 1
    let left := subscriptions state.hall state.number call.position
    { changed with made := state.made ++ [(call.position, call.batch)] }.reach caller
      (.merged version left)

/-- The registry reads the collection at a position. -/
def read (state : Merging) (rebuilding : Rebuilding) (position : Nat) : Merging :=
  { state with rebuilding := some { rebuilding with
      collections := rebuilding.collections ++ (state.hall.collection? position).toList
      versions := rebuilding.versions ++ [state.version position] } }

/-- The registry publishes the index of the collections that it has read. -/
def publish (state : Merging) (rebuilding : Rebuilding) : Merging :=
  let index := Index.build state.hall.editions rebuilding.collections
  { state with
    hall := { state.hall.changeRegistry state.number fun registry =>
      { registry with index := index } with editions := state.hall.editions + 1 }
    rebuilding := some { rebuilding with published := true }
    shown := rebuilding.versions }

/-- The state after a step, which does nothing where it is not possible. -/
def step (state : Merging) : Step → Merging
  | .call position batch =>
    if position < state.hall.shelves.length then
      { state with calls := state.calls ++ [⟨position, batch, .called⟩] }
    else state
  | .change caller =>
    match state.calls[caller]? with
    | some call =>
      match call.stage, state.hall.shelves[call.position]? with
      | .called, some shelf => state.change caller call shelf
      | _, _ => state
    | none => state
  | .lock caller =>
    match state.stage? caller, state.rebuilding with
    | some (.merged _ (_ + 1)), none =>
      { state with rebuilding := some ⟨caller, [], [], false⟩ }
    | _, _ => state
  | .read =>
    match state.rebuilding with
    | some rebuilding =>
      match state.members[rebuilding.versions.length]? with
      | some position => state.read rebuilding position
      | none => state
    | none => state
  | .publish =>
    match state.rebuilding with
    | some rebuilding =>
      if rebuilding.versions.length = state.members.length ∧ rebuilding.published = false then
        state.publish rebuilding
      else state
    | none => state
  | .unlock =>
    match state.rebuilding with
    | some rebuilding =>
      match rebuilding.published, state.stage? rebuilding.caller with
      | true, some (.merged version (left + 1)) =>
        { state with rebuilding := none }.reach rebuilding.caller (.merged version left)
      | _, _ => state
    | none => state
  | .finish caller =>
    match state.stage? caller with
    | some (.merged version 0) => state.reach caller (.returned (some version))
    | _ => state

/-- The state after some steps in turn. -/
def play (state : Merging) (steps : List Step) : Merging :=
  steps.foldl step state

end Merging

end SolverHub.Hall
