import Mathlib.Logic.Basic
import SolverHub.Catalogue.Hall

/-! What each action in a hall does to its shelves and to the roster of its registries. -/

namespace SolverHub.Hall

/-- Something that happens in a hall. -/
inductive Action
  /-- Sets are merged into the collection at a position. -/
  | merge (position : Nat) (incoming : List (Origin × ProblemSet))
  /-- Somebody subscribes to the collection at a position. -/
  | subscribe (position : Nat) (listener : Listener)
  /-- A registry over the collections at some positions is opened. -/
  | openRegistry (members : List Nat)
  /-- The registry with a number is closed. -/
  | closeRegistry (number : Nat)
  /-- The registry with a number rebuilds its index. -/
  | rebuild (number : Nat)

/-- The hall after something has happened in it. -/
def act (hall : Hall) : Action → Hall
  | .merge position incoming => (hall.merge position incoming).value.1
  | .subscribe position listener => hall.subscribe position listener
  | .openRegistry members => (hall.openRegistry members).value.1
  | .closeRegistry number => hall.closeRegistry number
  | .rebuild number => (hall.rebuild number).value

/-- A hall in which nothing has happened, with an empty collection for each source and year. -/
def found (places : List (String × Year × String × Path)) : Hall :=
  ofCollections (places.map fun (source, year, root, directory) =>
    .empty source year root directory)

/-- The registries that some actions have opened and not closed, and the number of those opened.

Each of them has its number and the positions of its collections. -/
def live (registries : List (Nat × List Nat) × Nat) : Action → List (Nat × List Nat) × Nat
  | .openRegistry members => (registries.1 ++ [(registries.2, members)], registries.2 + 1)
  | .closeRegistry number =>
    (registries.1.filter fun registry => registry.1 ≠ number, registries.2)
  | _ => registries

/-- The numbers and members of the registries of a hall, and the number of those opened. -/
def roster (hall : Hall) : List (Nat × List Nat) × Nat :=
  (hall.registries.map fun registry => (registry.number, registry.members), hall.opened)

section Values

variable (hall : Hall)

/-- Rebuilding publishes an index unless the registry has been closed. -/
theorem value_rebuild (number : Nat) :
    (hall.rebuild number).value = (hall.registry? number).elim hall hall.publish := by
  -- Without such a registry nothing is rebuilt, and what is logged is no part of the value.
  unfold rebuild
  cases hall.registry? number <;> rfl

/-- A merge changes one collection and tells its listeners if any set belonged there. -/
theorem value_merge {position : Nat} {shelf : Shelf} (here : hall.shelves[position]? = some shelf)
    (incoming : List (Origin × ProblemSet)) :
    (hall.merge position incoming).value.1 =
      let merged := shelf.collection.merge incoming
      let changed := hall.changeShelf position fun shelf => { shelf with collection := merged.1 }
      if merged.2 = 0 then changed
      else shelf.listeners.foldl (fun hall listener => (tell merged.1 hall listener).value)
        changed := by
  -- Entries are logged on the way and do not matter for the value.
  simp only [merge, here, Logged.value_bind]
  split
  · rfl
  · simp only [Logged.value_bind, Logged.value_pure, Logged.value_foldlM]

/-- There is nothing to merge into where there is no collection. -/
theorem value_merge_none {position : Nat} (absent : hall.shelves[position]? = none)
    (incoming : List (Origin × ProblemSet)) :
    (hall.merge position incoming).value.1 = hall := by
  -- A merge looks its shelf up first.
  simp only [merge, absent, Logged.value_pure]

end Values

section Registries

variable {hall : Hall}

/-- What is found under a number has that number. -/
theorem number_of_found {number : Nat} {registry : Registry}
    (found : hall.registry? number = some registry) : registry.number = number := by
  -- The search is for the number.
  simpa using List.find?_some found

/-- After registries have been changed the same one is found under each number, changed or not. -/
theorem registry?_changed (hall : Hall) (number other : Nat) {change : Registry → Registry}
    (kept : ∀ registry, (change registry).number = registry.number) :
    Hall.registry? (hall.changeRegistry number change) other = (hall.registry? other).map
      fun registry => if registry.number = number then change registry else registry := by
  -- The search meets the changed registries in the same order.
  have same (registry : Registry) :
      (if registry.number = number then change registry else registry).number =
        registry.number := by
    split
    · exact kept registry
    · rfl
  rw [Hall.registry?, changeRegistry, List.find?_map]
  simp only [Function.comp_def, same]
  rfl

end Registries

section Shelves

variable {hall : Hall} {position place : Nat} {change : Shelf → Shelf} {shelf : Shelf}

/-- A shelf after a change is a shelf from before it, changed if it stands there. -/
theorem shelf_changeShelf (found : (hall.changeShelf position change).shelves[place]? = some shelf) :
    ∃ earlier, hall.shelves[place]? = some earlier ∧
      shelf = if position = place then change earlier else earlier := by
  -- Modifying a list changes one of its items in place.
  rw [changeShelf, List.getElem?_modify, Option.map_eq_map, Option.map_eq_some_iff] at found
  obtain ⟨earlier, there, same⟩ := found
  exact ⟨earlier, there, same.symm⟩

/-- A change that leaves a collection leaves it in its place. -/
theorem collection?_changeShelf
    (same : ∀ shelf, hall.shelves[place]? = some shelf →
      (if position = place then change shelf else shelf).collection = shelf.collection) :
    (hall.changeShelf position change).collection? place = hall.collection? place := by
  -- The collection at a place is that of the shelf there, changed or not.
  rw [collection?, collection?, collections, collections, List.getElem?_map, List.getElem?_map,
    changeShelf, List.getElem?_modify]
  cases found : hall.shelves[place]? with
  | none => rfl
  | some shelf => exact congrArg some (same shelf found)

/-- Subscribing leaves all collections. -/
theorem collection?_subscribe (listener : Listener) :
    (hall.subscribe position listener).collection? place = hall.collection? place := by
  -- A subscription changes the listeners of a shelf only.
  refine collection?_changeShelf fun shelf _ => ?_
  split <;> rfl

/-- Changing a shelf changes one collection in its place. -/
theorem collections_changeShelf (hall : Hall) (position : Nat) (collection : Collection) :
    (hall.changeShelf position fun shelf => { shelf with collection := collection }).collections =
      hall.collections.modify position fun _ => collection := by
  -- The two lists are compared place by place, of which one is changed.
  refine List.ext_getElem? fun place => ?_
  rw [collections, collections, changeShelf, List.getElem?_map, List.getElem?_modify,
    List.getElem?_modify, List.getElem?_map]
  cases hall.shelves[place]? with
  | none => rfl
  | some shelf => by_cases here : position = place <;> simp [here]

/-- Nothing changes where a collection is replaced by itself. -/
theorem changeShelf_self (here : hall.shelves[position]? = some shelf) :
    hall.changeShelf position (fun held => { held with collection := shelf.collection }) = hall := by
  -- The shelves agree place by place.
  have same : hall.shelves.modify position
      (fun held => { held with collection := shelf.collection }) = hall.shelves := by
    refine List.ext_getElem? fun place => ?_
    rw [List.getElem?_modify]
    by_cases there : position = place
    · rw [← there, here]
      simp
    · simp [there]
  rw [changeShelf, same]

/-- Whoever subscribes to a collection listens to it, and so do its earlier listeners. -/
theorem listeners_subscribe {listener : Listener}
    (found : (hall.subscribe position listener).shelves[place]? = some shelf) :
    ∃ earlier, hall.shelves[place]? = some earlier ∧ shelf.collection = earlier.collection ∧
      shelf.listeners = earlier.listeners ++ if position = place then [listener] else [] := by
  -- Only the shelf at the position gets one more listener.
  obtain ⟨earlier, there, same⟩ := shelf_changeShelf found
  refine ⟨earlier, there, ?_⟩
  by_cases here : position = place
  · rw [if_pos here] at same ⊢
    exact same ▸ ⟨rfl, rfl⟩
  · rw [if_neg here] at same ⊢
    exact same ▸ ⟨rfl, (List.append_nil _).symm⟩

/-- Whoever subscribes to some collections in turn listens to each of them. -/
theorem mem_listeners_foldl {listener : Listener} {members : List Nat}
    (found : (members.foldl (fun hall member => hall.subscribe member listener) hall).shelves[place]?
      = some shelf)
    (listens : place ∈ members ∨
      ∀ earlier, hall.shelves[place]? = some earlier → listener ∈ earlier.listeners) :
    listener ∈ shelf.listeners := by
  induction members generalizing hall with
  | nil => exact listens.resolve_left List.not_mem_nil _ found
  | cons first rest ih =>
    refine ih found (or_iff_not_imp_left.mpr fun later changed there => ?_)
    obtain ⟨earlier, before, _, listeners⟩ := listeners_subscribe there
    rw [listeners, List.mem_append]
    rcases listens with member | listening
    · -- The first collection is the one that has just been subscribed to.
      rcases List.mem_cons.mp member with here | member
      · exact .inr (by rw [if_pos here.symm]; exact List.mem_singleton_self listener)
      · exact absurd member later
    · exact .inl (listening earlier before)

end Shelves

section Directories

variable (hall : Hall)

/-- Rebuilding an index leaves the shelves. -/
theorem shelves_rebuild (number : Nat) : (hall.rebuild number).value.shelves = hall.shelves := by
  -- An index is published outside the shelves.
  rw [value_rebuild]
  cases hall.registry? number <;> rfl

/-- Telling somebody of a merge leaves the shelves. -/
theorem shelves_tell (collection : Collection) (listener : Listener) :
    (tell collection hall listener).value.shelves = hall.shelves := by
  -- An observer is only notified.
  cases listener with
  | registry number => exact shelves_rebuild hall number
  | observer name known => rfl

/-- Telling some listeners of a merge leaves the shelves. -/
theorem shelves_foldl_tell (collection : Collection) (listeners : List Listener) :
    (listeners.foldl (fun hall listener => (tell collection hall listener).value) hall).shelves =
      hall.shelves := by
  -- The induction follows the listeners, each of whom leaves the shelves to the next.
  induction listeners generalizing hall with
  | nil => rfl
  | cons listener rest ih => rw [List.foldl_cons, ih, shelves_tell]

/-- The directories of the collections. -/
def directories : List Path :=
  hall.collections.map (·.directory)

/-- A merge leaves the directory of a collection. -/
theorem directory_merge (collection : Collection) (incoming : List (Origin × ProblemSet)) :
    (collection.merge incoming).1.directory = collection.directory := by
  -- The induction holds from any count.
  have general (state : Collection × Nat) :
      (incoming.foldl Collection.mergeOne state).1.directory = state.1.directory := by
    induction incoming generalizing state with
    | nil => rfl
    | cons pair rest ih => rw [List.foldl_cons, ih, Collection.mergeOne_fst]
  exact general (collection, 0)

/-- A merge leaves the directories of all collections. -/
theorem directories_merge (position : Nat) (incoming : List (Origin × ProblemSet)) :
    (hall.merge position incoming).value.1.directories = hall.directories := by
  cases here : hall.shelves[position]? with
  | none => rw [value_merge_none hall here]
  | some shelf =>
    -- The merged shelf holds a collection that keeps its directory.
    have changed : (hall.changeShelf position fun held =>
        { held with collection := (shelf.collection.merge incoming).1 }).directories =
          hall.directories := by
      refine List.ext_getElem? fun place => ?_
      rw [directories, directories, collections, collections, changeShelf, List.map_map,
        List.map_map, List.getElem?_map, List.getElem?_map, List.getElem?_modify]
      by_cases same : position = place
      · subst same
        simp [here, directory_merge]
      · simp [same]
    rw [value_merge hall here]
    dsimp only
    split
    · exact changed
    · rw [directories, collections, shelves_foldl_tell]
      exact changed

/-- Merges into some collections leave the directories of all. -/
theorem directories_mergeEach (incoming : List (Origin × ProblemSet))
    (positions : List Nat) :
    (hall.mergeEach incoming positions).value.1.directories = hall.directories := by
  -- The induction follows the positions, with the hall that the first merge leaves.
  induction positions generalizing hall with
  | nil => rfl
  | cons position rest ih =>
    show ((hall.merge position incoming).value.1.mergeEach incoming rest).value.1.directories = _
    rw [ih, directories_merge]

end Directories

section Roster

variable (hall : Hall)

/-- Publishing an index leaves numbers and members. -/
theorem roster_publish (registry : Registry) : (hall.publish registry).roster = hall.roster := by
  -- Only indexes change, and the roster does not show them.
  refine congrArg (·, hall.opened) ?_
  show ((hall.registries.map _).map _) = _
  rw [List.map_map]
  refine List.map_congr_left fun other _ => ?_
  rw [Function.comp_apply]
  split <;> rfl

/-- Rebuilding an index leaves numbers and members. -/
theorem roster_rebuild (number : Nat) : (hall.rebuild number).value.roster = hall.roster := by
  -- Without such a registry nothing is published.
  rw [value_rebuild]
  cases hall.registry? number with
  | none => rfl
  | some registry => exact roster_publish hall registry

/-- Telling somebody of a merge leaves numbers and members. -/
theorem roster_tell (collection : Collection) (listener : Listener) :
    (tell collection hall listener).value.roster = hall.roster := by
  -- Only a registry reacts to being told, with a rebuild.
  cases listener with
  | registry number => exact roster_rebuild hall number
  | observer name known => rfl

/-- Telling some listeners of a merge leaves numbers and members. -/
theorem roster_foldl_tell (collection : Collection) (listeners : List Listener) :
    (listeners.foldl (fun hall listener => (tell collection hall listener).value) hall).roster =
      hall.roster := by
  -- The induction follows the listeners, none of whom touches the roster.
  induction listeners generalizing hall with
  | nil => rfl
  | cons listener rest ih => rw [List.foldl_cons, ih, roster_tell]

/-- A merge leaves numbers and members. -/
theorem roster_merge (position : Nat) (incoming : List (Origin × ProblemSet)) :
    (hall.merge position incoming).value.1.roster = hall.roster := by
  -- The roster shows neither shelves nor indexes.
  cases here : hall.shelves[position]? with
  | none => rw [value_merge_none hall here]
  | some shelf =>
    rw [value_merge hall here]
    dsimp only
    split
    · rfl
    · rw [roster_foldl_tell]
      rfl

/-- Subscribing to some collections leaves numbers and members. -/
theorem roster_foldl_subscribe (listener : Listener) (members : List Nat) :
    (members.foldl (fun hall member => hall.subscribe member listener) hall).roster =
      hall.roster := by
  -- The induction follows the positions, each of which changes a shelf only.
  induction members generalizing hall with
  | nil => rfl
  | cons member rest ih =>
    rw [List.foldl_cons, ih]
    rfl

/-- The registries of a hall are those that have been opened and not closed. -/
theorem roster_act (action : Action) : (hall.act action).roster = live hall.roster action := by
  -- Only opening and closing touch the roster.
  cases action with
  | merge position incoming => exact roster_merge hall position incoming
  | subscribe position listener => rfl
  | openRegistry members =>
    have kept := roster_foldl_subscribe hall (.registry hall.opened) members
    obtain ⟨registries, _⟩ := Prod.mk.inj kept
    refine (roster_rebuild _ _).trans (congrArg (·, hall.opened + 1) ?_)
    show (_ ++ [_]).map _ = hall.roster.1 ++ [(hall.opened, members)]
    rw [List.map_append, registries]
    rfl
  | closeRegistry number =>
    refine congrArg (·, hall.opened) ?_
    show (hall.registries.filter _).map _ = (hall.registries.map _).filter _
    rw [List.filter_map]
    rfl
  | rebuild number => exact roster_rebuild hall number

end Roster

/-- The hall after some actions in turn, from one in which nothing has happened. -/
def after (places : List (String × Year × String × Path)) (actions : List Action) : Hall :=
  actions.foldl act (found places)

/-- The registries after any actions are those that they have opened and not closed. -/
theorem roster_after (places : List (String × Year × String × Path)) (actions : List Action) :
    (after places actions).roster = actions.foldl live ([], 0) := by
  -- The induction holds from any hall, whose roster follows its actions.
  have general (hall : Hall) : (actions.foldl act hall).roster = actions.foldl live hall.roster := by
    induction actions generalizing hall with
    | nil => rfl
    | cons action rest ih => rw [List.foldl_cons, ih, roster_act, List.foldl_cons]
  exact general (found places)

end SolverHub.Hall
