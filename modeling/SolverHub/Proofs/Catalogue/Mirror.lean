import SolverHub.Proofs.Catalogue.Actions
import SolverHub.Proofs.Catalogue.Index
import SolverHub.Proofs.Catalogue.Merge

/-! Whatever happens in a hall, the index of each of its registries is that of its collections. -/

namespace SolverHub.Hall

/-- Each registry mirrors its collections, unless it waits to be told of a merge.

It listens to all of its collections, which hold the latest of the sets merged into them. -/
structure Mirrors (waiting : List Listener) (hall : Hall) : Prop where
  merged : ∀ (position : Nat) (shelf : Shelf), hall.shelves[position]? = some shelf →
    ∃ pairs, shelf.collection.HoldsLatest pairs
  distinct : (hall.roster.1.map Prod.fst).Nodup
  opened : ∀ entry ∈ hall.roster.1, entry.1 < hall.roster.2
  listens : ∀ entry ∈ hall.roster.1, ∀ member ∈ entry.2, ∀ shelf : Shelf,
    hall.shelves[member]? = some shelf → .registry entry.1 ∈ shelf.listeners
  current : ∀ registry ∈ hall.registries, .registry registry.number ∈ waiting ∨
    ∃ edition, registry.index = Index.build edition (hall.membersOf registry)

namespace Mirrors

variable {hall : Hall} {waiting : List Listener}

/-- More can be waited for than has to be. -/
theorem mono {more : List Listener} (mirrors : Mirrors waiting hall) (subset : waiting ⊆ more) :
    Mirrors more hall :=
  -- A registry that may be behind while some wait may be so while more wait.
  { mirrors with
    current := fun registry member => (mirrors.current registry member).imp_left (@subset _) }

/-- No two registries have the same number. -/
theorem eq_of_number (mirrors : Mirrors waiting hall) {registry other : Registry}
    (member : registry ∈ hall.registries) (registered : other ∈ hall.registries)
    (same : registry.number = other.number) : registry = other := by
  -- Numbers are the first parts of the roster's entries, which are distinct.
  have numbers : (hall.registries.map (·.number)).Nodup := by
    have distinct := mirrors.distinct
    rwa [roster, List.map_map] at distinct
  exact List.inj_on_of_nodup_map numbers member registered same

/-- A registry is found under its number. -/
theorem registry?_eq (mirrors : Mirrors waiting hall) {registry : Registry}
    (registered : registry ∈ hall.registries) :
    hall.registry? registry.number = some registry := by
  -- What the search finds first has the number, and no other registry has it.
  cases found : hall.registry? registry.number with
  | none => simpa using List.find?_eq_none.mp found registry registered
  | some other =>
    have named : other.number = registry.number := number_of_found found
    exact congrArg some (mirrors.eq_of_number (List.mem_of_find?_eq_some found) registered named)

/-- A registry that publishes its index no longer waits. -/
theorem publish {registry : Registry} (member : registry ∈ hall.registries)
    (mirrors : Mirrors (.registry registry.number :: waiting) hall) :
    Mirrors waiting (hall.publish registry) := by
  have same := roster_publish hall registry
  refine ⟨mirrors.merged, same ▸ mirrors.distinct, same ▸ mirrors.opened, same ▸ mirrors.listens,
    fun other changed => ?_⟩
  obtain ⟨earlier, before, rfl⟩ := List.mem_map.mp changed
  by_cases here : earlier.number = registry.number
  · rw [if_pos here]
    -- Only the registry itself has its number.
    have itself : earlier = registry := mirrors.eq_of_number before member here
    exact .inr ⟨hall.editions, itself ▸ rfl⟩
  · rw [if_neg here]
    rcases mirrors.current earlier before with waits | mirrored
    · rcases List.mem_cons.mp waits with first | waits
      · exact absurd (Listener.registry.inj first) here
      · exact .inl waits
    · exact .inr mirrored

/-- A registry that rebuilds its index no longer waits, and neither does one that is closed. -/
theorem rebuild {number : Nat} (mirrors : Mirrors (.registry number :: waiting) hall) :
    Mirrors waiting (hall.rebuild number).value := by
  -- A number that no registry has makes none of them wait.
  rw [value_rebuild]
  cases found : hall.registry? number with
  | none =>
    refine { mirrors with current := fun registry member => ?_ }
    rcases mirrors.current registry member with waits | mirrored
    · rcases List.mem_cons.mp waits with first | waits
      · have other := List.find?_eq_none.mp found registry member
        exact absurd (Listener.registry.inj first) (by simpa using other)
      · exact .inl waits
    · exact .inr mirrored
  | some registry =>
    have named : registry.number = number := number_of_found found
    exact publish (List.mem_of_find?_eq_some found) (named ▸ mirrors)

/-- A listener that has been told of a merge no longer waits. -/
theorem tell {listener : Listener} (collection : Collection)
    (mirrors : Mirrors (listener :: waiting) hall) :
    Mirrors waiting (tell collection hall listener).value := by
  -- An observer is no registry, so nobody waits in its place.
  cases listener with
  | registry number => exact mirrors.rebuild
  | observer name known =>
    refine { mirrors with current := fun registry member => ?_ }
    refine (mirrors.current registry member).imp_left fun waits => ?_
    exact (List.mem_cons.mp waits).resolve_left Listener.noConfusion

/-- Nobody waits any longer when all listeners have been told of a merge. -/
theorem foldl_tell {listeners : List Listener} (collection : Collection)
    (mirrors : Mirrors listeners hall) :
    Mirrors [] (listeners.foldl (fun hall listener => (Hall.tell collection hall listener).value)
      hall) := by
  -- The induction follows the listeners, those that are left being those that wait.
  induction listeners generalizing hall with
  | nil => exact mirrors
  | cons listener rest ih => exact ih (mirrors.tell collection)

/-- The listeners of a collection wait once it has changed. -/
theorem changeShelf {position : Nat} {shelf : Shelf} {collection : Collection}
    (mirrors : Mirrors [] hall) (here : hall.shelves[position]? = some shelf)
    (holds : ∃ pairs, collection.HoldsLatest pairs) :
    Mirrors shelf.listeners
      (hall.changeShelf position fun held => { held with collection := collection }) := by
  refine ⟨fun place changed found => ?_, mirrors.distinct, mirrors.opened,
    fun entry registered member belongs changed found => ?_, fun registry registered => ?_⟩
  · obtain ⟨earlier, before, same⟩ := shelf_changeShelf found
    split at same
    · exact same ▸ holds
    · exact same ▸ mirrors.merged place earlier before
  · obtain ⟨earlier, before, same⟩ := shelf_changeShelf found
    have listening := mirrors.listens entry registered member belongs earlier before
    split at same
    · exact same ▸ listening
    · exact same ▸ listening
  · have entered : (registry.number, registry.members) ∈ hall.roster.1 :=
      List.mem_map_of_mem registered
    by_cases belongs : position ∈ registry.members
    · exact .inl (mirrors.listens _ entered position belongs shelf here)
    · -- None of its collections has changed.
      have same : (hall.changeShelf position fun held =>
          { held with collection := collection }).membersOf registry = hall.membersOf registry := by
        refine List.filterMap_congr fun member others => collection?_changeShelf fun _ _ => ?_
        rw [if_neg fun equal : position = member => belongs (equal ▸ others)]
      rw [same]
      exact .inr ((mirrors.current registry registered).resolve_left List.not_mem_nil)

/-- Every registry mirrors its collections after a merge. -/
theorem merge (mirrors : Mirrors [] hall) (position : Nat)
    (incoming : List (Origin × ProblemSet)) :
    Mirrors [] (hall.merge position incoming).value.1 := by
  -- Either nothing has changed, or all listeners of the collection are told.
  cases here : hall.shelves[position]? with
  | none =>
    rw [value_merge_none hall here]
    exact mirrors
  | some shelf =>
    obtain ⟨pairs, holds⟩ := mirrors.merged position shelf here
    rw [value_merge hall here]
    dsimp only
    split
    · rename_i nothing
      rw [Collection.merge_fst_of_snd nothing, changeShelf_self here]
      exact mirrors
    · exact foldl_tell _ (changeShelf mirrors here ⟨_, holds.merge incoming⟩)

/-- Every registry mirrors its collections when somebody subscribes. -/
theorem subscribe (mirrors : Mirrors waiting hall) (position : Nat) (listener : Listener) :
    Mirrors waiting (hall.subscribe position listener) := by
  -- Collections stay as they are, and nobody stops listening.
  refine ⟨fun place shelf found => ?_, mirrors.distinct, mirrors.opened,
    fun entry registered member belongs shelf found => ?_, fun registry registered => ?_⟩
  · obtain ⟨earlier, before, same, _⟩ := listeners_subscribe found
    exact same ▸ mirrors.merged place earlier before
  · obtain ⟨earlier, before, _, listeners⟩ := listeners_subscribe found
    rw [listeners]
    exact List.mem_append_left _ (mirrors.listens entry registered member belongs earlier before)
  · have same : (hall.subscribe position listener).membersOf registry = hall.membersOf registry :=
      List.filterMap_congr fun _ _ => collection?_subscribe listener
    exact same ▸ mirrors.current registry registered

/-- Every registry mirrors its collections when somebody subscribes to some of them. -/
theorem foldl_subscribe (mirrors : Mirrors waiting hall) (listener : Listener)
    (members : List Nat) :
    Mirrors waiting (members.foldl (fun hall member => hall.subscribe member listener) hall) := by
  -- The induction follows the positions.
  induction members generalizing hall with
  | nil => exact mirrors
  | cons member rest ih => exact ih (mirrors.subscribe member listener)

/-- A registry that listens to its collections joins the others and waits for its first index. -/
theorem join (mirrors : Mirrors [] hall) {number : Nat} (next : hall.opened = number)
    {members : List Nat} (listens : ∀ member ∈ members, ∀ shelf,
      hall.shelves[member]? = some shelf → .registry number ∈ shelf.listeners) :
    Mirrors [.registry number] { hall with
      registries := hall.registries ++ [Registry.mk number members .empty]
      opened := number + 1 } := by
  subst next
  have entered (entry : Nat × List Nat)
      (registered : entry ∈ (hall.registries ++ [Registry.mk hall.opened members .empty]).map
        fun registry => (registry.number, registry.members)) :
      entry ∈ hall.roster.1 ∨ entry = (hall.opened, members) := by
    simpa [roster, eq_comm] using registered
  refine ⟨mirrors.merged, ?_, fun entry registered => ?_, fun entry registered => ?_,
    fun registry registered => ?_⟩
  · -- The number of the new registry is greater than all others.
    show (((hall.registries ++ [_]).map _).map Prod.fst).Nodup
    rw [List.map_append, List.map_append, List.nodup_append]
    refine ⟨mirrors.distinct, List.nodup_singleton _, fun number used other new same => ?_⟩
    obtain ⟨entry, registered, rfl⟩ := List.mem_map.mp used
    have less := mirrors.opened entry registered
    rw [same, List.mem_singleton.mp new] at less
    exact Nat.lt_irrefl _ less
  · rcases entered entry registered with earlier | new
    · exact Nat.lt_succ_of_lt (mirrors.opened entry earlier)
    · exact new ▸ Nat.lt_succ_self hall.opened
  · rcases entered entry registered with earlier | new
    · exact mirrors.listens entry earlier
    · exact new ▸ listens
  · rcases List.mem_append.mp registered with earlier | new
    · exact .inr ((mirrors.current registry earlier).resolve_left List.not_mem_nil)
    · rw [List.mem_singleton.mp new]
      exact .inl List.mem_cons_self

/-- Every registry mirrors its collections when one has been opened. -/
theorem openRegistry (mirrors : Mirrors [] hall) (members : List Nat) :
    Mirrors [] (hall.openRegistry members).value.1 := by
  -- The new registry listens to all its collections before it builds its first index.
  have subscribed := mirrors.foldl_subscribe (.registry hall.opened) members
  have next := congrArg Prod.snd (roster_foldl_subscribe hall (.registry hall.opened) members)
  exact (subscribed.join next fun member belongs shelf found =>
    mem_listeners_foldl found (.inl belongs)).rebuild

/-- Every registry mirrors its collections when another one has been closed. -/
theorem closeRegistry (mirrors : Mirrors waiting hall) (number : Nat) :
    Mirrors waiting (hall.closeRegistry number) := by
  -- Those that are left were there before.
  have remains : (hall.closeRegistry number).roster.1.Sublist hall.roster.1 :=
    List.filter_sublist.map _
  exact ⟨mirrors.merged, mirrors.distinct.sublist (remains.map _),
    fun entry registered => mirrors.opened entry (remains.subset registered),
    fun entry registered => mirrors.listens entry (remains.subset registered),
    fun registry registered => mirrors.current registry (List.mem_of_mem_filter registered)⟩

/-- Every registry mirrors its collections after anything that happens. -/
theorem act (mirrors : Mirrors [] hall) (action : Action) : Mirrors [] (hall.act action) := by
  -- There is one lemma for each action.
  cases action with
  | merge position incoming => exact mirrors.merge position incoming
  | subscribe position listener => exact mirrors.subscribe position listener
  | openRegistry members => exact mirrors.openRegistry members
  | closeRegistry number => exact mirrors.closeRegistry number
  | rebuild number => exact rebuild (mirrors.mono (List.nil_subset _))

/-- The collections of a registry hold the latest of the sets merged into them. -/
theorem holdsLatest (mirrors : Mirrors waiting hall) {registry : Registry}
    {collection : Collection} (member : collection ∈ hall.membersOf registry) :
    ∃ pairs, collection.HoldsLatest pairs := by
  -- A member of a registry is the collection of a shelf.
  obtain ⟨position, _, found⟩ := List.mem_filterMap.mp member
  rw [collection?, collections, List.getElem?_map, Option.map_eq_some_iff] at found
  obtain ⟨shelf, here, rfl⟩ := found
  exact mirrors.merged position shelf here

end Mirrors

/-- Every registry mirrors its collections in a hall in which nothing has happened. -/
theorem mirrors_found (places : List (String × Year × String × Path)) :
    Mirrors [] (found places) := by
  -- There are no registries yet, and each collection is empty.
  refine ⟨fun position shelf here => ?_, List.nodup_nil, by simp [roster, found, ofCollections],
    by simp [roster, found, ofCollections], by simp [found, ofCollections]⟩
  obtain ⟨collection, member, rfl⟩ := List.mem_map.mp (List.mem_of_getElem? here)
  obtain ⟨⟨source, year, root, directory⟩, _, rfl⟩ := List.mem_map.mp member
  exact ⟨[], Collection.holdsLatest_empty source year root directory⟩

/-- Every registry mirrors its collections after any actions. -/
theorem mirrors_after (places : List (String × Year × String × Path)) (actions : List Action) :
    Mirrors [] (after places actions) := by
  -- The induction holds from any hall whose registries mirror their collections.
  have general (hall : Hall) (mirrors : Mirrors [] hall) : Mirrors [] (actions.foldl act hall) := by
    induction actions generalizing hall with
    | nil => exact mirrors
    | cons action rest ih => exact ih _ (mirrors.act action)
  exact general _ (mirrors_found places)

/-- A registry has a collection with the source and year of each identifier that it leads on. -/
theorem isSome_find? {hall : Hall} {registry : Registry} {id : Identifier}
    (addressed : Index.matching (hall.membersOf registry) id ≠ []) :
    (registry.find? hall id.source id.year).isSome := by
  -- The collection of an addressed problem is one that the search accepts.
  obtain ⟨problem, member⟩ := List.exists_mem_of_ne_nil _ addressed
  obtain ⟨collection, belongs, ⟨year, source⟩, _⟩ := Index.mem_matching.mp member
  obtain ⟨position, listed, here⟩ := List.mem_filterMap.mp belongs
  refine List.find?_isSome.mpr ⟨position, listed, ?_⟩
  simp [here, Registry.hasSource, year, source]

/-- After any actions, each registry that is open leads to what its collections hold.

An identifier leads to the last problem that it addresses, in the order of the collections, then of
the sets by release time, and then in display order. -/
theorem registry_after (places : List (String × Year × String × Path)) (actions : List Action) :
    let hall := after places actions
    hall.roster = actions.foldl live ([], 0) ∧
    ∀ registry ∈ hall.registries,
      let members := hall.membersOf registry
      (∀ collection ∈ members, ∀ author, Collection.InOrder (collection.setsBy author)) ∧
      (∀ id, (registry.get? id).map (·.problem) = (Index.matching members id).getLast? ∧
        (registry.get? id = none ↔ ¬∃ collection ∈ members,
          (collection.year = id.year ∧ collection.source = id.source) ∧
            ∃ set ∈ collection.setsBy id.author, set.name = id.setName ∧
              ∃ problem ∈ set.problems, problem.name = id.problemName) ∧
        ((registry.get? id).isSome → (registry.find? hall id.source id.year).isSome) ∧
        (id ∈ registry.index.identifiers ↔ (registry.get? id).isSome)) ∧
      registry.index.identifiers.Pairwise (fun first second => first.order second = .lt) ∧
      registry.index.size = registry.index.identifiers.length := by
  intro hall
  have mirrors : Mirrors [] hall := mirrors_after places actions
  refine ⟨roster_after places actions, fun registry registered => ?_⟩
  intro members
  -- Nobody waits between two actions, so the index is one that was built from these members.
  obtain ⟨edition, mirrored⟩ := (mirrors.current registry registered).resolve_left List.not_mem_nil
  have sound : registry.index.Sound := mirrored ▸ Index.sound_build edition members
  have holds (collection) (member : collection ∈ members) := mirrors.holdsLatest member
  have last (id : Identifier) :
      (registry.get? id).map (·.problem) = (Index.matching members id).getLast? := by
    rw [Registry.get?, mirrored]
    exact Index.problem_get?_build edition (fun collection member =>
      (holds collection member).elim fun _ latest => latest.sorted) id
  -- Nothing is found exactly where no problem is addressed.
  have absent (id : Identifier) : registry.get? id = none ↔ Index.matching members id = [] := by
    rw [← Option.map_eq_none_iff (f := (·.problem)), last, List.getLast?_eq_none_iff]
  refine ⟨fun collection member => (holds collection member).elim fun _ latest => latest.ordered,
    fun id => ⟨last id, ?_, fun found => ?_, sound.mem_identifiers id⟩,
    sound.identifiers_pairwise, sound.size_eq⟩
  · rw [absent, List.eq_nil_iff_forall_not_mem]
    refine ⟨?_, fun nothing problem addressed => ?_⟩
    · rintro nothing ⟨collection, member, same, set, belongs, titled, problem, listed, named⟩
      exact nothing problem
        (Index.mem_matching.mpr ⟨collection, member, same, set, belongs, titled, listed, named⟩)
    · obtain ⟨collection, member, same, set, belongs, titled, listed, named⟩ :=
        Index.mem_matching.mp addressed
      exact nothing ⟨collection, member, same, set, belongs, titled, problem, listed, named⟩
  · refine isSome_find? fun nothing => ?_
    rw [(absent id).mpr nothing] at found
    cases found

/-- A set whose only problem is described by some text. -/
def describedSet (text : String) : ProblemSet where
  name := "Day 1"
  released := ⟨2023, 12, 1, 18000, 0, by decide⟩
  problems := [⟨"Part 1", some text, fun _ _ => ⟨[], .ok ()⟩⟩]
  remade := false
  serial := 0

/-- Two places for collections with the same source and year. -/
def twoPlaces : List (String × Year × String × Path) :=
  [("Advent of Code", 2023, "first", ⟨"/first"⟩), ("Advent of Code", 2023, "second", ⟨"/second"⟩)]

/-- A registry over one collection twice outlives another one while sets are merged. -/
def twoMerges : List Action :=
  [.openRegistry [1, 0, 1], .openRegistry [0],
    .merge 1 [(.inside "second::ann", describedSet "from the second")],
    .merge 0 [(.inside "first::ann", describedSet "from the first")], .closeRegistry 1]

/-- The problem of the collection that comes last hides the one that was merged last. -/
theorem registry_after_twoMerges :
    ∃ registry ∈ (after twoPlaces twoMerges).registries, registry.members = [1, 0, 1] ∧
      (registry.get? ⟨"Advent of Code", 2023, "ann", "Day 1", "Part 1"⟩).map
        (·.problem.description) = some (some "from the second") ∧
      registry.index.size = registry.index.identifiers.length := by
  obtain ⟨roster, mirrored⟩ := registry_after twoPlaces twoMerges
  -- The first registry is still open, so it is among those that mirror their collections.
  have entered : (0, [1, 0, 1]) ∈ (after twoPlaces twoMerges).roster.1 := by
    rw [roster]
    decide
  obtain ⟨registry, registered, same⟩ := List.mem_map.mp entered
  obtain ⟨_, members⟩ := Prod.mk.inj same
  obtain ⟨_, found, _, counted⟩ := mirrored registry registered
  refine ⟨registry, registered, members, ?_, counted⟩
  have last := congrArg (Option.map (·.description))
    (found ⟨"Advent of Code", 2023, "ann", "Day 1", "Part 1"⟩).1
  rw [Option.map_map] at last
  refine last.trans ?_
  rw [membersOf, members]
  decide +kernel

end SolverHub.Hall
