import SolverHub.Proofs.Catalogue.Mirror

/-! A merge tells the listeners of its collection in turn, once all of its sets are in place. -/

namespace SolverHub.Hall

/-- The hall after some listeners have been told in turn of a merge into a collection. -/
def told (collection : Collection) (hall : Hall) (listeners : List Listener) : Hall :=
  listeners.foldl (fun hall listener => (tell collection hall listener).value) hall

/-- The number of registries that have been opened after an action. -/
def opening (opened : Nat) : Action → Nat
  | .openRegistry _ => opened + 1
  | _ => opened

/-- The listeners that an action adds to the collection at a position. -/
def joining (position opened : Nat) : Action → List Listener
  | .subscribe place listener => if place = position then [listener] else []
  | .openRegistry members => List.replicate (members.count position) (.registry opened)
  | _ => []

/-- The listeners that some actions add to the collection at a position, in the order of their subscription. -/
def subscriptions (position : Nat) : Nat → List Action → List Listener
  | _, [] => []
  | opened, action :: rest =>
    joining position opened action ++ subscriptions position (opening opened action) rest

/-- Registries are the only ones that subscribe as registries, and all others observe. -/
def Observed (actions : List Action) : Prop :=
  ∀ position number, Action.subscribe position (.registry number) ∉ actions

section Subscriptions

variable {position number : Nat}

/-- An action counts a registry if it opens one. -/
theorem live_snd (registries : List (Nat × List Nat) × Nat) (action : Action) :
    (live registries action).2 = opening registries.2 action := by
  -- Only an opening gives a number away.
  cases action <;> rfl

/-- So do some actions in turn. -/
theorem foldl_live_snd (registries : List (Nat × List Nat) × Nat) (actions : List Action) :
    (actions.foldl live registries).2 = actions.foldl opening registries.2 := by
  -- The induction follows the actions, from the registries that the first one leaves.
  induction actions generalizing registries with
  | nil => rfl
  | cons action rest ih => rw [List.foldl_cons, ih, live_snd, List.foldl_cons]

/-- No action takes a registry from the count. -/
theorem le_foldl_opening (opened : Nat) (actions : List Action) :
    opened ≤ actions.foldl opening opened := by
  -- The induction follows the actions, none of which takes a number back.
  induction actions generalizing opened with
  | nil => exact Nat.le_refl _
  | cons action rest ih =>
    have first : opened ≤ opening opened action := by
      cases action with
      | openRegistry members => exact Nat.le_succ opened
      | _ => exact Nat.le_refl opened
    exact first.trans (ih (opening opened action))

/-- Later actions add their listeners behind those of earlier ones. -/
theorem subscriptions_append (opened : Nat) (early late : List Action) :
    subscriptions position opened (early ++ late) =
      subscriptions position opened early ++
        subscriptions position (early.foldl opening opened) late := by
  -- The later ones go on from the count of registries that the earlier ones leave.
  induction early generalizing opened with
  | nil => rfl
  | cons action rest ih =>
    rw [List.cons_append, subscriptions, ih, subscriptions, List.append_assoc, List.foldl_cons]

/-- A registry that listens has been opened. -/
theorem lt_of_mem_subscriptions {actions : List Action} (observed : Observed actions)
    {opened : Nat} (member : .registry number ∈ subscriptions position opened actions) :
    number < actions.foldl opening opened := by
  induction actions generalizing opened with
  | nil => cases member
  | cons action rest ih =>
    rw [List.foldl_cons]
    rcases List.mem_append.mp member with first | later
    · -- Only one that is being opened subscribes as a registry.
      refine Nat.lt_of_lt_of_le ?_ (le_foldl_opening (opening opened action) rest)
      cases action with
      | subscribe place listener =>
        rw [joining] at first
        split at first
        · cases List.mem_singleton.mp first
          exact absurd List.mem_cons_self (observed place number)
        · cases first
      | openRegistry members =>
        cases List.eq_of_mem_replicate first
        exact Nat.lt_succ_self _
      | _ => cases first
    · exact ih (fun place number other => observed place number (List.mem_cons_of_mem _ other)) later

/-- A registry that is open was opened by one of the actions or before them. -/
theorem exists_opening {registries : List (Nat × List Nat) × Nat} {actions : List Action}
    {entry : Nat × List Nat} (entered : entry ∈ (actions.foldl live registries).1) :
    entry ∈ registries.1 ∨ ∃ early late, actions = early ++ .openRegistry entry.2 :: late ∧
      early.foldl opening registries.2 = entry.1 := by
  induction actions generalizing registries with
  | nil => exact .inl entered
  | cons action rest ih =>
    rcases ih entered with before | ⟨early, late, rfl, count⟩
    · -- It was there before the first action, or this one opened it.
      cases action with
      | openRegistry members =>
        rcases List.mem_append.mp before with earlier | new
        · exact .inl earlier
        · cases List.mem_singleton.mp new
          exact .inr ⟨[], rest, rfl, rfl⟩
      | closeRegistry number => exact .inl (List.mem_of_mem_filter before)
      | _ => exact .inl before
    · rw [live_snd] at count
      exact .inr ⟨action :: early, late, rfl, count⟩

end Subscriptions

section Audiences

variable {position place : Nat} {hall : Hall}

/-- The listeners of the collection at a position. -/
def audience? (hall : Hall) (position : Nat) : Option (List Listener) :=
  hall.shelves[position]?.map (·.listeners)

/-- The listeners are told by the shelves. -/
theorem audience?_congr {other : Hall} (same : other.shelves = hall.shelves) :
    other.audience? position = hall.audience? position := by
  -- Listeners belong to the shelves.
  rw [audience?, audience?, same]

/-- A change of a shelf that leaves its listeners leaves those of all. -/
theorem audience?_changeShelf {change : Shelf → Shelf}
    (same : ∀ shelf, (change shelf).listeners = shelf.listeners) :
    (hall.changeShelf place change).audience? position = hall.audience? position := by
  rw [audience?, audience?, changeShelf, List.getElem?_modify]
  -- A shelf at the position keeps its listeners, whether it is the changed one or not.
  cases hall.shelves[position]? with
  | none => rfl
  | some shelf =>
    refine congrArg some ?_
    show Shelf.listeners (if place = position then change shelf else shelf) = shelf.listeners
    split
    · exact same shelf
    · rfl

/-- Somebody who subscribes comes last. -/
theorem audience?_subscribe (listener : Listener) :
    (hall.subscribe place listener).audience? position =
      (hall.audience? position).map (· ++ if place = position then [listener] else []) := by
  rw [audience?, audience?, subscribe, changeShelf, List.getElem?_modify]
  cases hall.shelves[position]? with
  | none => rfl
  | some shelf =>
    refine congrArg some ?_
    show Shelf.listeners (if place = position then _ else shelf) = _
    -- The listener joins at its own position and nowhere else.
    split
    · rfl
    · exact (List.append_nil _).symm

/-- Somebody who subscribes to some collections comes last in each of them, once for each time it is listed. -/
theorem audience?_foldl_subscribe (listener : Listener) (members : List Nat) :
    (members.foldl (fun hall member => hall.subscribe member listener) hall).audience? position =
      (hall.audience? position).map (· ++ List.replicate (members.count position) listener) := by
  -- The induction follows the positions, and the same listener joins wherever the position is met.
  induction members generalizing hall with
  | nil => cases found : hall.audience? position <;> simp [found]
  | cons member rest ih =>
    rw [List.foldl_cons, ih, audience?_subscribe, Option.map_map]
    congr 1
    funext listeners
    by_cases here : member = position
    · rw [here, List.count_cons_self, List.replicate_succ]
      simp
    · simp [here]

/-- A merge leaves all listeners. -/
theorem audience?_merge (incoming : List (Origin × ProblemSet)) :
    (hall.merge place incoming).value.1.audience? position = hall.audience? position := by
  -- The collection on a shelf is replaced, and telling the listeners touches no shelf.
  cases here : hall.shelves[place]? with
  | none => rw [value_merge_none hall here]
  | some shelf =>
    have changed : (hall.changeShelf place fun held =>
        { held with collection := (shelf.collection.merge incoming).1 }).audience? position =
          hall.audience? position := audience?_changeShelf fun _ => rfl
    rw [value_merge hall here]
    dsimp only
    split
    · exact changed
    · exact (audience?_congr (shelves_foldl_tell _ _ _)).trans changed

/-- An action adds its listeners behind those who were there. -/
theorem audience?_act (hall : Hall) (position : Nat) (action : Action) :
    (hall.act action).audience? position =
      (hall.audience? position).map (· ++ joining position hall.opened action) := by
  have kept : hall.audience? position = (hall.audience? position).map (· ++ []) := by
    cases found : hall.audience? position <;> simp
  cases action with
  | merge place incoming => exact (audience?_merge incoming).trans kept
  | subscribe place listener => exact audience?_subscribe listener
  | openRegistry members =>
    -- The first index is built from the shelves and leaves them.
    exact (audience?_congr (shelves_rebuild _ _)).trans
      (audience?_foldl_subscribe (.registry hall.opened) members)
  | closeRegistry number => exact kept
  | rebuild number => exact (audience?_congr (shelves_rebuild hall number)).trans kept

/-- The listeners after any actions are those whom they added, in order. -/
theorem listeners_after {places : List (String × Year × String × Path)} {actions : List Action}
    {shelf : Shelf} (here : (after places actions).shelves[position]? = some shelf) :
    shelf.listeners = subscriptions position 0 actions := by
  -- The induction holds from any hall, whose count of registries follows its actions.
  have general (hall : Hall) : (actions.foldl act hall).audience? position =
      (hall.audience? position).map (· ++ subscriptions position hall.opened actions) := by
    clear here
    induction actions generalizing hall with
    | nil => cases found : hall.audience? position <;> simp [subscriptions, found]
    | cons action rest ih =>
      have opened : (hall.act action).opened = opening hall.opened action :=
        (congrArg Prod.snd (roster_act hall action)).trans (live_snd hall.roster action)
      rw [List.foldl_cons, ih, audience?_act, Option.map_map, opened]
      congr 1
      funext listeners
      exact List.append_assoc ..
  have all := general (found places)
  have last : (actions.foldl act (found places)).audience? position = some shelf.listeners :=
    congrArg (·.map (·.listeners)) here
  have first : ∀ listeners, (found places).audience? position = some listeners → listeners = [] := by
    intro listeners start
    obtain ⟨shelf, there, rfl⟩ := Option.map_eq_some_iff.mp start
    obtain ⟨collection, _, rfl⟩ := List.mem_map.mp (List.mem_of_getElem? there)
    rfl
  rw [last] at all
  obtain ⟨listeners, start, same⟩ := Option.map_eq_some_iff.mp all.symm
  rw [← same, first listeners start]
  rfl

end Audiences

section Telling

variable {hall : Hall} {number : Nat}

/-- The shelves tell the collections of a registry. -/
theorem membersOf_congr {other : Hall} (same : other.shelves = hall.shelves) (registry : Registry) :
    other.membersOf registry = hall.membersOf registry := by
  -- The members of a registry are collections on the shelves.
  have places : other.collection? = hall.collection? := by
    funext position
    rw [collection?, collection?, collections, collections, same]
  rw [membersOf, membersOf, places]

/-- Listeners leave the shelves, so that all of them see the same collections. -/
theorem shelves_told (collection : Collection) (listeners : List Listener) :
    (told collection hall listeners).shelves = hall.shelves :=
  -- Being told changes registries and notices only.
  shelves_foldl_tell hall collection listeners

/-- A registry that is told rebuilds its index, and everybody else leaves it. -/
theorem registry?_tell (collection : Collection) (hall : Hall) (listener : Listener) (number : Nat) :
    Hall.registry? (tell collection hall listener).value number =
      (hall.registry? number).map fun registry =>
        if listener = .registry number
        then { registry with index := Index.build hall.editions (hall.membersOf registry) }
        else registry := by
  cases listener with
  | observer name known =>
    simp only [reduceCtorEq, if_false, Option.map_id']
    rfl
  | registry other =>
    show Hall.registry? (hall.rebuild other).value number = _
    rw [value_rebuild]
    cases found : hall.registry? other with
    | none =>
      -- A registry that is no longer there is none of those that are found.
      cases open_registry : hall.registry? number with
      | none => exact open_registry
      | some registry =>
        have apart : other ≠ number := fun same => by
          rw [same, open_registry] at found
          cases found
        simp [apart, open_registry]
    | some published =>
      have named := number_of_found found
      have changed : Hall.registry? (hall.publish published) number = (hall.registry? number).map
          fun registry => if registry.number = published.number
            then { registry with index := Index.build hall.editions (hall.membersOf published) }
            else registry := registry?_changed hall published.number number fun _ => rfl
      refine changed.trans ?_
      cases open_registry : hall.registry? number with
      | none => rfl
      | some registry =>
        have numbered := number_of_found open_registry
        simp only [Option.map_some, numbered, named, Listener.registry.injEq]
        by_cases same : other = number
        · rw [same, open_registry] at found
          cases found
          simp [same]
        · simp [same, Ne.symm same]

/-- A registry that has been closed is not found later either. -/
theorem registry?_told_none (collection : Collection) (closed : hall.registry? number = none)
    (listeners : List Listener) : Hall.registry? (told collection hall listeners) number = none := by
  -- The induction follows the listeners, none of whom opens a registry.
  induction listeners generalizing hall with
  | nil => exact closed
  | cons listener rest ih => exact ih (by rw [registry?_tell, closed, Option.map_none])

/-- After some listeners a registry has rebuilt its index if it is among them, and has its earlier one if not. -/
theorem registry?_told {registry : Registry} (collection : Collection)
    (found : hall.registry? number = some registry) (listeners : List Listener) :
    ∃ index, Hall.registry? (told collection hall listeners) number =
        some { registry with index := index } ∧
      if .registry number ∈ listeners
      then ∃ edition, index = Index.build edition (hall.membersOf registry)
      else index = registry.index := by
  -- The induction follows the listeners, the last of whom is told in the hall that the others leave.
  induction listeners using List.reverseRecOn with
  | nil => exact ⟨registry.index, found, rfl⟩
  | append_singleton before listener ih =>
    obtain ⟨index, earlier, built⟩ := ih
    have next := registry?_tell collection (told collection hall before) listener number
    rw [earlier, Option.map_some] at next
    have last : told collection hall (before ++ [listener]) =
        (tell collection (told collection hall before) listener).value := List.foldl_concat ..
    rw [last]
    by_cases itself : listener = .registry number
    · rw [if_pos itself] at next
      refine ⟨_, next, ?_⟩
      rw [if_pos (by simp [itself])]
      exact ⟨_, congrArg _ (membersOf_congr (shelves_told collection before) _)⟩
    · rw [if_neg itself] at next
      refine ⟨index, next, ?_⟩
      simpa [Ne.symm itself] using built

/-- What an observer is told, if a listener is one. -/
def glimpse? (collection : Collection) : Listener → Option (String × Nat × Nat)
  | .registry _ => none
  | .observer name _ => some (name, collection.authors.length, collection.setCount)

/-- Each observer notices what the collection holds, one after another. -/
theorem notices_told (collection : Collection) (hall : Hall) (listeners : List Listener) :
    ∃ news, (told collection hall listeners).notices = hall.notices ++ news ∧
      news.map (fun notice => (notice.name, notice.authors, notice.sets)) =
        listeners.filterMap (glimpse? collection) := by
  -- A registry that rebuilds leaves the notices, and an observer adds one behind them.
  induction listeners generalizing hall with
  | nil => exact ⟨[], (List.append_nil _).symm, rfl⟩
  | cons listener rest ih =>
    obtain ⟨news, noticed, seen⟩ := ih (tell collection hall listener).value
    cases listener with
    | registry number =>
      have kept : (hall.rebuild number).value.notices = hall.notices := by
        rw [value_rebuild]
        cases hall.registry? number <;> rfl
      exact ⟨news, noticed.trans (congrArg (· ++ news) kept), seen⟩
    | observer name known =>
      refine ⟨_ :: news, noticed.trans (List.append_assoc ..), congrArg _ seen⟩

/-- A listener is a registry that has not been closed. -/
def rebuilds (hall : Hall) : Listener → Bool
  | .registry number => (hall.registry? number).isSome
  | .observer _ _ => false

/-- Each registry that is open builds an index each time it is told, and a closed one none. -/
theorem editions_told (collection : Collection) (hall : Hall) (listeners : List Listener) :
    (told collection hall listeners).editions =
      hall.editions + listeners.countP (rebuilds hall) := by
  -- Telling opens and closes no registry, so that the count is that of the hall at first.
  induction listeners generalizing hall with
  | nil => rfl
  | cons listener rest ih =>
    have kept : rebuilds (tell collection hall listener).value = rebuilds hall := by
      funext other
      cases other with
      | registry number => rw [rebuilds, rebuilds, registry?_tell, Option.isSome_map]
      | observer name known => rfl
    have first : (tell collection hall listener).value.editions =
        hall.editions + if rebuilds hall listener then 1 else 0 := by
      cases listener with
      | registry number =>
        show (hall.rebuild number).value.editions = _
        rw [value_rebuild, rebuilds]
        cases hall.registry? number <;> rfl
      | observer name known => rfl
    refine (ih (tell collection hall listener).value).trans ?_
    rw [kept, first, List.countP_cons, Nat.add_assoc, Nat.add_comm (ite _ _ _)]

/-- A registry that has been closed does nothing when it is told. -/
theorem tell_closed (collection : Collection) (closed : hall.registry? number = none) :
    tell collection hall (.registry number) = .quiet hall := by
  -- There is no registry left that could be rebuilt.
  show hall.rebuild number = .quiet hall
  rw [rebuild, closed]
  rfl

end Telling

section Merges

variable {hall : Hall} {shelf : Shelf} {position : Nat} {incoming : List (Origin × ProblemSet)}

/-- A merge in which no set has an author does nothing and logs nothing. -/
theorem merge_of_foreign (here : hall.shelves[position]? = some shelf)
    (foreign : ∀ pair ∈ incoming, shelf.collection.authorOf? pair.1 = none) :
    hall.merge position incoming = .quiet (hall, 0) := by
  -- Nothing is counted and nothing changes, so no listener is told.
  have nothing := shelf.collection.merge_snd_eq_zero_iff.mpr foreign
  simp only [merge, here, Collection.mergeEntries_of_foreign foreign, nothing, if_true,
    Collection.merge_fst_of_snd nothing, changeShelf_self here]
  rfl

/-- A merge in which some set has an author tells the listeners of the collection. -/
theorem value_merge_of_own (here : hall.shelves[position]? = some shelf)
    (own : ∃ pair ∈ incoming, shelf.collection.authorOf? pair.1 ≠ none) :
    (hall.merge position incoming).value.1 =
      told (shelf.collection.merge incoming).1
        (hall.changeShelf position fun held =>
          { held with collection := (shelf.collection.merge incoming).1 }) shelf.listeners := by
  -- A set of its own is counted, so the listeners are told.
  have counted : (shelf.collection.merge incoming).2 ≠ 0 := fun nothing => by
    obtain ⟨pair, member, author⟩ := own
    exact author (shelf.collection.merge_snd_eq_zero_iff.mp nothing pair member)
  rw [value_merge hall here]
  exact if_neg counted

end Merges

/-- A registry that is open subscribed when it was opened, behind the earlier listeners and before the later ones. -/
theorem exists_registration {places : List (String × Year × String × Path)} {actions : List Action}
    (observed : Observed actions) {registry : Registry}
    (registered : registry ∈ (after places actions).registries) (position : Nat) :
    ∃ early late, actions = early ++ .openRegistry registry.members :: late ∧
      (after places early).opened = registry.number ∧
      subscriptions position 0 actions = subscriptions position 0 early ++
        List.replicate (registry.members.count position) (.registry registry.number) ++
        subscriptions position (registry.number + 1) late ∧
      .registry registry.number ∉ subscriptions position 0 early := by
  have entered : (registry.number, registry.members) ∈ (actions.foldl live ([], 0)).1 := by
    rw [← roster_after places actions]
    exact List.mem_map_of_mem registered
  obtain ⟨early, late, rfl, opened⟩ := (exists_opening entered).resolve_left List.not_mem_nil
  have count : early.foldl opening 0 = registry.number := opened
  refine ⟨early, late, rfl, ?_, ?_, fun listening => ?_⟩
  · rw [← count, ← foldl_live_snd ([], 0) early, ← roster_after places early]
    rfl
  · rw [subscriptions_append, count, subscriptions, ← List.append_assoc]
    rfl
  · -- Whoever subscribed before had been opened before, with a smaller number.
    have early_observed : Observed early := fun place number subscribes =>
      observed place number (List.mem_append_left _ subscribes)
    have less := lt_of_mem_subscriptions early_observed listening
    rw [count] at less
    exact Nat.lt_irrefl _ less

/-- After any actions in which others than registries only observe, a merge of foreign sets does nothing.

Any other one tells each listener once, in the order of subscription and when all sets are in place.
A listener finds the index of a registry as it was before the merge if it subscribed before the registry was opened,
and as it is built from the merged collections if it subscribed later. -/
theorem notified_after (places : List (String × Year × String × Path)) {actions : List Action}
    (observed : Observed actions) {position : Nat} {shelf : Shelf}
    (here : (after places actions).shelves[position]? = some shelf)
    (incoming : List (Origin × ProblemSet)) :
    let hall := after places actions
    let subscribed := subscriptions position 0 actions
    shelf.listeners = subscribed ∧
    ((∀ pair ∈ incoming, shelf.collection.authorOf? pair.1 = none) →
      hall.merge position incoming = .quiet (hall, 0)) ∧
    ((∃ pair ∈ incoming, shelf.collection.authorOf? pair.1 ≠ none) →
      let merged := (shelf.collection.merge incoming).1
      let changed := hall.changeShelf position fun held => { held with collection := merged }
      let seen := told merged changed
      (hall.merge position incoming).value.1 = seen subscribed ∧
      (∀ before, (seen before).shelves = changed.shelves ∧
        (seen before).collection? position = some merged) ∧
      (∃ news, (seen subscribed).notices = hall.notices ++ news ∧
        news.map (fun notice => (notice.name, notice.authors, notice.sets)) =
          subscribed.filterMap (glimpse? merged)) ∧
      (seen subscribed).editions = hall.editions + subscribed.countP (rebuilds hall) ∧
      (∀ number, hall.registry? number = none → ∀ before,
        tell merged (seen before) (.registry number) = .quiet (seen before)) ∧
      ∀ registry ∈ hall.registries, position ∈ registry.members →
        ∃ early late, actions = early ++ .openRegistry registry.members :: late ∧
          (after places early).opened = registry.number ∧
          let earlier := subscriptions position 0 early
          let itself := List.replicate (registry.members.count position)
            (.registry registry.number)
          let later := subscriptions position (registry.number + 1) late
          subscribed = earlier ++ itself ++ later ∧
          (∀ before, before <+: earlier →
            Hall.registry? (seen before) registry.number = some registry) ∧
          ∀ before, before <+: later → ∃ edition,
            Hall.registry? (seen (earlier ++ itself ++ before)) registry.number = some
              { registry with index := Index.build edition (changed.membersOf registry) }) := by
  intro hall subscribed
  have listeners : shelf.listeners = subscribed := listeners_after here
  refine ⟨listeners, merge_of_foreign here, fun own => ?_⟩
  intro merged changed seen
  have shelves (before : List Listener) : (seen before).shelves = changed.shelves :=
    shelves_told merged before
  have standing : changed.collection? position = some merged := by
    have there : hall.collections[position]? = some shelf.collection := by
      rw [collections, List.getElem?_map, here]
      rfl
    rw [collection?, collections_changeShelf, List.getElem?_modify_eq, there]
    rfl
  refine ⟨listeners ▸ value_merge_of_own here own, fun before => ⟨shelves before, ?_⟩,
    notices_told merged changed subscribed, editions_told merged changed subscribed,
    fun number closed before =>
      tell_closed merged (@registry?_told_none changed number merged closed before),
    fun registry registered member => ?_⟩
  · rw [← standing, collection?, collections, shelves before]
    rfl
  · have found : changed.registry? registry.number = some registry :=
      (mirrors_after places actions).registry?_eq registered
    obtain ⟨early, late, split, opened, order, apart⟩ :=
      exists_registration observed registered position
    refine ⟨early, late, split, opened, ?_⟩
    intro earlier itself later
    refine ⟨order, fun before first => ?_, fun before _ => ?_⟩
    · -- The registry is not told before it subscribed.
      obtain ⟨index, last, kept⟩ := registry?_told merged found before
      rw [if_neg fun listening => apart (first.subset listening)] at kept
      rw [last, kept]
    · -- It has been told before those who subscribed later, since it lists the collection.
      have own : Listener.registry registry.number ∈ itself :=
        List.mem_replicate.mpr ⟨Nat.ne_of_gt (List.count_pos_iff.mpr member), rfl⟩
      obtain ⟨index, last, built⟩ := registry?_told merged found (earlier ++ itself ++ before)
      rw [if_pos (List.mem_append_left _ (List.mem_append_right _ own))] at built
      obtain ⟨edition, rfl⟩ := built
      exact ⟨edition, last⟩

/-- Two observers subscribe before and after a registry that lists their collection twice and one that is closed. -/
def watched : List Action :=
  [.subscribe 0 (.observer "early" (some 0)), .openRegistry [0, 1, 0], .openRegistry [0],
    .subscribe 0 (.observer "late" (some 0)), .closeRegistry 1]

/-- A set that belongs into the first of two collections comes with one that does not. -/
def mixed : List (Origin × ProblemSet) :=
  [(.inside "second::ann", describedSet "foreign"), (.inside "first::ann", describedSet "own")]

/-- Both observers notice the set, and between them the registry that is open builds two indexes. -/
theorem notified_after_watched :
    Observed watched ∧ ∃ shelf, (after twoPlaces watched).shelves[0]? = some shelf ∧
      shelf.listeners = [.observer "early" (some 0), .registry 0, .registry 0, .registry 1,
        .observer "late" (some 0)] ∧
      let last := ((after twoPlaces watched).merge 0 mixed).value.1
      last.notices.map (fun notice => (notice.name, notice.authors, notice.sets)) =
        [("early", 1, 1), ("late", 1, 1)] ∧
      last.editions = (after twoPlaces watched).editions + 2 := by
  have observed : Observed watched := by
    intro position number member
    simp [watched] at member
  have here : (after twoPlaces watched).shelves[0]? =
      some ⟨.empty "Advent of Code" 2023 "first" ⟨"/first"⟩, subscriptions 0 0 watched⟩ := rfl
  obtain ⟨listeners, _, told⟩ := notified_after twoPlaces observed here mixed
  -- One of the two sets is filed in the collection, and the other one is foreign.
  have own : ∃ pair ∈ mixed, (Collection.empty "Advent of Code" 2023 "first"
      ⟨"/first"⟩).authorOf? pair.1 ≠ none :=
    ⟨_, List.mem_cons_of_mem _ List.mem_cons_self, by decide +kernel⟩
  obtain ⟨last, _, ⟨news, noticed, seen⟩, editions, _⟩ := told own
  refine ⟨observed, _, here, listeners.trans rfl, ?_⟩
  rw [last]
  refine ⟨?_, editions.trans rfl⟩
  -- Nothing has been merged before, so all notices are those of this merge.
  have fresh : (after twoPlaces watched).notices = [] := rfl
  rw [noticed, fresh, List.nil_append, seen]
  decide +kernel

end SolverHub.Hall
