import SolverHub.Proofs.Catalogue.Mirror

/-! Sets that are merged into every collection are merged into each of them on its own. -/

namespace SolverHub.Hall

variable (hall : Hall) (incoming : List (Origin × ProblemSet))

/-- A merge changes one collection in its place. -/
theorem collections_merge (position : Nat) :
    (hall.merge position incoming).value.1.collections =
      hall.collections.modify position fun collection => (collection.merge incoming).1 := by
  cases here : hall.shelves[position]? with
  | none =>
    -- Behind the last shelf there is no collection to be modified.
    have outside : hall.collections.length ≤ position := by
      rw [collections, List.length_map]
      exact List.getElem?_eq_none_iff.mp here
    rw [value_merge_none hall here, List.modify_eq_self outside]
  | some shelf =>
    have there : hall.collections[position]? = some shelf.collection := by
      rw [collections, List.getElem?_map, here]
      rfl
    -- The shelf of the position takes the merged collection, the others keep theirs.
    have changed : (hall.changeShelf position fun held =>
        { held with collection := (shelf.collection.merge incoming).1 }).collections =
          hall.collections.modify position fun collection => (collection.merge incoming).1 := by
      rw [collections_changeShelf]
      refine List.ext_getElem? fun place => ?_
      rw [List.getElem?_modify, List.getElem?_modify]
      by_cases same : position = place
      · subst same
        simp [there]
      · simp [same]
    rw [value_merge hall here]
    -- Listeners are told only of a merge that has filed something, and touch no shelf.
    dsimp only
    split
    · exact changed
    · rw [collections, shelves_foldl_tell]
      exact changed

/-- A merge counts what its collection counts. -/
theorem count_merge (position : Nat) :
    (hall.merge position incoming).value.2 =
      (hall.collection? position).elim 0 fun collection => (collection.merge incoming).2 := by
  rw [collection?, collections, List.getElem?_map]
  -- The count is that of the collection on the shelf, if there is a shelf.
  cases here : hall.shelves[position]? with
  | none => simp only [merge, here, Logged.value_pure, Option.map_none, Option.elim_none]
  | some shelf =>
    simp only [merge, here, Logged.value_bind, Option.map_some, Option.elim_some]
    split <;> rfl

/-- Telling somebody of a merge numbers no sets. -/
theorem numbered_tell (collection : Collection) (listener : Listener) :
    (tell collection hall listener).value.numbered = hall.numbered := by
  -- A rebuild puts another index into a registry and leaves its number and members.
  cases listener with
  | registry number =>
    show (hall.rebuild number).value.numbered = _
    rw [value_rebuild]
    cases hall.registry? number <;> rfl
  | observer name known => rfl

/-- A merge numbers no sets. -/
theorem numbered_merge (position : Nat) :
    (hall.merge position incoming).value.1.numbered = hall.numbered := by
  have told (collection : Collection) (listeners : List Listener) (hall : Hall) :
      (listeners.foldl (fun hall listener => (tell collection hall listener).value) hall).numbered =
        hall.numbered := by
    -- The induction follows the listeners.
    induction listeners generalizing hall with
    | nil => rfl
    | cons listener rest ih => rw [List.foldl_cons, ih, numbered_tell]
  cases here : hall.shelves[position]? with
  | none => rw [value_merge_none hall here]
  | some shelf =>
    rw [value_merge hall here]
    dsimp only
    split
    · rfl
    · rw [told]
      rfl

section Each

variable {positions : List Nat}

/-- Merges into some collections in turn start with the first one. -/
theorem value_mergeEach_cons (position : Nat) (rest : List Nat) :
    (hall.mergeEach incoming (position :: rest)).value =
      -- The first position is merged into before the others.
      let first := (hall.merge position incoming).value
      let others := (first.1.mergeEach incoming rest).value
      (others.1, first.2 + others.2) := rfl

/-- Merges into different collections change each of them once. -/
theorem collection?_mergeEach (distinct : positions.Nodup) (place : Nat) :
    (hall.mergeEach incoming positions).value.1.collection? place =
      (hall.collection? place).map fun collection =>
        if place ∈ positions then (collection.merge incoming).1 else collection := by
  -- The induction follows the positions, of which the first one does not come again.
  induction positions generalizing hall with
  | nil => simp [mergeEach, Logged.quiet]
  | cons position rest ih =>
    obtain ⟨once, distinct⟩ := List.nodup_cons.mp distinct
    rw [value_mergeEach_cons]
    dsimp only
    rw [ih (hall.merge position incoming).value.1 distinct, collection?, collections_merge,
      List.getElem?_modify, collection?]
    cases hall.collections[place]? with
    | none => rfl
    | some collection =>
      by_cases here : position = place
      · subst here
        simp [once]
      · simp [here, Ne.symm here]

/-- Merges into different collections count what each of them counts. -/
theorem count_mergeEach (distinct : positions.Nodup) :
    (hall.mergeEach incoming positions).value.2 =
      (positions.map fun position =>
        (hall.collection? position).elim 0 fun collection => (collection.merge incoming).2).sum := by
  induction positions generalizing hall with
  | nil => rfl
  | cons position rest ih =>
    obtain ⟨once, distinct⟩ := List.nodup_cons.mp distinct
    -- A merge into the first collection leaves what the others count.
    have others (place : Nat) (member : place ∈ rest) :
        (hall.merge position incoming).value.1.collection? place = hall.collection? place := by
      have differs : position ≠ place := fun same => once (same ▸ member)
      rw [collection?, collections_merge, List.getElem?_modify, collection?]
      simp [differs]
    rw [value_mergeEach_cons]
    dsimp only
    rw [ih (hall.merge position incoming).value.1 distinct, count_merge, List.map_cons,
      List.sum_cons]
    congr 2
    exact List.map_congr_left fun place member => by rw [others place member]

/-- Merges number no sets. -/
theorem numbered_mergeEach (positions : List Nat) :
    (hall.mergeEach incoming positions).value.1.numbered = hall.numbered := by
  -- The induction follows the positions, with the hall that each merge leaves.
  induction positions generalizing hall with
  | nil => rfl
  | cons position rest ih =>
    rw [value_mergeEach_cons]
    dsimp only
    rw [ih, numbered_merge]

/-- Merges leave numbers and members of registries. -/
theorem roster_mergeEach (positions : List Nat) :
    (hall.mergeEach incoming positions).value.1.roster = hall.roster := by
  -- The induction follows the positions, with the hall that each merge leaves.
  induction positions generalizing hall with
  | nil => rfl
  | cons position rest ih =>
    rw [value_mergeEach_cons]
    dsimp only
    rw [ih, roster_merge]

/-- Every registry mirrors its collections after merges. -/
theorem Mirrors.mergeEach {hall : Hall} (mirrors : Mirrors [] hall) (positions : List Nat) :
    Mirrors [] (hall.mergeEach incoming positions).value.1 := by
  -- Every merge leaves its registries up to date, so the next one starts from there.
  induction positions generalizing hall with
  | nil => exact mirrors
  | cons position rest ih => exact ih (mirrors.merge position incoming)

end Each

/-- Sets that are merged into all collections are merged into each of them. -/
theorem collections_mergeAll :
    (hall.mergeAll incoming).value.1.collections =
      hall.collections.map fun collection => (collection.merge incoming).1 := by
  refine List.ext_getElem? fun place => ?_
  have found := collection?_mergeEach hall incoming (List.nodup_range (n := hall.shelves.length)) place
  rw [mergeAll]
  refine found.trans ?_
  rw [List.getElem?_map, collection?]
  -- Every collection stands at one of the positions.
  cases here : hall.collections[place]? with
  | none => rfl
  | some collection =>
    have within : place < hall.shelves.length := by
      obtain ⟨within, _⟩ := List.getElem?_eq_some_iff.mp here
      simpa [collections] using within
    simp [within]

/-- Sets that are merged into all collections count what each of them counts. -/
theorem count_mergeAll :
    (hall.mergeAll incoming).value.2 =
      (hall.collections.map fun collection => (collection.merge incoming).2).sum := by
  -- Counting position by position is counting collection by collection.
  have listed : ((List.range hall.shelves.length).map fun position =>
      (hall.collection? position).elim 0 fun collection => (collection.merge incoming).2) =
        hall.collections.map fun collection => (collection.merge incoming).2 := by
    refine List.ext_getElem (by simp [collections]) fun place within _ => ?_
    have inside : place < hall.collections.length := by simpa [collections] using within
    simp [collection?, List.getElem?_eq_getElem inside]
  rw [mergeAll, count_mergeEach hall incoming List.nodup_range, listed]

end SolverHub.Hall
