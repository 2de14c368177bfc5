import SolverHub.Proofs.Catalogue.Mirror
import SolverHub.Proofs.Catalogue.Validation

/-! What a registry advertises is what it can resolve, and a check of the one is a check of the other. -/

namespace SolverHub

namespace Registry

variable {hall : Hall} {registry : Registry}

/-- Each year of a snapshot has the descriptions of the collections with that year, in order. -/
theorem mem_snapshot {entry : Year × List CollectionInfo} :
    entry ∈ (registry.snapshot hall).collections ↔
      entry.2 = ((hall.membersOf registry).filter fun collection =>
        collection.year = entry.1).map Collection.info ∧ entry.2 ≠ [] := by
  obtain ⟨year, infos⟩ := entry
  -- A snapshot joins each description to those of its year, in a list that stays sorted.
  have sorted := Keyed.sorted_foldl_join Collection.year Collection.info (hall.membersOf registry)
    (List.Pairwise.nil : Keyed.Sorted [])
  have found := Keyed.get?_foldl_join Collection.year Collection.info (hall.membersOf registry)
    (List.Pairwise.nil : Keyed.Sorted []) year
  rw [snapshot, ← Keyed.get?_eq_some_iff sorted, found]
  dsimp only
  split
  · rename_i absent
    simp [Keyed.get?, absent]
  · rename_i present
    simp only [Keyed.get?, Option.getD_none, List.nil_append, Option.some.injEq]
    refine ⟨fun same => ⟨same.symm, same ▸ present⟩, fun same => same.1.symm⟩

/-- A snapshot advertises what the descriptions of its collections do. -/
theorem mem_addresses_snapshot {id : Identifier} :
    id ∈ (registry.snapshot hall).addresses ↔
      ∃ collection ∈ hall.membersOf registry, id ∈ collection.info.addresses := by
  rw [Snapshot.addresses, List.mem_flatMap]
  refine ⟨?_, ?_⟩
  · rintro ⟨entry, listed, address⟩
    obtain ⟨info, held, address⟩ := List.mem_flatMap.mp address
    rw [(mem_snapshot.mp listed).1] at held
    obtain ⟨collection, member, rfl⟩ := List.mem_map.mp held
    exact ⟨collection, List.mem_of_mem_filter member, address⟩
  · rintro ⟨collection, member, address⟩
    -- The year of the collection has an entry, since the collection has that year.
    have held : collection.info ∈ ((hall.membersOf registry).filter fun other =>
        other.year = collection.year).map Collection.info :=
      List.mem_map_of_mem (List.mem_filter.mpr ⟨member, decide_eq_true rfl⟩)
    exact ⟨(collection.year, _), mem_snapshot.mpr ⟨rfl, List.ne_nil_of_mem held⟩,
      List.mem_flatMap.mpr ⟨collection.info, held, address⟩⟩

end Registry

namespace Collection

variable {collection : Collection}

/-- The sets of an author are those of the entry with that author, if there is one. -/
theorem mem_setsBy (sorted : Keyed.Sorted collection.authors) {author : String} {set : ProblemSet} :
    set ∈ collection.setsBy author ↔
      ∃ sets, (author, sets) ∈ collection.authors ∧ set ∈ sets := by
  -- Keys in order lead to their own entries.
  rw [setsBy]
  constructor
  · intro member
    cases found : Keyed.get? author collection.authors with
    | none =>
      rw [found] at member
      cases member
    | some sets =>
      rw [found] at member
      exact ⟨sets, Keyed.mem_of_get? found, member⟩
  · rintro ⟨sets, listed, member⟩
    rw [(Keyed.get?_eq_some_iff sorted).mpr listed]
    exact member

/-- A collection advertises the problems that identifiers address in it. -/
theorem mem_addresses_info (sorted : Keyed.Sorted collection.authors) {id : Identifier} :
    id ∈ collection.info.addresses ↔
      (collection.year = id.year ∧ collection.source = id.source) ∧
        ∃ set ∈ collection.setsBy id.author, set.name = id.setName ∧
          ∃ problem ∈ set.problems, problem.name = id.problemName := by
  rw [CollectionInfo.mem_addresses]
  constructor
  · rintro ⟨entry, listed, setInfo, held, problemInfo, shown, rfl⟩
    -- Each part of a description describes a part of the collection.
    obtain ⟨⟨author, sets⟩, authored, rfl⟩ := List.mem_map.mp listed
    obtain ⟨set, member, rfl⟩ := List.mem_map.mp held
    obtain ⟨problem, displayed, rfl⟩ := List.mem_map.mp shown
    exact ⟨⟨rfl, rfl⟩, set, (mem_setsBy sorted).mpr ⟨sets, authored, member⟩, rfl, problem,
      displayed, rfl⟩
  · rintro ⟨⟨year, source⟩, set, member, titled, problem, displayed, named⟩
    obtain ⟨sets, authored, member⟩ := (mem_setsBy sorted).mp member
    refine ⟨_, List.mem_map_of_mem authored, _, List.mem_map_of_mem member, _,
      List.mem_map_of_mem displayed, ?_⟩
    show (⟨collection.source, collection.year, id.author, set.name, problem.name⟩ : Identifier) = id
    rw [year, source, titled, named]

end Collection

namespace Hall

variable {hall : Hall} {registry : Registry}

/-- A registry that mirrors its collections leads to the last problem that an identifier addresses. -/
theorem Mirrors.problem_get? (mirrors : Mirrors [] hall) (registered : registry ∈ hall.registries)
    (id : Identifier) :
    (registry.get? id).map (·.problem) =
      (Index.matching (hall.membersOf registry) id).getLast? := by
  -- Nobody is waiting to be told, so the index is that of the members as they are.
  obtain ⟨edition, mirrored⟩ := (mirrors.current registry registered).resolve_left List.not_mem_nil
  have sorted (collection) (member : collection ∈ hall.membersOf registry) :
      Keyed.Sorted collection.authors := by
    obtain ⟨_, latest⟩ := mirrors.holdsLatest member
    exact latest.sorted
  rw [Registry.get?, mirrored]
  exact Index.problem_get?_build edition sorted id

/-- A registry that mirrors its collections resolves exactly what its snapshot advertises. -/
theorem Mirrors.mem_addresses (mirrors : Mirrors [] hall) (registered : registry ∈ hall.registries)
    (id : Identifier) :
    id ∈ (registry.snapshot hall).addresses ↔ (registry.get? id).isSome := by
  have found := mirrors.problem_get? registered id
  have resolved : (registry.get? id).isSome ↔
      ∃ problem, problem ∈ Index.matching (hall.membersOf registry) id := by
    rw [← Option.isSome_map (f := (·.problem)), found, List.getLast?_isSome]
    exact ⟨List.exists_mem_of_ne_nil _, fun ⟨_, member⟩ => List.ne_nil_of_mem member⟩
  rw [resolved, Registry.mem_addresses_snapshot]
  -- Both sides look for a problem with the names of the identifier in a collection of the registry.
  constructor
  · rintro ⟨collection, member, address⟩
    obtain ⟨_, latest⟩ := mirrors.holdsLatest member
    obtain ⟨same, set, held, titled, problem, displayed, named⟩ :=
      (Collection.mem_addresses_info latest.sorted).mp address
    exact ⟨problem, Index.mem_matching.mpr
      ⟨collection, member, same, set, held, titled, displayed, named⟩⟩
  · rintro ⟨problem, addressed⟩
    obtain ⟨collection, member, same, set, held, titled, displayed, named⟩ :=
      Index.mem_matching.mp addressed
    obtain ⟨_, latest⟩ := mirrors.holdsLatest member
    exact ⟨collection, member, (Collection.mem_addresses_info latest.sorted).mpr
      ⟨same, set, held, titled, problem, displayed, named⟩⟩

/-- After any actions a registry resolves what its snapshot advertises, and nothing else.

The description of a collection stands under its year, and those of its sets repeat their author. If
the snapshot passes its check then each identifier in it passes its own and leads to a problem with
its name; if an identifier in the index does not pass then neither does the snapshot. -/
theorem advertised_after (places : List (String × Year × String × Path)) (actions : List Action)
    {registry : Registry} (registered : registry ∈ (after places actions).registries) :
    let hall := after places actions
    let snapshot := registry.snapshot hall
    (∀ id, id ∈ snapshot.addresses ↔ id ∈ registry.index.identifiers) ∧
    (∀ entry ∈ snapshot.collections,
      entry.2 = ((hall.membersOf registry).filter fun collection =>
        collection.year = entry.1).map Collection.info ∧
      ∀ info ∈ entry.2, info.year = entry.1 ∧
        ∀ author ∈ info.authors, ∀ set ∈ author.2, set.author = author.1) ∧
    (∀ valid, registry.validSnapshot hall = .ok valid → valid = snapshot ∧
      ∀ id ∈ valid.addresses, id.checked = .ok id ∧
        ∃ listed, registry.get? id = some listed ∧ listed.problem.name = id.problemName) ∧
    ((∃ id ∈ registry.index.identifiers, id.validate ≠ .ok ()) →
      ∃ error, registry.validSnapshot hall = .error error) := by
  intro hall snapshot
  have mirrors : Mirrors [] hall := mirrors_after places actions
  have resolved (id : Identifier) : id ∈ snapshot.addresses ↔ (registry.get? id).isSome :=
    mirrors.mem_addresses registered id
  -- The index lists what it resolves, which is what the snapshot advertises.
  have indexed (id : Identifier) : id ∈ snapshot.addresses ↔ id ∈ registry.index.identifiers := by
    obtain ⟨edition, mirrored⟩ :=
      (mirrors.current registry registered).resolve_left List.not_mem_nil
    have sound : registry.index.Sound := mirrored ▸ Index.sound_build edition _
    rw [resolved, sound.mem_identifiers, Registry.get?]
  -- The check of the snapshot comes before anything is returned.
  have checked : registry.validSnapshot hall = snapshot.validate.map fun _ => snapshot := by
    show (do snapshot.validate; return snapshot) = _
    cases snapshot.validate <;> rfl
  refine ⟨indexed, fun entry listed => ?_, fun valid passed => ?_, ?_⟩
  · obtain ⟨described, _⟩ := Registry.mem_snapshot.mp listed
    refine ⟨described, fun info held => ?_⟩
    rw [described] at held
    obtain ⟨collection, member, rfl⟩ := List.mem_map.mp held
    refine ⟨of_decide_eq_true (List.mem_filter.mp member).2, fun author listed set held => ?_⟩
    obtain ⟨_, _, rfl⟩ := List.mem_map.mp listed
    obtain ⟨_, _, rfl⟩ := List.mem_map.mp held
    rfl
  · rw [checked] at passed
    cases outcome : snapshot.validate with
    | error error =>
      rw [outcome] at passed
      cases passed
    | ok _ =>
      rw [outcome] at passed
      cases passed
      refine ⟨rfl, fun id address => ?_⟩
      have accepted : id.validate = .ok () := snapshot.validate_addresses outcome address
      obtain ⟨listed, found⟩ := Option.isSome_iff_exists.mp ((resolved id).mp address)
      refine ⟨by rw [Identifier.checked, accepted]; rfl, listed, found, ?_⟩
      -- The problem that is found is one that the identifier addresses.
      have last := mirrors.problem_get? registered id
      rw [found, Option.map_some] at last
      obtain ⟨_, _, _, _, _, _, _, named⟩ :=
        Index.mem_matching.mp (List.mem_of_getLast? last.symm)
      exact named
  · -- An identifier that does not pass is advertised, so the snapshot cannot have passed.
    rintro ⟨id, member, rejected⟩
    rw [checked]
    cases outcome : snapshot.validate with
    | error error => exact ⟨error, rfl⟩
    | ok _ =>
      exact absurd (snapshot.validate_addresses outcome ((indexed id).mpr member)) rejected

/-- A registry over one collection twice advertises a problem that it resolves. -/
theorem advertised_after_twoMerges :
    ∃ registry ∈ (after twoPlaces twoMerges).registries,
      let snapshot := registry.snapshot (after twoPlaces twoMerges)
      let id : Identifier := ⟨"Advent of Code", 2023, "ann", "Day 1", "Part 1"⟩
      registry.validSnapshot (after twoPlaces twoMerges) = .ok snapshot ∧
      snapshot.addresses = [id, id, id] ∧ id.checked = .ok id ∧
      ∃ listed, registry.get? id = some listed ∧ listed.problem.name = "Part 1" := by
  -- The registry is found by evaluation, and its snapshot passes the check.
  have passed : ∀ registry ∈ (after twoPlaces twoMerges).registries,
      (registry.snapshot (after twoPlaces twoMerges)).validate = .ok () ∧
      (registry.snapshot (after twoPlaces twoMerges)).addresses =
        List.replicate 3 ⟨"Advent of Code", 2023, "ann", "Day 1", "Part 1"⟩ := by
    decide +kernel
  obtain ⟨registry, registered⟩ : ∃ registry, registry ∈ (after twoPlaces twoMerges).registries :=
    List.exists_mem_of_length_pos (by decide +kernel)
  obtain ⟨valid, advertised⟩ := passed registry registered
  have succeeds : registry.validSnapshot (after twoPlaces twoMerges) =
      .ok (registry.snapshot (after twoPlaces twoMerges)) := by
    show (do Snapshot.validate _; return _) = _
    rw [valid]
    rfl
  -- Any address of a snapshot that has passed leads to a problem.
  obtain ⟨_, resolves⟩ := (advertised_after twoPlaces twoMerges registered).2.2.1 _ succeeds
  refine ⟨registry, registered, succeeds, advertised, resolves _ ?_⟩
  rw [advertised]
  exact List.mem_cons_self

end Hall

end SolverHub
