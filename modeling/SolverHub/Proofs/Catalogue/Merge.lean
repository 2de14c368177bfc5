import Mathlib.Data.String.Basic
import SolverHub.Catalogue.Collection
import SolverHub.Proofs.Keyed

/-! Merging keeps one set for each author and release time, which is the one that was merged last. -/

namespace SolverHub.Collection

/-- The sets come in strict order of their release times. -/
def InOrder (sets : List ProblemSet) : Prop :=
  sets.Pairwise fun first second => first.released.rank < second.released.rank

/-- The sets among some pairs that a collection files under an author and a release time. -/
def filed (collection : Collection) (author : String) (time : Instant)
    (pairs : List (Origin × ProblemSet)) : List ProblemSet :=
  pairs.filterMap fun pair =>
    if collection.authorOf? pair.1 = some author ∧ pair.2.released = time then some pair.2 else none

/-- The collection has an author for a pair. -/
def owns (collection : Collection) (pair : Origin × ProblemSet) : Bool :=
  (collection.authorOf? pair.1).isSome

/-- The collection after some merges in turn, and the number that each of them returned. -/
def merges (collection : Collection) :
    List (List (Origin × ProblemSet)) → Collection × List Nat
  | [] => (collection, [])
  | incoming :: rest =>
    let merged := collection.merge incoming
    let last := merged.1.merges rest
    (last.1, merged.2 :: last.2)

/-- No two sets have the same release time. -/
def Distinct (sets : List ProblemSet) : Prop :=
  sets.Pairwise fun first second => first.released ≠ second.released

/-- Sets in strict order have different release times. -/
theorem InOrder.distinct {sets : List ProblemSet} (ordered : InOrder sets) : Distinct sets :=
  List.Pairwise.imp (fun less same => absurd (congrArg Instant.rank same) (Int.ne_of_lt less)) ordered

/-- Replacing changes one set where no two have the same release time. -/
theorem mem_replace {set held : ProblemSet} {sets : List ProblemSet} (distinct : Distinct sets) :
    held ∈ replace set sets ↔ held = set ∨ held ∈ sets ∧ held.released ≠ set.released := by
  induction sets with
  | nil => simp [replace]
  | cons first rest ih =>
    obtain ⟨differs, distinct⟩ := List.pairwise_cons.mp distinct
    rw [replace]
    by_cases same : first.released = set.released
    · -- The sets behind the one that is replaced have other release times.
      have others : held ∈ rest → held.released ≠ set.released := fun member equal =>
        differs held member (same.trans equal.symm)
      rw [if_pos same, List.mem_cons, List.mem_cons]
      refine or_congr_right ⟨fun member => ⟨.inr member, others member⟩, ?_⟩
      rintro ⟨first | member, other⟩
      · rw [first] at other
        exact absurd same other
      · exact member
    · rw [if_neg same, List.mem_cons, List.mem_cons, ih distinct]
      refine ⟨?_, ?_⟩
      · rintro (here | here | ⟨member, other⟩)
        · rw [here]
          exact .inr ⟨.inl rfl, same⟩
        · exact .inl here
        · exact .inr ⟨.inr member, other⟩
      · rintro (here | ⟨here | member, other⟩)
        · exact .inr (.inl here)
        · exact .inl here
        · exact .inr (.inr ⟨member, other⟩)

/-- Replacing keeps release times different. -/
theorem Distinct.replace {sets : List ProblemSet} (distinct : Distinct sets) (set : ProblemSet) :
    Distinct (replace set sets) := by
  -- The set that comes in has the release time of the one that it replaces.
  induction sets with
  | nil => exact List.pairwise_singleton _ _
  | cons first rest ih =>
    obtain ⟨differs, distinct⟩ := List.pairwise_cons.mp distinct
    rw [Collection.replace]
    by_cases same : first.released = set.released
    · rw [if_pos same]
      exact List.pairwise_cons.mpr ⟨fun held member => same ▸ differs held member, distinct⟩
    · rw [if_neg same]
      refine List.pairwise_cons.mpr ⟨fun held member => ?_, ih distinct⟩
      rcases (mem_replace distinct).mp member with here | ⟨member, _⟩
      · rw [here]
        exact same
      · exact differs held member

/-- A set joins others in place of the one with its release time. -/
theorem mem_place {set held : ProblemSet} {sets : List ProblemSet} (ordered : InOrder sets) :
    held ∈ place set sets ↔ held = set ∨ held ∈ sets ∧ held.released ≠ set.released := by
  -- The sorting that follows the replacement moves sets but keeps them.
  rw [place, List.mem_mergeSort, mem_replace ordered.distinct]

/-- A set joins others in the order of release times. -/
theorem InOrder.place {sets : List ProblemSet} (ordered : InOrder sets) (set : ProblemSet) :
    InOrder (place set sets) := by
  have sorted : (Collection.place set sets).Pairwise
      (fun first second => first.released.notAfter second.released) :=
    List.pairwise_mergeSort
      (by simp only [Instant.notAfter, decide_eq_true_eq]; omega)
      (by simp only [Instant.notAfter, Bool.or_eq_true, decide_eq_true_eq]; omega) _
  have distinct : Distinct (Collection.place set sets) :=
    ((List.mergeSort_perm _ _).pairwise_iff Ne.symm).mpr (ordered.distinct.replace set)
  -- Times in order that differ are in strict order.
  refine (sorted.and distinct).imp fun {first second} ⟨notAfter, differs⟩ => ?_
  have atMost : first.released.rank ≤ second.released.rank := by
    simpa [Instant.notAfter] using notAfter
  have ranks : first.released.rank ≠ second.released.rank := fun same =>
    differs (Instant.rank_injective same)
  omega

/-- Merging a pair changes nothing that decides on authors. -/
@[simp] theorem authorOf?_mergeOne (state : Collection × Nat) (pair : Origin × ProblemSet) :
    (mergeOne state pair).1.authorOf? = state.1.authorOf? := by
  -- Only the authors change, while an author is told from the module and the directory.
  rw [mergeOne_fst]
  rfl

/-- One more pair is filed last, if it belongs there. -/
theorem filed_concat (collection : Collection) (author : String) (time : Instant)
    (pairs : List (Origin × ProblemSet)) (pair : Origin × ProblemSet) :
    collection.filed author time (pairs ++ [pair]) =
      collection.filed author time pairs ++
        if collection.authorOf? pair.1 = some author ∧ pair.2.released = time then [pair.2]
        else [] := by
  -- The last pair is filtered on its own.
  rw [filed, List.filterMap_append]
  congr 1
  split <;> rename_i belongs <;> simp [belongs]

/-- A set is filed if one of the pairs files it. -/
theorem mem_filed {collection : Collection} {author : String} {time : Instant}
    {pairs : List (Origin × ProblemSet)} {set : ProblemSet} :
    set ∈ collection.filed author time pairs ↔
      ∃ pair ∈ pairs, (collection.authorOf? pair.1 = some author ∧ pair.2.released = time) ∧
        pair.2 = set := by
  -- The filter lets exactly those of the author and the time through.
  simp [filed, List.mem_filterMap]

/-- A collection holds the latest of the sets that some pairs file under each author and time. -/
structure HoldsLatest (pairs : List (Origin × ProblemSet)) (collection : Collection) : Prop where
  sorted : Keyed.Sorted collection.authors
  authors : ∀ author, author ∈ collection.authors.map Prod.fst ↔
    ∃ pair ∈ pairs, collection.authorOf? pair.1 = some author
  ordered : ∀ author, InOrder (collection.setsBy author)
  latest : ∀ author set, set ∈ collection.setsBy author ↔
    (collection.filed author set.released pairs).getLast? = some set

/-- Adding a set places it among those of its author. -/
theorem setsBy_add {collection : Collection} (sorted : Keyed.Sorted collection.authors)
    (author other : String) (set : ProblemSet) :
    (collection.add author set).setsBy other =
      if other = author then place set (collection.setsBy author)
      else collection.setsBy other := by
  -- Only the entry of the author is altered.
  simp only [setsBy, add, Keyed.get?_alter sorted]
  split <;> rfl

variable {collection : Collection} {pairs : List (Origin × ProblemSet)}

/-- An empty collection holds nothing. -/
theorem holdsLatest_empty (source : String) (year : Year) (root : String) (directory : Path) :
    (empty source year root directory).HoldsLatest [] :=
  -- Nothing has been merged yet, so nothing is held and nothing is filed.
  ⟨List.Pairwise.nil, by simp [empty], fun _ => List.Pairwise.nil,
    by simp [setsBy, empty, Keyed.get?, filed]⟩

/-- After one more pair a collection holds the latest sets again. -/
theorem HoldsLatest.mergeOne (holds : collection.HoldsLatest pairs) (count : Nat)
    (pair : Origin × ProblemSet) :
    (mergeOne (collection, count) pair).1.HoldsLatest (pairs ++ [pair]) := by
  obtain ⟨sorted, authors, ordered, latest⟩ := holds
  unfold Collection.mergeOne
  cases owner : collection.authorOf? pair.1 with
  | none =>
    -- A pair without an author is filed nowhere.
    refine ⟨sorted, fun author => ?_, ordered, fun author set => ?_⟩
    · rw [authors]
      simp [owner]
    · rw [latest, filed_concat]
      simp [owner]
  | some author =>
    refine ⟨Keyed.sorted_alter sorted _ _, fun other => ?_, fun other => ?_, fun other set => ?_⟩
    · show other ∈ (Keyed.alter author _ collection.authors).map Prod.fst ↔ _
      rw [Keyed.mem_keys_alter, authors]
      refine ⟨?_, ?_⟩
      · rintro (same | ⟨earlier, member, named⟩)
        · exact ⟨pair, by simp, by rw [same]; exact owner⟩
        · exact ⟨earlier, List.mem_append_left _ member, named⟩
      · rintro ⟨earlier, member, named⟩
        rcases List.mem_append.mp member with member | last
        · exact .inr ⟨earlier, member, named⟩
        · rw [List.mem_singleton.mp last] at named
          exact .inl (Option.some.inj (named.symm.trans owner))
    · rw [setsBy_add sorted]
      split
      · exact (ordered author).place pair.2
      · exact ordered other
    · rw [setsBy_add sorted]
      show _ ↔ (collection.filed other set.released (pairs ++ [pair])).getLast? = some set
      rw [filed_concat, owner]
      by_cases here : other = author
      · rw [if_pos here, mem_place (ordered author), here]
        by_cases time : pair.2.released = set.released
        · -- The new set is the latest at its time.
          rw [if_pos ⟨rfl, time⟩, List.getLast?_concat, Option.some.injEq]
          refine ⟨?_, fun same => .inl same.symm⟩
          rintro (same | ⟨_, other⟩)
          · exact same.symm
          · exact absurd time.symm other
        · rw [if_neg fun both => time both.2, List.append_nil, ← latest]
          refine ⟨?_, fun member => .inr ⟨member, Ne.symm time⟩⟩
          rintro (same | ⟨member, _⟩)
          · exact absurd (congrArg (·.released) same).symm time
          · exact member
      · have elsewhere : ¬(some author = some other ∧ pair.2.released = set.released) := fun both =>
          here (Option.some.inj both.1).symm
        rw [if_neg here, if_neg elsewhere, List.append_nil, latest]

/-- Merging a pair leaves the pairs that a collection has an author for. -/
@[simp] theorem owns_mergeOne (state : Collection × Nat) (pair : Origin × ProblemSet) :
    (mergeOne state pair).1.owns = state.1.owns := by
  -- A set belongs to a collection exactly if its origin names an author there.
  funext other
  simp [owns]

/-- Pairs without an author make no difference to the outcome of a merge. -/
theorem foldl_mergeOne_filter (state : Collection × Nat) (incoming : List (Origin × ProblemSet)) :
    (incoming.filter state.1.owns).foldl mergeOne state = incoming.foldl mergeOne state := by
  -- The induction follows the pairs, and a pair without an author leaves the state as it is.
  induction incoming generalizing state with
  | nil => rfl
  | cons pair rest ih =>
    rw [List.foldl_cons, ← ih, owns_mergeOne]
    by_cases owned : state.1.owns pair = true
    · rw [List.filter_cons_of_pos owned, List.foldl_cons]
    · have unowned : mergeOne state pair = state := by
        simp_all [Collection.mergeOne, owns]
      rw [List.filter_cons_of_neg owned, unowned]

/-- A fold of merges counts the pairs that have an author. -/
theorem foldl_mergeOne_snd (state : Collection × Nat) (incoming : List (Origin × ProblemSet)) :
    (incoming.foldl mergeOne state).2 = state.2 + incoming.countP state.1.owns := by
  -- The induction follows the pairs, each of which counts one or nothing.
  induction incoming generalizing state with
  | nil => rfl
  | cons pair rest ih =>
    rw [List.foldl_cons, ih, owns_mergeOne]
    cases owner : state.1.authorOf? pair.1 with
    | none => simp [Collection.mergeOne, owns, owner]
    | some author => simp [Collection.mergeOne, owns, owner]; omega

/-- A merge that counts nothing changes nothing. -/
theorem merge_fst_of_snd {incoming : List (Origin × ProblemSet)}
    (nothing : (collection.merge incoming).2 = 0) : (collection.merge incoming).1 = collection := by
  -- Where nothing was counted no pair has an author, so filtering leaves none to merge.
  have count := foldl_mergeOne_snd (collection, 0) incoming
  have none : incoming.countP collection.owns = 0 := by
    rw [← nothing, merge, count, Nat.zero_add]
  have unowned : incoming.filter collection.owns = [] := by
    rwa [List.countP_eq_length_filter, List.length_eq_zero_iff] at none
  rw [merge, ← foldl_mergeOne_filter, unowned, List.foldl_nil]

/-- A merge counts nothing exactly where no set has an author. -/
theorem merge_snd_eq_zero_iff (collection : Collection) {incoming : List (Origin × ProblemSet)} :
    (collection.merge incoming).2 = 0 ↔
      ∀ pair ∈ incoming, collection.authorOf? pair.1 = none := by
  -- The count is the number of sets that belong to the collection.
  rw [merge, foldl_mergeOne_snd, Nat.zero_add, List.countP_eq_zero]
  simp only [owns, Bool.not_eq_true, Option.isSome_eq_false_iff, Option.isNone_iff_eq_none]

/-- Nothing is logged of sets without an author. -/
theorem mergeEntries_of_foreign {incoming : List (Origin × ProblemSet)}
    (foreign : ∀ pair ∈ incoming, collection.authorOf? pair.1 = none) :
    collection.mergeEntries incoming = .quiet () := by
  induction incoming with
  | nil => rfl
  | cons pair rest ih =>
    obtain ⟨first, others⟩ := List.forall_mem_cons.mp foreign
    -- Such a set leaves the collection to the sets behind it.
    have kept : (mergeOne (collection, 0) pair).1 = collection := by
      simp only [mergeOne, first]
    have quiet : collection.mergeEntry pair.1 pair.2 = .quiet () := by
      rw [mergeEntry, first]
    rw [mergeEntries, quiet, kept, ih others]
    rfl

/-- After more pairs a collection holds the latest sets again. -/
theorem HoldsLatest.foldl {state : Collection × Nat} (holds : state.1.HoldsLatest pairs)
    (incoming : List (Origin × ProblemSet)) :
    (incoming.foldl Collection.mergeOne state).1.HoldsLatest (pairs ++ incoming) := by
  -- The induction moves one pair after another to those that have been merged.
  induction incoming generalizing state pairs with
  | nil => simpa using holds
  | cons pair rest ih =>
    rw [List.foldl_cons, List.append_cons]
    exact ih (holds.mergeOne state.2 pair)

/-- After a merge a collection holds the latest sets again. -/
theorem HoldsLatest.merge (holds : collection.HoldsLatest pairs)
    (incoming : List (Origin × ProblemSet)) :
    (collection.merge incoming).1.HoldsLatest (pairs ++ incoming) := by
  -- A merge folds its sets one after another.
  unfold Collection.merge
  exact HoldsLatest.foldl holds incoming

/-- A merge changes nothing that decides on authors. -/
@[simp] theorem authorOf?_merge (collection : Collection) (incoming : List (Origin × ProblemSet)) :
    (collection.merge incoming).1.authorOf? = collection.authorOf? := by
  -- The induction holds from any state, since the count differs from step to step.
  have general (state : Collection × Nat) :
      (incoming.foldl mergeOne state).1.authorOf? = state.1.authorOf? := by
    induction incoming generalizing state with
    | nil => rfl
    | cons pair rest ih => rw [List.foldl_cons, ih, authorOf?_mergeOne]
  exact general (collection, 0)

/-- After some merges in turn a collection holds the latest sets again. -/
theorem HoldsLatest.merges (holds : collection.HoldsLatest pairs)
    (batches : List (List (Origin × ProblemSet))) :
    (collection.merges batches).1.HoldsLatest (pairs ++ batches.flatten) := by
  -- The induction moves one batch after another to those that have been merged.
  induction batches generalizing collection pairs with
  | nil => simpa [Collection.merges] using holds
  | cons incoming rest ih =>
    rw [List.flatten_cons, ← List.append_assoc]
    exact ih (holds.merge incoming)

/-- Merges in turn change nothing that decides on authors. -/
theorem authorOf?_merges (collection : Collection) (batches : List (List (Origin × ProblemSet))) :
    (collection.merges batches).1.authorOf? = collection.authorOf? := by
  -- The induction follows the batches, after each of which the authors are told the same way.
  induction batches generalizing collection with
  | nil => rfl
  | cons incoming rest ih => rw [Collection.merges, ih, authorOf?_merge]

/-- A merge leaves the pairs that a collection has an author for. -/
theorem owns_merge (collection : Collection) (incoming : List (Origin × ProblemSet)) :
    (collection.merge incoming).1.owns = collection.owns := by
  -- What belongs somewhere is read off the authors of origins.
  funext pair
  simp [owns]

/-- Each merge returns the number of its pairs that have an author. -/
theorem merges_snd (collection : Collection) (batches : List (List (Origin × ProblemSet))) :
    (collection.merges batches).2 = batches.map (·.countP collection.owns) := by
  -- Later merges count by the authors that the first one left as they were.
  induction batches generalizing collection with
  | nil => rfl
  | cons incoming rest ih =>
    have count : (collection.merge incoming).2 = incoming.countP collection.owns := by
      rw [Collection.merge, foldl_mergeOne_snd, Nat.zero_add]
    show _ :: ((collection.merge incoming).1.merges rest).2 = _
    rw [ih, owns_merge, count, List.map_cons]

/-- One more merge goes on from where the others have ended. -/
theorem fst_merges_concat (collection : Collection) (batches : List (List (Origin × ProblemSet)))
    (incoming : List (Origin × ProblemSet)) :
    (collection.merges (batches ++ [incoming])).1 =
      ((collection.merges batches).1.merge incoming).1 := by
  -- The induction follows the batches from the first one, the new one staying last.
  induction batches generalizing collection with
  | nil => rfl
  | cons first rest ih => exact ih (collection.merge first).1

/-- Merges in turn do the same without the pairs that have no author. -/
theorem merges_filter (collection : Collection) (batches : List (List (Origin × ProblemSet))) :
    collection.merges (batches.map (·.filter collection.owns)) = collection.merges batches := by
  -- Each merge ends in the same collection, from which the rest goes on.
  induction batches generalizing collection with
  | nil => rfl
  | cons incoming rest ih =>
    have merged : collection.merge (incoming.filter collection.owns) =
        collection.merge incoming := foldl_mergeOne_filter (collection, 0) incoming
    have further := ih (collection.merge incoming).1
    rw [owns_merge] at further
    simp only [List.map_cons, Collection.merges, merged, further]

/-- Merges into an empty collection keep the last set for each author and release time.

There is a list for exactly the authors of merged pairs, in strict order of the release times that
were merged for the author. Pairs without an author make no difference, and are not counted. -/
theorem merges_empty_latest (source : String) (year : Year) (root : String) (directory : Path)
    (batches : List (List (Origin × ProblemSet))) :
    let collection := Collection.empty source year root directory
    let last := (collection.merges batches).1
    let pairs := batches.flatten
    Keyed.Sorted last.authors ∧
    (∀ author, author ∈ last.authors.map Prod.fst ↔
      ∃ pair ∈ pairs, collection.authorOf? pair.1 = some author) ∧
    (∀ author sets, (author, sets) ∈ last.authors →
      sets.Pairwise (fun first second => first.released.rank < second.released.rank) ∧
      (∀ time, time ∈ sets.map (·.released) ↔
        ∃ pair ∈ pairs, collection.authorOf? pair.1 = some author ∧ pair.2.released = time) ∧
      ∀ set ∈ sets, (collection.filed author set.released pairs).getLast? = some set) ∧
    collection.merges (batches.map (·.filter collection.owns)) = collection.merges batches ∧
    (collection.merges batches).2 = batches.map (·.countP collection.owns) := by
  intro collection last pairs
  have holds : last.HoldsLatest pairs :=
    (holdsLatest_empty source year root directory).merges batches
  have owner : last.authorOf? = collection.authorOf? := authorOf?_merges collection batches
  have filing (author time) : last.filed author time pairs = collection.filed author time pairs := by
    simp only [filed, owner]
  obtain ⟨sorted, authors, ordered, latest⟩ := holds
  simp only [owner] at authors
  simp only [filing] at latest
  refine ⟨sorted, authors, fun author sets member => ?_, merges_filter collection batches,
    merges_snd collection batches⟩
  have held : last.setsBy author = sets := by
    rw [setsBy, (Keyed.get?_eq_some_iff sorted).mpr member, Option.getD_some]
  rw [← held]
  refine ⟨ordered author, fun time => ⟨fun present => ?_, fun merged => ?_⟩,
    fun set member => (latest author set).mp member⟩
  · -- A set that is held was filed by some pair.
    obtain ⟨set, member, same⟩ := List.mem_map.mp present
    have last := List.mem_of_getLast? ((latest author set).mp member)
    obtain ⟨pair, merged, belongs, _⟩ := mem_filed.mp last
    exact ⟨pair, merged, belongs.1, belongs.2.trans same⟩
  · -- Where some pair files a set, the last one of those is held.
    obtain ⟨pair, merged, belongs⟩ := merged
    have filed : pair.2 ∈ collection.filed author time pairs :=
      mem_filed.mpr ⟨pair, merged, belongs, rfl⟩
    obtain ⟨set, last⟩ := Option.ne_none_iff_exists'.mp
      (mt List.getLast?_eq_none_iff.mp (List.ne_nil_of_mem filed))
    obtain ⟨other, _, ⟨_, same⟩, named⟩ := mem_filed.mp (List.mem_of_getLast? last)
    have time : set.released = time := named ▸ same
    exact List.mem_map.mpr ⟨set, (latest author set).mpr (time ▸ last), time⟩

end SolverHub.Collection
