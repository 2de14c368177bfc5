import Mathlib.Data.List.Sort
import SolverHub.Proofs.Catalogue.Advertised
import SolverHub.Proofs.Path

/-! What a collection shows of its sets is decided by what was shown of the sets merged into it. -/

namespace SolverHub

namespace Collection

variable {first second : Collection} {earlier later : List (Origin × ProblemSet)}

/-- What is shown of some pairs: where each set comes from and how it is described. -/
def described (pairs : List (Origin × ProblemSet)) : List (Origin × SetInfo) :=
  pairs.map fun pair => (pair.1, setInfo "" pair.2)

/-- The description of what a collection files under an author and a release time. -/
def shown (authorOf? : Origin → Option String) (author : String) (time : Instant)
    (pairs : List (Origin × SetInfo)) : List SetInfo :=
  pairs.filterMap fun pair =>
    if authorOf? pair.1 = some author ∧ pair.2.released = time then some { pair.2 with author := author }
    else none

/-- What a collection files is shown as its pairs are. -/
theorem map_setInfo_filed (collection : Collection) (author : String) (time : Instant)
    (pairs : List (Origin × ProblemSet)) :
    (collection.filed author time pairs).map (setInfo author) =
      shown collection.authorOf? author time (described pairs) := by
  rw [filed, shown, described, List.map_filterMap, List.filterMap_map]
  refine List.filterMap_congr fun pair _ => ?_
  -- A set and its description have the same release time.
  by_cases belongs : collection.authorOf? pair.1 = some author ∧ pair.2.released = time <;>
    simp [belongs, setInfo]

/-- Sets in order are described in order. -/
theorem InOrder.pairwise_setInfo {sets : List ProblemSet} (ordered : InOrder sets) (author : String) :
    (sets.map (setInfo author)).Pairwise fun one other => one.released.rank < other.released.rank :=
  -- The description of a set keeps its release time.
  List.pairwise_map.mpr ordered

/-- What is shown of an author's sets is the last that was shown for each release time. -/
theorem HoldsLatest.mem_map_setInfo (holds : first.HoldsLatest earlier) {author : String}
    {info : SetInfo} : info ∈ (first.setsBy author).map (setInfo author) ↔
      (shown first.authorOf? author info.released (described earlier)).getLast? = some info := by
  -- A set is held exactly if it comes last among those filed for its time.
  rw [← map_setInfo_filed, List.getLast?_map, List.mem_map, Option.map_eq_some_iff]
  constructor
  · rintro ⟨set, member, rfl⟩
    exact ⟨set, (holds.latest author set).mp member, rfl⟩
  · rintro ⟨set, last, rfl⟩
    exact ⟨set, (holds.latest author set).mpr last, rfl⟩

/-- The entry of each author has the sets of that author. -/
theorem authors_eq_map (sorted : Keyed.Sorted first.authors) :
    first.authors = (first.authors.map Prod.fst).map fun author => (author, first.setsBy author) := by
  -- Each author occurs once, so looking the author up gives the entry again.
  rw [List.map_map]
  refine (List.map_id _).symm.trans (List.map_congr_left fun entry member => ?_)
  rw [Function.comp_apply, setsBy, (Keyed.get?_eq_some_iff sorted).mpr member]
  rfl

/-- Collections of one place show the same if the last sets that were merged into them are shown alike. -/
theorem info_eq_of_shown (source : first.source = second.source) (year : first.year = second.year)
    (authorOf : first.authorOf? = second.authorOf?) (holds : first.HoldsLatest earlier)
    (also : second.HoldsLatest later)
    (authors : ∀ author, (∃ pair ∈ earlier, first.authorOf? pair.1 = some author) ↔
      ∃ pair ∈ later, first.authorOf? pair.1 = some author)
    (last : ∀ author time, (shown first.authorOf? author time (described earlier)).getLast? =
      (shown first.authorOf? author time (described later)).getLast?) :
    first.info = second.info := by
  have names : first.authors.map Prod.fst = second.authors.map Prod.fst := by
    refine (List.pairwise_map.mpr holds.sorted).eq_of_mem_iff (List.pairwise_map.mpr also.sorted)
      fun author => ?_
    rw [holds.authors, also.authors, authors, authorOf]
  have sets (author : String) : (first.setsBy author).map (setInfo author) =
      (second.setsBy author).map (setInfo author) := by
    -- Both are in the strict order of release times, so they are equal if they have the same members.
    have : Std.Irrefl fun one other : SetInfo => one.released.rank < other.released.rank :=
      ⟨fun _ => Int.lt_irrefl _⟩
    have : Std.Antisymm fun one other : SetInfo => one.released.rank < other.released.rank :=
      ⟨fun _ _ less greater => absurd greater (Int.lt_asymm less)⟩
    refine ((holds.ordered author).pairwise_setInfo author).eq_of_mem_iff
      ((also.ordered author).pairwise_setInfo author) fun info => ?_
    rw [holds.mem_map_setInfo, also.mem_map_setInfo, ← authorOf, last]
  have entries : first.authors.map (fun entry => (entry.1, entry.2.map (setInfo entry.1))) =
      second.authors.map fun entry => (entry.1, entry.2.map (setInfo entry.1)) := by
    rw [authors_eq_map holds.sorted, authors_eq_map also.sorted, names]
    simp only [List.map_map (l := second.authors.map Prod.fst)]
    exact List.map_congr_left fun author _ => congrArg (Prod.mk author) (sets author)
  rw [info, info, source, year, entries]

/-- A merge leaves the place of a collection. -/
theorem place_merge (collection : Collection) (incoming : List (Origin × ProblemSet)) :
    (collection.merge incoming).1.source = collection.source ∧
      (collection.merge incoming).1.year = collection.year := by
  -- The induction holds from any count.
  have general (state : Collection × Nat) :
      (incoming.foldl mergeOne state).1.source = state.1.source ∧
        (incoming.foldl mergeOne state).1.year = state.1.year := by
    induction incoming generalizing state with
    | nil => exact ⟨rfl, rfl⟩
    | cons pair rest ih =>
      rw [List.foldl_cons, (ih _).1, (ih _).2, mergeOne_fst]
      exact ⟨rfl, rfl⟩
  exact general (collection, 0)

/-- Merges in turn leave the place of a collection. -/
theorem place_merges (collection : Collection) (batches : List (List (Origin × ProblemSet))) :
    (collection.merges batches).1.source = collection.source ∧
      (collection.merges batches).1.year = collection.year := by
  -- The induction follows the batches, none of which renames the collection.
  induction batches generalizing collection with
  | nil => exact ⟨rfl, rfl⟩
  | cons incoming rest ih =>
    obtain ⟨source, year⟩ := place_merge collection incoming
    obtain ⟨also, again⟩ := ih (collection.merge incoming).1
    exact ⟨also.trans source, again.trans year⟩

/-- Merging sets again that are described alike changes nothing that is shown. -/
theorem info_merges_again {collection : Collection} (holds : collection.HoldsLatest earlier)
    {batches again : List (List (Origin × ProblemSet))}
    (alike : described again.flatten = described batches.flatten) :
    ((collection.merges batches).1.merges again).1.info = (collection.merges batches).1.info := by
  have merged := holds.merges batches
  have twice := merged.merges again
  obtain ⟨source, year⟩ := place_merges (collection.merges batches).1 again
  have authorOf := authorOf?_merges (collection.merges batches).1 again
  -- The origins of the sets are the same, too.
  have origins : again.flatten.map Prod.fst = batches.flatten.map Prod.fst := by
    have same := congrArg (List.map Prod.fst) alike
    simpa only [described, List.map_map, Function.comp_def] using same
  refine info_eq_of_shown source year authorOf twice merged (fun author => ?_) fun author time => ?_
  · constructor
    · rintro ⟨pair, member, owner⟩
      rcases List.mem_append.mp member with before | new
      · exact ⟨pair, before, owner⟩
      · have listed : pair.1 ∈ batches.flatten.map Prod.fst := origins ▸ List.mem_map_of_mem new
        obtain ⟨other, there, same⟩ := List.mem_map.mp listed
        exact ⟨other, List.mem_append_right _ there, same ▸ owner⟩
    · rintro ⟨pair, member, owner⟩
      exact ⟨pair, List.mem_append_left _ member, owner⟩
  · -- What comes again at the end ends as it ended before.
    simp only [described, shown, List.map_append, List.filterMap_append, List.getLast?_append] at alike ⊢
    rw [alike]
    cases (List.filterMap _ (List.map _ batches.flatten)).getLast? <;> rfl

end Collection

/-- A snapshot is made of the descriptions of the collections alone. -/
theorem Registry.snapshot_eq (hall : Hall) (registry : Registry) :
    registry.snapshot hall = ⟨(registry.members.filterMap fun position =>
        (hall.collections.map Collection.info)[position]?).foldl (fun years info =>
      Keyed.alter info.year (fun infos => infos.getD [] ++ [info]) years) []⟩ := by
  -- Describing the members is looking their positions up among all descriptions.
  have infos : (hall.membersOf registry).map Collection.info =
      registry.members.filterMap fun position => (hall.collections.map Collection.info)[position]? := by
    rw [Hall.membersOf, List.map_filterMap]
    exact List.filterMap_congr fun position _ => (List.getElem?_map ..).symm
  rw [snapshot, ← infos, List.foldl_map]
  rfl

namespace Hall

variable {hall next : Hall}

/-- Registries of halls whose collections show the same lead on the same identifiers. -/
theorem Mirrors.identifiers_eq (mirrors : Mirrors [] hall) (also : Mirrors [] next)
    (shown : next.collections.map Collection.info = hall.collections.map Collection.info)
    {registry other : Registry} (registered : registry ∈ hall.registries)
    (listed : other ∈ next.registries) (members : other.members = registry.members) :
    other.index.identifiers = registry.index.identifiers := by
  have sound {hall : Hall} (mirrors : Mirrors [] hall) {registry : Registry}
      (registered : registry ∈ hall.registries) : registry.index.Sound := by
    obtain ⟨edition, mirrored⟩ :=
      (mirrors.current registry registered).resolve_left List.not_mem_nil
    exact mirrored ▸ Index.sound_build edition _
  have snapshots : other.snapshot next = registry.snapshot hall := by
    rw [Registry.snapshot_eq, Registry.snapshot_eq, members, shown]
  -- Both lists are in strict order, and lead on what the same snapshot advertises.
  refine eq_of_strictly_ordered (sound also listed).identifiers_pairwise
    (sound mirrors registered).identifiers_pairwise fun id => ?_
  have resolved := also.mem_addresses listed id
  rw [snapshots, mirrors.mem_addresses registered] at resolved
  rw [(sound also listed).mem_identifiers, (sound mirrors registered).mem_identifiers]
  exact resolved.symm

end Hall

end SolverHub
