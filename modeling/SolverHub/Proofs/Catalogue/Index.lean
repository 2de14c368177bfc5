import Mathlib.Data.String.Basic
import SolverHub.Catalogue.Index
import SolverHub.Proofs.Identifier
import SolverHub.Proofs.Nested

/-! An index leads each identifier to the last problem it addresses and counts what can be found. -/

namespace SolverHub

/-- Years are in a strict total order. -/
instance : IsStrictTotalOrder Year (· < ·) where
  irrefl _ := UInt16.lt_irrefl _
  trans _ _ _ := UInt16.lt_trans
  trichotomous _ _ notLess notGreater :=
    UInt16.le_antisymm (UInt16.not_lt.mp notGreater) (UInt16.not_lt.mp notLess)

namespace Index

/-- The parts of an identifier in the order in which an index looks them up. -/
abbrev Route := Year × String × String × String × String

/-- The route of an identifier. -/
def route (id : Identifier) : Route :=
  (id.year, id.source, id.author, id.setName, id.problemName)

/-- The identifier of a route. -/
def identifier (route : Route) : Identifier :=
  ⟨route.2.1, route.1, route.2.2.1, route.2.2.2.1, route.2.2.2.2⟩

/-- The levels of an index, from years down to the names of problems. -/
def level : Keyed.Level Route Listed (Year × Sources) :=
  .above (.above (.above (.above .lowest)))

/-- An index is sound if its lists are in order and its size is the number of its routes. -/
structure Sound (index : Index) : Prop where
  levels : level.Sound index.years
  counted : index.size = (level.keys index.years).length

/-- An identifier leads to what is found on the levels along its route. -/
theorem get?_eq_find? (index : Index) (id : Identifier) :
    index.get? id = level.find? index.years (route id) := rfl

/-- The identifiers of an index are those of its routes, sorted. -/
theorem identifiers_eq (index : Index) :
    index.identifiers = ((level.keys index.years).map identifier).mergeSort Identifier.notAfter := by
  -- The nested loops over the lists list the routes of the levels one by one.
  simp [identifiers, level, Keyed.Level.above, Keyed.Level.lowest, identifier, List.map_flatMap,
    Function.comp_def]

/-- Different routes have different identifiers. -/
theorem identifier_injective : Function.Injective identifier :=
  fun _ _ same => congrArg route same

/-- The identifiers of a sound index come in strict order. -/
theorem Sound.identifiers_pairwise {index : Index} (sound : index.Sound) :
    index.identifiers.Pairwise fun first second => first.order second = .lt := by
  -- No route is listed twice, so sorting leaves no two neighbours equal.
  rw [identifiers_eq]
  exact Identifier.pairwise_mergeSort ((level.nodup_keys sound.levels).map identifier_injective)

/-- The identifiers of a sound index are those that lead to a problem. -/
theorem Sound.mem_identifiers {index : Index} (sound : index.Sound) (id : Identifier) :
    id ∈ index.identifiers ↔ (index.get? id).isSome := by
  -- Sorting keeps the members, and the levels list what they lead to.
  rw [identifiers_eq, List.mem_mergeSort, get?_eq_find?, ← level.mem_keys sound.levels]
  exact List.mem_map_of_injective identifier_injective (a := route id)

/-- The size of a sound index is the number of its identifiers. -/
theorem Sound.size_eq {index : Index} (sound : index.Sound) :
    index.size = index.identifiers.length := by
  -- Sorting the identifiers and turning routes into them changes no length.
  rw [identifiers_eq, List.length_mergeSort, List.length_map, sound.counted]

section Build

open Keyed (beneath under)
open Keyed.Level (Adds above lowest adds_putCounted)

variable (edition : Nat)

/-- What a problem at a position of a set puts in. -/
def problemPairs (place : List Nat) (set : ProblemSet) (item : Problem × Nat) :
    List (String × Listed) :=
  [(item.1.name, ⟨item.1, handleAt edition place set item.2⟩)]

/-- What a set at a position puts in, in display order. -/
def setPairs (place : List Nat) (item : ProblemSet × Nat) : List ((String × String) × Listed) :=
  beneath item.1.name
    (item.1.problems.zipIdx.flatMap (problemPairs edition (item.2 :: place) item.1))

/-- What an author at a position puts in, in the order of the sets. -/
def authorPairs (place : List Nat) (item : (String × List ProblemSet) × Nat) :
    List ((String × String × String) × Listed) :=
  beneath item.1.1 (item.1.2.zipIdx.flatMap (setPairs edition (item.2 :: place)))

/-- What a collection at a position puts in, in the order of its authors. -/
def collectionPairs (item : Collection × Nat) : List (Route × Listed) :=
  beneath item.1.year
    (beneath item.1.source (item.1.authors.zipIdx.flatMap (authorPairs edition [item.2])))

/-- Building an index puts in what its collections do, in their order. -/
theorem adds_addCollections (collections : List Collection) :
    level.Adds (fun years => collections.zipIdx.foldl (addCollection edition) years)
      (collections.zipIdx.flatMap (collectionPairs edition)) := by
  -- Each function of the build visits one key and folds the function below it over the items there.
  have problem (place : List Nat) (set : ProblemSet) (item : Problem × Nat) :
      lowest.Adds (addProblem edition place set · item) (problemPairs edition place set item) :=
    adds_putCounted item.1.name _
  have set (place : List Nat) (item : ProblemSet × Nat) :
      (above lowest).Adds (addSet edition place · item) (setPairs edition place item) :=
    (Adds.foldl (problem _ _) _).visit item.1.name
  have author (place : List Nat) (item : (String × List ProblemSet) × Nat) :
      (above (above lowest)).Adds (addAuthor edition place · item)
        (authorPairs edition place item) :=
    (Adds.foldl (set _) _).visit item.1.1
  have collection (item : Collection × Nat) :
      level.Adds (addCollection edition · item) (collectionPairs edition item) :=
    ((Adds.foldl (author _) _).visit item.1.source).visit item.1.year
  exact Adds.foldl collection _

/-- An index is sound after it has been built. -/
theorem sound_build (collections : List Collection) : (build edition collections).Sound := by
  -- The count starts at nothing in an empty list, so what it gained is all there is.
  obtain ⟨levels, _, counted⟩ := adds_addCollections edition collections [] 0 level.sound_nil
  refine ⟨levels, ?_⟩
  rw [level.keys_nil, List.length_nil, Nat.zero_add] at counted
  exact counted

/-- An identifier leads to the last of what was put in under its route. -/
theorem get?_build (collections : List Collection) (id : Identifier) :
    (build edition collections).get? id =
      (under (route id) (collections.zipIdx.flatMap (collectionPairs edition))).getLast? := by
  -- An empty index has nothing that could show through.
  obtain ⟨_, found, _⟩ := adds_addCollections edition collections [] 0 level.sound_nil
  rw [get?_eq_find?]
  exact (found (route id)).trans (by rw [level.find?_nil, Option.or_none])

/-- Items without their positions give the same where positions do not matter. -/
theorem flatMap_zipIdx {α β : Type} {items : List α} {numbered : α × Nat → List β}
    {plain : α → List β}
    (same : ∀ item ∈ items, ∀ position, numbered (item, position) = plain item) :
    items.zipIdx.flatMap numbered = items.flatMap plain :=
  -- Where the position plays no part, the numbers can be left off.
  calc items.zipIdx.flatMap numbered
      = items.zipIdx.flatMap fun item => plain item.1 :=
        List.flatMap_congr fun item member => same item.1 (List.fst_mem_of_mem_zipIdx member) item.2
    _ = (items.zipIdx.map Prod.fst).flatMap plain := (List.flatMap_map Prod.fst plain _).symm
    _ = items.flatMap plain := by rw [List.zipIdx_map_fst]

/-- Items that give nothing can be left out. -/
theorem flatMap_ite {α β : Type} (keeps : α → Prop) [DecidablePred keeps] (give : α → List β)
    (items : List α) :
    (items.flatMap fun item => if keeps item then give item else []) =
      (items.filter keeps).flatMap give := by
  -- The induction follows the items, each of which is kept or gives nothing.
  induction items with
  | nil => rfl
  | cons item rest ih =>
    rw [List.flatMap_cons, ih]
    by_cases kept : keeps item
    · simp [kept]
    · simp [kept]

/-- What comes from one key of a sorted list comes from what is found under it. -/
theorem flatMap_get? {α β : Type} {give : List α → List β} (nothing : give [] = [])
    {entries : List (String × List α)} (sorted : Keyed.Sorted entries) (key : String) :
    (entries.flatMap fun entry => if entry.1 = key then give entry.2 else []) =
      give ((Keyed.get? key entries).getD []) := by
  -- The induction follows the entries, of which at most one has the key.
  induction entries with
  | nil => exact nothing.symm
  | cons entry rest ih =>
    obtain ⟨before, later⟩ := List.pairwise_cons.mp sorted
    rw [List.flatMap_cons, ih later, Keyed.get?]
    by_cases same : key = entry.1
    · -- The keys behind it are greater.
      have absent : Keyed.get? key rest = none :=
        Keyed.get?_eq_none_of_lt fun other member => same ▸ before other member
      rw [if_pos same.symm, if_pos same, absent, Option.getD_none, nothing, List.append_nil,
        Option.getD_some]
    · rw [if_neg (Ne.symm same), if_neg same, List.nil_append]

/-- The problems of a set that have a name, in display order. -/
def named (name : String) (set : ProblemSet) : List Problem :=
  set.problems.filter fun problem => problem.name = name

/-- The problems of some sets that have a name, set by set. -/
def inSets (setName name : String) (sets : List ProblemSet) : List Problem :=
  (sets.filter fun set => set.name = setName).flatMap (named name)

/-- The problems that an identifier addresses.

They come in the order of the collections, then of the author's sets, and then in display order. -/
def matching (collections : List Collection) (id : Identifier) : List Problem :=
  (collections.filter fun collection =>
      collection.year = id.year ∧ collection.source = id.source).flatMap fun collection =>
    inSets id.setName id.problemName (collection.setsBy id.author)

/-- An identifier addresses problems by the collection, the set and the name that they have. -/
theorem mem_matching {collections : List Collection} {id : Identifier} {problem : Problem} :
    problem ∈ matching collections id ↔
      ∃ collection ∈ collections, (collection.year = id.year ∧ collection.source = id.source) ∧
        ∃ set ∈ collection.setsBy id.author, set.name = id.setName ∧
          problem ∈ set.problems ∧ problem.name = id.problemName := by
  -- Membership goes through the filters and lists of the definition in turn.
  simp [matching, inSets, named, and_assoc]

/-- A set puts in those of its problems that have a name under that name. -/
theorem under_setPairs (place : List Nat) (set : ProblemSet) (position : Nat)
    (setName name : String) :
    (under (setName, name) (setPairs edition place (set, position))).map (·.problem) =
      if set.name = setName then named name set else [] := by
  -- Under another set name nothing is put in, and under this one each problem counts for itself.
  rw [setPairs, Keyed.under_beneath]
  split
  · have single (problem : Problem) (index : Nat) :
        (under name (problemPairs edition (position :: place) set (problem, index))).map
          (·.problem) = if problem.name = name then [problem] else [] := by
      by_cases same : problem.name = name
      · simp [under, problemPairs, same]
      · simp [under, problemPairs, same]
    rw [Keyed.under_flatMap, List.map_flatMap, flatMap_zipIdx fun item _ => single item, flatMap_ite, named]
    simp
  · rfl

/-- An author puts in the problems with a name of the sets with a name. -/
theorem under_authorPairs (place : List Nat) (entry : String × List ProblemSet) (position : Nat)
    (author setName name : String) :
    (under (author, setName, name) (authorPairs edition place (entry, position))).map (·.problem) =
      if entry.1 = author then inSets setName name entry.2 else [] := by
  -- Only the sets of the author matter, and each of them puts in what its name allows.
  rw [authorPairs, Keyed.under_beneath]
  split
  · have single (set : ProblemSet) (index : Nat) :=
      under_setPairs edition (position :: place) set index setName name
    rw [Keyed.under_flatMap, List.map_flatMap, flatMap_zipIdx fun item _ => single item, flatMap_ite, inSets]
  · rfl

/-- A collection puts in what an identifier addresses, where its authors are in order. -/
theorem under_collectionPairs {collection : Collection} (sorted : Keyed.Sorted collection.authors)
    (position : Nat) (id : Identifier) :
    (under (route id) (collectionPairs edition (collection, position))).map (·.problem) =
      if collection.year = id.year ∧ collection.source = id.source then
        inSets id.setName id.problemName (collection.setsBy id.author)
      else [] := by
  -- Year and source are the first two parts of the route, and the author is the next.
  rw [collectionPairs, route, Keyed.under_beneath, Keyed.under_beneath, ite_and]
  split
  · split
    · have single (entry : String × List ProblemSet) (index : Nat) :=
        under_authorPairs edition [position] entry index id.author id.setName id.problemName
      rw [Keyed.under_flatMap, List.map_flatMap, flatMap_zipIdx fun item _ => single item]
      exact flatMap_get? rfl sorted id.author
    · rfl
  · rfl

/-- An identifier leads to the last problem that it addresses, if there is one. -/
theorem problem_get?_build {collections : List Collection}
    (sorted : ∀ collection ∈ collections, Keyed.Sorted collection.authors) (id : Identifier) :
    ((build edition collections).get? id).map (·.problem) = (matching collections id).getLast? := by
  -- What is under the route comes collection by collection, of which others put in nothing.
  have single (collection : Collection) (member : collection ∈ collections) (position : Nat) :=
    under_collectionPairs edition (sorted collection member) position id
  rw [get?_build, ← List.getLast?_map, Keyed.under_flatMap, List.map_flatMap,
    flatMap_zipIdx single, flatMap_ite, matching]

end Build

end Index

end SolverHub
