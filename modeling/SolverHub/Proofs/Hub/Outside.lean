import Mathlib
import SolverHub.Proofs.Catalogue.Namespaces
import SolverHub.Proofs.Catalogue.Notified
import SolverHub.Proofs.Hub.Bulk

/-! A file outside the directory of a collection changes nothing there, unless its path goes through the directory.

Such a path starts with the steps of the directory and turns back later: it is taken for one of a file inside. -/

namespace SolverHub

/-- The names down from the root after one more step, where a step upwards takes back the last of them. -/
def Component.follow (names : List String) : Component → List String
  | name text => names ++ [text]
  | up => names.dropLast
  | root | here => names

namespace Path

variable {path directory : Path}

/-- The names down from the root to where an absolute path leads without links. -/
def resolved (path : Path) : List String :=
  path.components.foldl Component.follow []

/-- A path leads to something in a directory, at whatever depth. -/
def LeadsBelow (path directory : Path) : Prop :=
  ∃ names, names ≠ [] ∧ path.resolved = directory.resolved ++ names

/-- A path goes through a directory as it is written, names something behind it and goes up there as well. -/
def TurnsBack (path directory : Path) : Prop :=
  ∃ steps, path.components = directory.components ++ steps ∧ .up ∈ steps ∧ ∃ text, .name text ∈ steps

/-- Steps that never go up lead down along their names. -/
theorem foldl_follow {steps : List Component} (down : .up ∉ steps) (names : List String) :
    steps.foldl Component.follow names = names ++ steps.filterMap Component.name? := by
  -- The induction follows the steps, each of which has a name or leads nowhere.
  induction steps generalizing names with
  | nil => exact (List.append_nil names).symm
  | cons step rest ih =>
    obtain ⟨other, others⟩ := not_or.mp (mt List.mem_cons.mpr down)
    rw [List.foldl_cons, ih others]
    cases step with
    | name text => rw [Component.follow, List.append_assoc]; rfl
    | up => exact absurd rfl other
    | root => rfl
    | here => rfl

/-- A path that goes through a directory and names something behind it leads below, if it does not turn back. -/
theorem leadsBelow_or_turnsBack {steps : List Component}
    (through : path.components = directory.components ++ steps) {text : String}
    (named : .name text ∈ steps) : path.LeadsBelow directory ∨ path.TurnsBack directory := by
  -- Without a step up the names behind the directory lead further down.
  by_cases turns : .up ∈ steps
  · exact .inr ⟨steps, through, turns, text, named⟩
  · refine .inl ⟨steps.filterMap Component.name?, ?_, ?_⟩
    · exact List.ne_nil_of_mem (List.mem_filterMap.mpr ⟨_, named, rfl⟩)
    · rw [resolved, through, List.foldl_append, foldl_follow turns]
      rfl

end Path

namespace Origin

variable {steps : List Component}

/-- There are no names among steps exactly if none of them has one. -/
theorem filterMap_name?_eq_nil_iff :
    steps.filterMap Component.name? = [] ↔ ∀ text, .name text ∉ steps := by
  rw [List.filterMap_eq_nil_iff]
  -- Any step but a name is passed over.
  constructor
  · intro nameless text member
    cases nameless _ member
  · intro nameless step member
    cases step with
    | name text => exact absurd member (nameless text)
    | root => rfl
    | here => rfl
    | up => rfl

/-- Steps without a name belong to no author, and all others do. -/
theorem authorOfSteps_eq_none_iff : authorOfSteps steps = none ↔ ∀ text, .name text ∉ steps := by
  rw [← filterMap_name?_eq_nil_iff, authorOfSteps]
  -- The first name is the author's, unless it is the only one.
  split <;> simp_all

end Origin

namespace Collection

variable {collection : Collection} {path : Path}

/-- A file has no author exactly if its path does not go through the directory to something with a name. -/
theorem authorOf?_file_eq_none_iff : collection.authorOf? (.file path) = none ↔
    ∀ steps, path.components = collection.directory.components ++ steps → ∀ text, .name text ∉ steps := by
  -- An author is told from the steps behind the directory, if the path has them.
  show (path.below? collection.directory).bind Origin.authorOfSteps = none ↔ _
  rw [Option.bind_eq_none_iff]
  simp only [Path.below?, Path.dropComponents?_eq_some, Origin.authorOfSteps_eq_none_iff]

/-- A file outside the directory has no author exactly if its path does not turn back behind the directory. -/
theorem authorOf?_outside (outside : ¬path.LeadsBelow collection.directory) :
    collection.authorOf? (.file path) = none ↔ ¬path.TurnsBack collection.directory := by
  rw [authorOf?_file_eq_none_iff]
  -- A path outside has a name behind the directory only if it turns back.
  constructor
  · rintro nameless ⟨steps, through, _, text, named⟩
    exact nameless steps through text named
  · intro straight steps through text named
    exact (Path.leadsBelow_or_turnsBack through named).elim outside straight

/-- All sets of a file with an author are merged. -/
theorem merge_snd_of_own {incoming : List (Origin × ProblemSet)}
    (own : ∀ pair ∈ incoming, collection.authorOf? pair.1 ≠ none) :
    (collection.merge incoming).2 = incoming.length := by
  -- The count is the number of sets that belong to the collection, which are all.
  rw [merge, foldl_mergeOne_snd, Nat.zero_add, List.countP_eq_length]
  exact fun pair member => Option.isSome_iff_ne_none.mpr (own pair member)

end Collection

namespace Hub

variable {collection : Collection} {path : Path} {position : Nat}

/-- A source leaves a collection as it is that has no author for its file. -/
theorem collection?_afterFile (hub : Hub) (here : hub.hall.collection? position = some collection)
    (foreign : collection.authorOf? (.file path) = none) :
    (hub.afterFile path).hall.collection? position = some collection := by
  -- The collection can change only if the file is covered and compiles.
  cases covered : hub.scope.covers path with
  | false => rwa [afterFile_uncovered covered]
  | true =>
    cases outcome : hub.compile path with
    | error error => rwa [afterFile_error outcome]
    | ok sets =>
      have nothing : ∀ pair ∈ batch hub.hall.numbered (path, sets), collection.authorOf? pair.1 = none := by
        intro pair member
        obtain ⟨_, _, rfl⟩ := List.mem_map.mp member
        exact foreign
      -- No set of the file belongs to the collection, so merging keeps it.
      have kept := Collection.merge_fst_of_snd ((collection.merge_snd_eq_zero_iff).mpr nothing)
      rw [Hall.collection?] at here ⊢
      rw [afterFile_ok covered outcome, collections_mergeFile, List.getElem?_map, here,
        Option.map_some, kept]

end Hub

namespace Collection

variable {collection : Collection} {path : Path}

/-- A file outside the directory of a collection is ignored there, unless its path turns back behind the directory.

Then it is taken for one of a file inside, and all its sets are merged. -/
theorem outside_ignored (outside : ¬path.LeadsBelow collection.directory) :
    (collection.authorOf? (.file path) = none ↔ ¬path.TurnsBack collection.directory) ∧
    (¬path.TurnsBack collection.directory →
      (∀ sets : List ProblemSet,
        collection.merge (sets.map fun set => (.file path, set)) = (collection, 0)) ∧
      -- Nobody is told of such a merge, and nothing is logged.
      (∀ (hall : Hall) (position : Nat) (shelf : Shelf) (sets : List ProblemSet),
        hall.shelves[position]? = some shelf → shelf.collection = collection →
          hall.merge position (sets.map fun set => (.file path, set)) = .quiet (hall, 0)) ∧
      ∀ (hub : Hub) (position : Nat), hub.hall.collection? position = some collection →
        (hub.loadFile path).value.1.hall.collection? position = some collection) ∧
    (path.TurnsBack collection.directory → ∀ sets : List ProblemSet,
      (collection.merge (sets.map fun set => (.file path, set))).2 = sets.length) := by
  refine ⟨authorOf?_outside outside, fun straight => ?ignored, fun turns sets => ?taken⟩
  case ignored =>
    have foreign := (authorOf?_outside outside).mpr straight
    have nowhere (sets : List ProblemSet) :
        ∀ pair ∈ sets.map fun set => (Origin.file path, set), collection.authorOf? pair.1 = none :=
      List.forall_mem_map.mpr fun _ _ => foreign
    refine ⟨fun sets => ?_, ?_, fun hub position here => hub.collection?_afterFile here foreign⟩
    · have nothing := collection.merge_snd_eq_zero_iff.mpr (nowhere sets)
      exact Prod.ext (merge_fst_of_snd nothing) nothing
    · rintro hall position shelf sets here rfl
      exact Hall.merge_of_foreign here (nowhere sets)
  case taken =>
    have own := mt (authorOf?_outside outside).mp (not_not_intro turns)
    rw [merge_snd_of_own (List.forall_mem_map.mpr fun _ _ => own), List.length_map]

/-- A file in a directory with a longer name is ignored, however its path is written. -/
theorem outside_ignored_longer :
    ¬(⟨"/srv//../srv/colder/./day.solver"⟩ : Path).LeadsBelow ⟨"/srv/cold/"⟩ ∧
      (empty "Puzzles" 2031 "sets" ⟨"/srv/cold/"⟩).authorOf?
        (.file ⟨"/srv//../srv/colder/./day.solver"⟩) = none := by
  have outside : ¬(⟨"/srv//../srv/colder/./day.solver"⟩ : Path).LeadsBelow ⟨"/srv/cold/"⟩ := by
    rintro ⟨names, _, below⟩
    exact absurd ⟨names, below.symm⟩ (by decide +kernel :
      ¬(⟨"/srv/cold/"⟩ : Path).resolved <+: (⟨"/srv//../srv/colder/./day.solver"⟩ : Path).resolved)
  -- The directory of the file only begins with the same letters.
  have straight : ¬(⟨"/srv//../srv/colder/./day.solver"⟩ : Path).TurnsBack ⟨"/srv/cold/"⟩ := by
    rintro ⟨steps, through, _⟩
    exact absurd ⟨steps, through.symm⟩ (by decide +kernel :
      ¬(⟨"/srv/cold/"⟩ : Path).components <+: (⟨"/srv//../srv/colder/./day.solver"⟩ : Path).components)
  obtain ⟨nobody, _⟩ := @outside_ignored (empty "Puzzles" 2031 "sets" ⟨"/srv/cold/"⟩) _ outside
  exact ⟨outside, nobody.mpr straight⟩

/-- A file outside the directory whose path turns back is taken for one of an author, and its sets are merged. -/
theorem not_ignored_turning :
    (⟨"/c"⟩ : Path).isAbsolute = true ∧ .up ∉ (⟨"/c"⟩ : Path).components ∧
      (⟨"/c/../out/x.so"⟩ : Path).isAbsolute = true ∧
      ¬(⟨"/c/../out/x.so"⟩ : Path).LeadsBelow ⟨"/c"⟩ ∧
      (empty "Puzzles" 2031 "sets" ⟨"/c"⟩).authorOf? (.file ⟨"/c/../out/x.so"⟩) = some "out" ∧
      ∀ set, ((empty "Puzzles" 2031 "sets" ⟨"/c"⟩).merge [(.file ⟨"/c/../out/x.so"⟩, set)]).2 = 1 := by
  -- The path is resolved to one outside, while its steps begin with the directory.
  have outside : ¬(⟨"/c/../out/x.so"⟩ : Path).LeadsBelow ⟨"/c"⟩ := by
    rintro ⟨names, _, below⟩
    exact absurd ⟨names, below.symm⟩ (by decide +kernel :
      ¬(⟨"/c"⟩ : Path).resolved <+: (⟨"/c/../out/x.so"⟩ : Path).resolved)
  have author : (empty "Puzzles" 2031 "sets" ⟨"/c"⟩).authorOf? (.file ⟨"/c/../out/x.so"⟩) = some "out" := by
    decide +kernel
  refine ⟨by decide +kernel, by decide +kernel, by decide +kernel, outside, author, fun set => ?_⟩
  refine merge_snd_of_own (List.forall_mem_singleton.mpr ?_)
  rw [author]
  exact Option.some_ne_none _

end Collection

end SolverHub
