import Mathlib
import SolverHub.Proofs.Catalogue.Described
import SolverHub.Proofs.Catalogue.MergeAll
import SolverHub.Proofs.Hub.Loading

/-! Files that are merged in turn add their sets to every collection, one batch for each file. -/

namespace SolverHub.Hub

/-- What is merged from a file whose sets are numbered from a number on. -/
def batch (numbered : Nat) (file : Path × List ProblemSet) : List (Origin × ProblemSet) :=
  file.2.zipIdx.map fun (set, position) => (.file file.1, { set with serial := numbered + position })

/-- What is merged from some files in turn, whose sets are numbered one after another. -/
def batches (numbered : Nat) : List (Path × List ProblemSet) → List (List (Origin × ProblemSet))
  | [] => []
  | file :: rest => batch numbered file :: batches (numbered + file.2.length) rest

/-- The hub after the sets of some files have been merged in turn. -/
def mergeFiles (hub : Hub) (files : List (Path × List ProblemSet)) : Hub :=
  files.foldl (fun hub file => (hub.mergeFile file.1 file.2).value.1) hub

/-- Sets that have been numbered are described as they were before. -/
theorem described_batch (numbered : Nat) (file : Path × List ProblemSet) :
    Collection.described (batch numbered file) =
      file.2.map fun set => (.file file.1, Collection.setInfo "" set) :=
  -- Neither the position nor the number is shown.
  calc Collection.described (batch numbered file)
      = file.2.zipIdx.map ((fun set => (.file file.1, Collection.setInfo "" set)) ∘ Prod.fst) := by
        rw [Collection.described, batch, List.map_map]
        rfl
    _ = (file.2.zipIdx.map Prod.fst).map fun set => (.file file.1, Collection.setInfo "" set) :=
        (List.map_map ..).symm
    _ = file.2.map fun set => (.file file.1, Collection.setInfo "" set) := by rw [List.zipIdx_map_fst]

/-- What files show does not depend on how their sets are numbered. -/
theorem described_batches (first second : Nat) (files : List (Path × List ProblemSet)) :
    Collection.described (batches first files).flatten =
      Collection.described (batches second files).flatten := by
  -- The induction follows the files, whose sets get numbers one after another.
  induction files generalizing first second with
  | nil => rfl
  | cons file rest ih =>
    have others := ih (first + file.2.length) (second + file.2.length)
    have single := (described_batch first file).trans (described_batch second file).symm
    simp only [Collection.described] at others single ⊢
    rw [batches, batches, List.flatten_cons, List.flatten_cons, List.map_append, List.map_append,
      others, single]

section Merging

variable (hub : Hub)

/-- What is merged from a file is its batch, from the next number on. -/
theorem map_number (hall : Hall) (path : Path) (sets : List ProblemSet) :
    (hall.number sets).2.map (fun set => (.file path, set)) = batch hall.numbered (path, sets) :=
  -- The number goes into the sets before the path is put in front.
  List.map_map

/-- A file adds its batch to each collection. -/
theorem collections_mergeFile (path : Path) (sets : List ProblemSet) :
    (hub.mergeFile path sets).value.1.hall.collections = hub.hall.collections.map fun collection =>
      (collection.merge (batch hub.hall.numbered (path, sets))).1 := by
  -- A file is merged as one batch, into every collection.
  rw [value_mergeFile, ← map_number]
  exact Hall.collections_mergeAll _ _

/-- A file counts what its batch counts in each collection. -/
theorem count_mergeFile (path : Path) (sets : List ProblemSet) :
    (hub.mergeFile path sets).value.2 = (hub.hall.collections.map fun collection =>
      (collection.merge (batch hub.hall.numbered (path, sets))).2).sum := by
  -- The count is taken over all collections.
  rw [← map_number]
  exact Hall.count_mergeAll _ _

/-- Merging a file numbers its sets. -/
theorem numbered_mergeFile (path : Path) (sets : List ProblemSet) :
    (hub.mergeFile path sets).value.1.hall.numbered = hub.hall.numbered + sets.length := by
  -- Merging gives no numbers away, so only the sets of the file have got some.
  rw [value_mergeFile]
  exact Hall.numbered_mergeEach _ _ _

variable (files : List (Path × List ProblemSet))

/-- What each merge of a file keeps holds after files have been merged. -/
theorem mergeFiles_keeps {motive : Hub → Prop} (holds : motive hub)
    (keeps : ∀ hub path sets, motive hub → motive (hub.mergeFile path sets).value.1) :
    motive (hub.mergeFiles files) :=
  -- The induction follows the files.
  List.foldlRecOn files _ holds fun hub kept file _ => keeps hub file.1 file.2 kept

/-- Merging files changes nothing but the hall. -/
theorem mergeFiles_eq : hub.mergeFiles files = { hub with hall := (hub.mergeFiles files).hall } := by
  refine hub.mergeFiles_keeps files (motive := fun last => last = { hub with hall := last.hall })
    rfl fun _ _ _ same => ?_
  -- Each file changes the hall alone.
  rw [same]
  rfl

/-- Merging files depends on nothing but the hall. -/
theorem hall_mergeFiles {other : Hub} (same : other.hall = hub.hall) :
    (other.mergeFiles files).hall = (hub.mergeFiles files).hall := by
  -- The induction follows the files, which see nothing of a hub but its hall.
  unfold mergeFiles
  induction files generalizing hub other with
  | nil => exact same
  | cons file rest ih =>
    refine ih _ ?_
    dsimp only
    rw [value_mergeFile, value_mergeFile, same]

/-- Merging files leaves the sources as they are. -/
theorem scope_mergeFiles : (hub.mergeFiles files).scope = hub.scope :=
  -- None of the files moves a collection.
  hub.mergeFiles_keeps files (motive := fun last => last.scope = hub.scope) rfl
    fun _ _ _ same => (scope_mergeFile ..).trans same

/-- Merging files merges their batches into each collection. -/
theorem collections_mergeFiles :
    (hub.mergeFiles files).hall.collections = hub.hall.collections.map fun collection =>
      (collection.merges (batches hub.hall.numbered files)).1 := by
  unfold mergeFiles
  -- The induction follows the files; the next one starts with the numbers that are left.
  induction files generalizing hub with
  | nil => simp [batches, Collection.merges]
  | cons file rest ih =>
    rw [List.foldl_cons, ih, collections_mergeFile, numbered_mergeFile, List.map_map]
    rfl

/-- Merging files leaves numbers and members of registries. -/
theorem roster_mergeFiles : (hub.mergeFiles files).hall.roster = hub.hall.roster := by
  refine hub.mergeFiles_keeps files (motive := fun last => last.hall.roster = hub.hall.roster) rfl
    fun last path sets same => ?_
  -- None of the files opens or closes a registry.
  rw [value_mergeFile, ← same]
  exact Hall.roster_mergeEach _ _ _

/-- Every registry mirrors its collections in a hall whose sets are numbered otherwise. -/
theorem mirrors_number {hall : Hall} (mirrors : Hall.Mirrors [] hall) (sets : List ProblemSet) :
    Hall.Mirrors [] (hall.number sets).1 :=
  -- Numbers for sets are given away beside shelves and registries.
  ⟨mirrors.merged, mirrors.distinct, mirrors.opened, mirrors.listens, mirrors.current⟩

/-- Every registry mirrors its collections after files have been merged. -/
theorem mirrors_mergeFiles {hub : Hub} (mirrors : Hall.Mirrors [] hub.hall) :
    Hall.Mirrors [] (hub.mergeFiles files).hall :=
  -- Each file leaves the registries up to date.
  hub.mergeFiles_keeps files (motive := fun last => Hall.Mirrors [] last.hall) mirrors
    fun _ _ sets kept => (mirrors_number kept sets).mergeEach _ _

end Merging

end SolverHub.Hub
