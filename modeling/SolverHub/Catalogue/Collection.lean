import SolverHub.Catalogue.Origin
import SolverHub.Catalogue.Snapshot
import SolverHub.Log.Entry
import SolverHub.Problem.Basic

/-! A collection holds the problem sets of one source and year by author, one set for each release time. -/

namespace SolverHub

/-- The problem sets of one source and year. -/
structure Collection where
  /-- The name of the puzzle source. -/
  source : String
  /-- The year of the puzzles. -/
  year : Year
  /-- The module whose submodules are named for authors. -/
  root : String
  /-- The directory whose subdirectories are named for authors. -/
  directory : Path
  /-- The sets of each author, by author, and by release time for each author. -/
  authors : List (String × List ProblemSet)

namespace Collection

/-- A collection without any sets. -/
def empty (source : String) (year : Year) (root : String) (directory : Path) : Collection :=
  ⟨source, year, root, directory, []⟩

/-- The author whose sets come from an origin, if the origin lies within the collection. -/
def authorOf? (collection : Collection) (origin : Origin) : Option String :=
  origin.author? collection.root collection.directory

/-- The sets of one author by release time. -/
def setsBy (collection : Collection) (author : String) : List ProblemSet :=
  (Keyed.get? author collection.authors).getD []

/-- A set replaces the first one with its release time, or comes last where there is none. -/
def replace (set : ProblemSet) : List ProblemSet → List ProblemSet
  | [] => [set]
  | held :: rest =>
    if held.released = set.released then set :: rest else held :: replace set rest

/-- A set joins others, after which they are in the order of their release times. -/
def place (set : ProblemSet) (sets : List ProblemSet) : List ProblemSet :=
  (replace set sets).mergeSort fun first second => first.released.notAfter second.released

/-- The collection after a set has been placed among those of an author. -/
def add (collection : Collection) (author : String) (set : ProblemSet) : Collection :=
  { collection with
    authors := Keyed.alter author (fun sets => place set (sets.getD [])) collection.authors }

/-- An author already has a set with the release time of another one. -/
def holds (collection : Collection) (author : String) (set : ProblemSet) : Bool :=
  (collection.setsBy author).any fun held => held.released = set.released

/-- A set is added under the author of its origin and counted, if the collection has one for it. -/
def mergeOne (state : Collection × Nat) (pair : Origin × ProblemSet) : Collection × Nat :=
  match state.1.authorOf? pair.1 with
  | some author => (state.1.add author pair.2, state.2 + 1)
  | none => state

/-- The entry for a set that is about to be merged. -/
def mergeEntry (collection : Collection) (origin : Origin) (set : ProblemSet) : Logged Unit :=
  match collection.authorOf? origin with
  | some author =>
    .entry .debug .collection
      (if collection.holds author set then "replacing problem set" else "adding problem set")
      [("source", collection.source), ("year", yearText collection.year), ("author", author),
        ("set", set.name), ("origin", origin.render)]
  | none => .quiet ()

/-- Some sets are merged in order, each replacing an earlier one of its author and release time.

The number is that of the sets that the collection has an author for. -/
def merge (collection : Collection) (incoming : List (Origin × ProblemSet)) : Collection × Nat :=
  incoming.foldl mergeOne (collection, 0)

/-- The entries for some sets that are merged in order. -/
def mergeEntries (collection : Collection) : List (Origin × ProblemSet) → Logged Unit
  | [] => .quiet ()
  | (origin, set) :: rest => do
    collection.mergeEntry origin set
    (mergeOne (collection, 0) (origin, set)).1.mergeEntries rest

/-- The description of a set of some author. -/
def setInfo (author : String) (set : ProblemSet) : SetInfo :=
  ⟨set.name, author, set.released,
    set.problems.map fun problem => ⟨problem.name, problem.description⟩⟩

/-- The description of a collection. -/
def info (collection : Collection) : CollectionInfo :=
  ⟨collection.source, collection.year,
    collection.authors.map fun entry => (entry.1, entry.2.map (setInfo entry.1))⟩

/-- The number of sets of all authors. -/
def setCount (collection : Collection) : Nat :=
  collection.authors.foldl (fun count entry => count + entry.2.length) 0

/-- Merging one set leaves everything but the sets of a collection as it is. -/
theorem mergeOne_fst (state : Collection × Nat) (pair : Origin × ProblemSet) :
    (mergeOne state pair).1 = { state.1 with authors := (mergeOne state pair).1.authors } := by
  -- Only the authors change, and they only where the origin has one.
  unfold mergeOne add
  split <;> rfl

end Collection

end SolverHub
