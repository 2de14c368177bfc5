import SolverHub.Catalogue.Collection

/-! An index leads from identifiers to problems, the last one listed under an identifier winning. -/

namespace SolverHub

/-- What tells one problem object from all others. -/
inductive Handle
  /-- The problem at a position of a set that hands out the same problems each time. -/
  | kept (serial position : Nat)
  /-- The problem at a place of an edition, made for it by a set that makes its problems anew. -/
  | fresh (edition : Nat) (place : List Nat)
deriving DecidableEq, Repr

/-- A problem that can be found. -/
structure Listed where
  /-- The problem. -/
  problem : Problem
  /-- What tells it from other problems. -/
  handle : Handle

namespace Index

/-- Problems by their names. -/
abbrev Problems := List (String × Listed)

/-- Problems by their sets. -/
abbrev Sets := List (String × Problems)

/-- Problems by their authors. -/
abbrev Authors := List (String × Sets)

/-- Problems by their sources. -/
abbrev Sources := List (String × Authors)

/-- Problems by their years. -/
abbrev Years := List (Year × Sources)

end Index

/-- The problems that identifiers lead to, level by level. -/
structure Index where
  /-- The problems by year, source, author, set and name. -/
  years : Index.Years
  /-- The number of problems. -/
  size : Nat

namespace Index

/-- No identifier leads anywhere. -/
def empty : Index := ⟨[], 0⟩

/-- The handle of the problem at a position of a set, which has a place in an edition. -/
def handleAt (edition : Nat) (place : List Nat) (set : ProblemSet) (position : Nat) : Handle :=
  if set.remade then .fresh edition (position :: place) else .kept set.serial position

/-- A problem joins those of its set, where it counts unless it hides one with its name. -/
def addProblem (edition : Nat) (place : List Nat) (set : ProblemSet) (problems : Problems × Nat)
    (item : Problem × Nat) : Problems × Nat :=
  Keyed.putCounted item.1.name ⟨item.1, handleAt edition place set item.2⟩ problems

/-- The problems of a set join those of earlier sets with its name. -/
def addSet (edition : Nat) (place : List Nat) (sets : Sets × Nat) (item : ProblemSet × Nat) :
    Sets × Nat :=
  Keyed.visit item.1.name
    (fun problems =>
      item.1.problems.zipIdx.foldl (addProblem edition (item.2 :: place) item.1) problems) sets

/-- The sets of an author join those that the author has in earlier collections. -/
def addAuthor (edition : Nat) (place : List Nat) (authors : Authors × Nat)
    (item : (String × List ProblemSet) × Nat) : Authors × Nat :=
  Keyed.visit item.1.1
    (fun sets => item.1.2.zipIdx.foldl (addSet edition (item.2 :: place)) sets) authors

/-- The authors of a collection join those of earlier collections with its year and source. -/
def addCollection (edition : Nat) (years : Years × Nat) (item : Collection × Nat) : Years × Nat :=
  Keyed.visit item.1.year
    (Keyed.visit item.1.source fun authors =>
      item.1.authors.zipIdx.foldl (addAuthor edition [item.2]) authors) years

/-- The index of some collections, in which a later problem hides an earlier one. -/
def build (edition : Nat) (collections : List Collection) : Index :=
  let built := collections.zipIdx.foldl (addCollection edition) ([], 0)
  ⟨built.1, built.2⟩

/-- The problem that an identifier leads to. -/
def get? (index : Index) (id : Identifier) : Option Listed := do
  let sources ← Keyed.get? id.year index.years
  let authors ← Keyed.get? id.source sources
  let sets ← Keyed.get? id.author authors
  let problems ← Keyed.get? id.setName sets
  Keyed.get? id.problemName problems

/-- The identifiers that lead to a problem, in order. -/
def identifiers (index : Index) : List Identifier :=
  let found := index.years.flatMap fun (year, sources) =>
    sources.flatMap fun (source, authors) =>
      authors.flatMap fun (author, sets) =>
        sets.flatMap fun (setName, problems) =>
          problems.map fun (problemName, _) => ⟨source, year, author, setName, problemName⟩
  found.mergeSort Identifier.notAfter

end Index

end SolverHub
