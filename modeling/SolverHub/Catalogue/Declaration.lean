import SolverHub.Catalogue.Collection

/-! A declaration names the module of a collection, which also gives the collection its directory. -/

namespace SolverHub

/-- A collection that the program declares. -/
structure Declaration where
  /-- The name of the puzzle source. -/
  source : String
  /-- The year of the puzzles. -/
  year : Year
  /-- The module whose submodules are named for authors. -/
  root : String
deriving DecidableEq, Repr

namespace Declaration

/-- The directories below the root of all solvers, one for each segment after the first. -/
def steps (declaration : Declaration) : List Path :=
  (Text.segments declaration.root.toList).tail.map fun segment => ⟨String.ofList segment⟩

/-- The directory of the collection below the root of all solvers. -/
def directoryUnder (declaration : Declaration) (solvers : Path) : Path :=
  declaration.steps.foldl Path.join solvers

/-- The collection without any sets, below the root of all solvers. -/
def collectionUnder (declaration : Declaration) (solvers : Path) : Collection :=
  .empty declaration.source declaration.year declaration.root (declaration.directoryUnder solvers)

end Declaration

end SolverHub
