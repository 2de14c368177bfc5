import SolverHub.Catalogue.Snapshot

/-! A snapshot is valid if all its years are in range, all its names are visible and all its sets belong to their year. -/

namespace SolverHub

/-- The first thing that is wrong with a snapshot. -/
inductive ValidationError
  | yearOutOfRange (source : String) (year : Year)
  | emptySource (year : Year)
  | emptyAuthor (source : String) (year : Year)
  | emptySetName (source : String) (year : Year) (author : String)
  | emptyProblemName (source : String) (year : Year) (author set : String)
  | releaseYearMismatch (source : String) (year : Year) (author set : String) (released : Int)
deriving DecidableEq, Repr

/-- The wording of a validation error. -/
def ValidationError.message : ValidationError → String
  | .yearOutOfRange source year =>
    "Collection " ++ source ++ " has year " ++ yearText year ++ " outside the supported range"
  | .emptySource year => "Collection for year " ++ yearText year ++ " has an empty source"
  | .emptyAuthor source year =>
    "Collection " ++ source ++ "/" ++ yearText year ++ " has an empty author name"
  | .emptySetName source year author =>
    "Problem set by " ++ author ++ " in " ++ source ++ "/" ++ yearText year ++
      " has an empty name"
  | .emptyProblemName source year author set =>
    "Problem in set " ++ set ++ " by " ++ author ++ " (" ++ source ++ "/" ++ yearText year ++
      ") has an empty name"
  | .releaseYearMismatch source year author set released =>
    "Problem set " ++ set ++ " by " ++ author ++ " was released in " ++ Text.intText released ++
      ", not " ++ yearText year ++ " (" ++ source ++ ")"

/-- A condition that fails with an error. -/
def ensure (holds : Bool) (error : ValidationError) : Except ValidationError Unit :=
  if holds then .ok () else .error error

/-- A set has a name, belongs to its year and names its problems. -/
def SetInfo.validate (collection : CollectionInfo) (author : String) (set : SetInfo) :
    Except ValidationError Unit := do
  ensure (!Text.isBlankText set.name)
    (.emptySetName collection.source collection.year author)
  ensure (set.released.year == collection.year.toNat)
    (.releaseYearMismatch collection.source collection.year author set.name set.released.year)
  ensure (set.problems.all fun problem => !Text.isBlankText problem.name)
    (.emptyProblemName collection.source collection.year author set.name)

/-- An author has a name and valid sets. -/
def CollectionInfo.validateAuthor (collection : CollectionInfo)
    (entry : String × List SetInfo) : Except ValidationError Unit := do
  ensure (!Text.isBlankText entry.1) (.emptyAuthor collection.source collection.year)
  entry.2.forM (SetInfo.validate collection entry.1)

/-- A collection has a year in range, a source and valid authors. -/
def CollectionInfo.validate (collection : CollectionInfo) : Except ValidationError Unit := do
  ensure (yearInRange collection.year) (.yearOutOfRange collection.source collection.year)
  ensure (!Text.isBlankText collection.source) (.emptySource collection.year)
  collection.authors.forM collection.validateAuthor

/-- A snapshot is checked year by year and collection by collection up to the first error. -/
def Snapshot.validate (snapshot : Snapshot) : Except ValidationError Unit :=
  (snapshot.collections.flatMap (·.2)).forM CollectionInfo.validate

end SolverHub
