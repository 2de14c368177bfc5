import SolverHub.Identifier
import SolverHub.Json.Printer
import SolverHub.Json.Reader
import SolverHub.Keyed
import SolverHub.Time.Rfc3339

/-! A snapshot describes all collections by year, and travels as one JSON object. -/

namespace SolverHub

/-- The description of a problem. -/
structure ProblemInfo where
  /-- The name of the problem. -/
  name : String
  /-- What the problem asks for. -/
  description : Option String
deriving DecidableEq

/-- The description of a problem set. -/
structure SetInfo where
  /-- The name of the set. -/
  name : String
  /-- The author of the set. -/
  author : String
  /-- The time at which the set was released. -/
  released : Instant
  /-- The problems in display order. -/
  problems : List ProblemInfo
deriving DecidableEq

/-- The description of a collection. -/
structure CollectionInfo where
  /-- The name of the puzzle source. -/
  source : String
  /-- The year of the puzzles. -/
  year : Year
  /-- The sets of each author, by author. -/
  authors : List (String × List SetInfo)
deriving DecidableEq

/-- The descriptions of all collections, by year. -/
structure Snapshot where
  /-- The collections of each year. -/
  collections : List (Year × List CollectionInfo)
deriving DecidableEq

namespace ProblemInfo

/-- The JSON form of a problem's description. -/
def toJson (problem : ProblemInfo) : Json :=
  .object [("name", .text problem.name), ("description", .ofText? problem.description)]

/-- The description of a problem that a JSON value holds. -/
def ofJson? (value : Json) : Option ProblemInfo := do
  match ← value.fieldsOf? ["name", "description"] with
  | [name, description] =>
    return { name := ← Json.requiredText? name, description := ← Json.optionalText? description }
  | _ => none

end ProblemInfo

namespace SetInfo

/-- The JSON form of a set's description. -/
def toJson (set : SetInfo) : Json :=
  .object [("name", .text set.name), ("author", .text set.author),
    ("releaseTime", .text set.released.render),
    ("problems", .list (set.problems.map ProblemInfo.toJson))]

/-- The description of a set that a JSON value holds. -/
def ofJson? (value : Json) : Option SetInfo := do
  match ← value.fieldsOf? ["name", "author", "releaseTime", "problems"] with
  | [name, author, released, problems] =>
    return {
      name := ← Json.requiredText? name
      author := ← Json.requiredText? author
      released := ← Instant.read? (← Json.requiredText? released)
      problems := ← (← problems).itemsOf? ProblemInfo.ofJson? }
  | _ => none

end SetInfo

namespace CollectionInfo

/-- The JSON form of a collection's description. -/
def toJson (collection : CollectionInfo) : Json :=
  .object [("source", .text collection.source), ("year", .ofNat collection.year.toNat),
    ("authors", .object (collection.authors.map fun entry =>
      (entry.1, .list (entry.2.map SetInfo.toJson))))]

/-- The sets of one author in an object of authors. -/
def authorSets? (entry : String × Json) : Option (String × List SetInfo) := do
  return (entry.1, ← entry.2.itemsOf? SetInfo.ofJson?)

/-- The authors of an object, of which a later one replaces an earlier one with its name. -/
def authorsOf? (value : Json) : Option (List (String × List SetInfo)) := do
  return Keyed.ofPairs (← (← value.entries?).mapM authorSets?)

/-- The description of a collection that a JSON value holds. -/
def ofJson? (value : Json) : Option CollectionInfo := do
  match ← value.fieldsOf? ["source", "year", "authors"] with
  | [source, year, authors] =>
    return {
      source := ← Json.requiredText? source
      year := ← Identifier.yearOfJson? (← year)
      authors := ← authorsOf? (← authors) }
  | _ => none

end CollectionInfo

namespace Snapshot

/-- The number of sets in all collections. -/
def setCount (snapshot : Snapshot) : Nat :=
  (snapshot.collections.flatMap (·.2)).foldl (fun count collection =>
    collection.authors.foldl (fun count entry => count + entry.2.length) count) 0

/-- The JSON form of a snapshot, whose years are written as texts. -/
def toJson (snapshot : Snapshot) : Json :=
  .object [("collections", .object (snapshot.collections.map fun entry =>
    (yearText entry.1, .list (entry.2.map CollectionInfo.toJson))))]

/-- The year that a text without sign and leading zeros names. -/
def yearOfKey? (key : String) : Option Year := do
  let value ← Text.digitsValue? key.toList
  if key = Text.natText value ∧ value < 65536 then return UInt16.ofNat value else none

/-- The collections of one year in an object of years. -/
def yearCollections? (entry : String × Json) : Option (Year × List CollectionInfo) := do
  return (← yearOfKey? entry.1, ← entry.2.itemsOf? CollectionInfo.ofJson?)

/-- The years of an object with plain names, of which a later one replaces an earlier one. -/
def yearsOf? : Json → Option (List (Year × List CollectionInfo))
  | .object entries => do return Keyed.ofPairs (← entries.mapM yearCollections?)
  | _ => none

/-- The snapshot that a JSON value holds. -/
def ofJson? (value : Json) : Option Snapshot := do
  match ← value.fieldsOf? ["collections"] with
  | [years] => return ⟨← yearsOf? (← years)⟩
  | _ => none

/-- The text of a snapshot. -/
def encode (snapshot : Snapshot) : String :=
  snapshot.toJson.render

/-- The snapshot that a text holds. -/
def decode? (text : String) : Option Snapshot := do
  ofJson? (← Json.parse? text)

end Snapshot

end SolverHub
