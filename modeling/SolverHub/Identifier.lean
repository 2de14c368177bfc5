import SolverHub.Json.Record
import SolverHub.Text.Blank

/-! An identifier addresses one problem by its source, year, author, set and name. -/

namespace SolverHub

/-- The year of a collection. -/
abbrev Year := UInt16

/-- The decimal text of a year. -/
def yearText (year : Year) : String :=
  Text.natText year.toNat

/-- The first year that puzzles are filed under. -/
def minYear : Nat := 2015

/-- The last year that puzzles are filed under. -/
def maxYear : Nat := 2100

/-- Puzzles can be filed under a year. -/
def yearInRange (year : Year) : Bool :=
  minYear ≤ year.toNat && year.toNat ≤ maxYear

/-- The address of one problem. -/
structure Identifier where
  /-- The name of the puzzle source. -/
  source : String
  /-- The year of the puzzle. -/
  year : Year
  /-- The author of the solution. -/
  author : String
  /-- The name of the problem set. -/
  setName : String
  /-- The name of the problem within its set. -/
  problemName : String
deriving DecidableEq, Repr, Inhabited

/-- The parts of an identifier that are names. -/
inductive NameField
  | source
  | author
  | setName
  | problemName
deriving DecidableEq, Repr

/-- The word that stands for a name field. -/
def NameField.label : NameField → String
  | .source => "source"
  | .author => "author"
  | .setName => "setName"
  | .problemName => "problemName"

/-- The reasons for which an identifier cannot address a problem. -/
inductive IdentifierError
  /-- Puzzles are not filed under the year. -/
  | yearOutOfRange (year : Year)
  /-- A name has no visible part. -/
  | emptyField (field : NameField)
deriving DecidableEq, Repr

/-- The wording of an identifier error. -/
def IdentifierError.message : IdentifierError → String
  | .yearOutOfRange year =>
    "Year " ++ yearText year ++ " is outside the supported range " ++ Text.natText minYear ++
      "..=" ++ Text.natText maxYear
  | .emptyField field => "Identifier field `" ++ field.label ++ "` must not be empty"

namespace Identifier

/-- The names of an identifier in the order in which they are checked. -/
def names (id : Identifier) : List (NameField × String) :=
  [(.source, id.source), (.author, id.author), (.setName, id.setName),
    (.problemName, id.problemName)]

/-- An identifier is checked for its year first and then for its names in order. -/
def validate (id : Identifier) : Except IdentifierError Unit :=
  if !yearInRange id.year then .error (.yearOutOfRange id.year)
  else match id.names.find? fun name => Text.isBlankText name.2 with
    | some (field, _) => .error (.emptyField field)
    | none => .ok ()

/-- An identifier that passes its check. -/
def checked (id : Identifier) : Except IdentifierError Identifier :=
  id.validate.map fun _ => id

/-- The text of an identifier, its parts between slashes. -/
def render (id : Identifier) : String :=
  id.source ++ "/" ++ yearText id.year ++ "/" ++ id.author ++ "/" ++ id.setName ++ "/" ++
    id.problemName

/-- Identifiers are ordered part by part, names by their code points. -/
def order (first second : Identifier) : Ordering :=
  (compare first.source second.source).then <|
    (compare first.year second.year).then <|
      (compare first.author second.author).then <|
        (compare first.setName second.setName).then (compare first.problemName second.problemName)

/-- An identifier comes before another or equals it. -/
def notAfter (first second : Identifier) : Bool :=
  (order first second).isLE

/-- The JSON form of an identifier. -/
def toJson (id : Identifier) : Json :=
  .object [("source", .text id.source), ("year", .ofNat id.year.toNat), ("author", .text id.author),
    ("setName", .text id.setName), ("problemName", .text id.problemName)]

/-- The year that a number names, if it fits. -/
def yearOfJson? (value : Json) : Option Year :=
  (value.unsigned? 16).map UInt16.ofNat

/-- An identifier is read without being checked. -/
def ofJson? (value : Json) : Option Identifier := do
  match ← value.fieldsOf? ["source", "year", "author", "setName", "problemName"] with
  | [source, year, author, setName, problemName] =>
    return {
      source := ← Json.requiredText? source
      year := ← yearOfJson? (← year)
      author := ← Json.requiredText? author
      setName := ← Json.requiredText? setName
      problemName := ← Json.requiredText? problemName }
  | _ => none

end Identifier

end SolverHub
