import SolverHub.Http.Percent
import SolverHub.Identifier
import SolverHub.Text.Lines

/-! A route is what a request asks for, as its path tells. -/

namespace SolverHub

/-- What a request asks for. -/
inductive Route
  /-- A session, with the five fields of an identifier as they were written. -/
  | solve (source year author setName problemName : String)
  /-- The descriptions of all problems. -/
  | problems
  /-- A sign of life. -/
  | health
deriving DecidableEq, Repr

namespace Route

/-- The part of a request target before the query. -/
def pathOf (target : List Char) : List Char :=
  target.takeWhile fun c => c ≠ '?' && c ≠ '#'

/-- The route of the fields between the slashes of a path.

Every field of an identifier but the last may be empty at this point. -/
def ofFields? : List String → Option Route
  | ["", "problems"] => some problems
  | ["", "health"] => some health
  | ["", "solve", source, year, author, setName, problemName] =>
    if problemName.isEmpty then none else some (solve source year author setName problemName)
  | _ => none

/-- The route of a request target. -/
def ofTarget? (target : String) : Option Route :=
  ofFields? ((Text.fields '/' (pathOf target.toList)).map String.ofList)

/-- The words for years. -/
def yearWord : Bounds := .unsigned 16

/-- The year that a field names. -/
def year? (field : String) : Option Year :=
  (Text.readInt yearWord field.toList).toOption.map fun value => UInt16.ofNat value.toNat

/-- The identifier that the fields of a route stand for, which is still to be checked. -/
def identifier? (source year author setName problemName : String) : Option Identifier := do
  let source ← Percent.decode? source
  let year ← Percent.decode? year
  let author ← Percent.decode? author
  let setName ← Percent.decode? setName
  let problemName ← Percent.decode? problemName
  return ⟨source, ← year? year, author, setName, problemName⟩

end Route

end SolverHub
