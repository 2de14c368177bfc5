import SolverHub.Json.Printer
import SolverHub.Log.Entry

/-! A log entry is recorded as one JSON object on a line. -/

namespace SolverHub.Entry

/-- The JSON form of an entry, whose message comes before its details. -/
def toJson (entry : Entry) : Json :=
  .object [("level", .text entry.level.label),
    ("fields", .object (("message", .text entry.message) ::
      entry.details.map fun detail => (detail.1, .text detail.2))),
    ("target", .text entry.place.path)]

/-- The line on which an entry is recorded. -/
def record (entry : Entry) : String := entry.toJson.render

end SolverHub.Entry
