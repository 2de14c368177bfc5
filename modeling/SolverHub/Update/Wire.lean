import SolverHub.Json.Printer
import SolverHub.Json.Reader
import SolverHub.Update.Basic

/-! An update travels as one flat JSON object that holds its kind, its identifier and its payload. -/

namespace SolverHub

namespace Glyph

/-- The JSON form of a glyph, which leaves out absent colours. -/
def toJson (glyph : Glyph) : Json :=
  .object <| ("glyph", .text glyph.glyph) ::
    ((glyph.foreground.map fun color => ("foreground", Json.text color)).toList ++
      (glyph.background.map fun color => ("background", Json.text color)).toList)

/-- A glyph in a list of at most three parts leaves out the colours at its end. -/
def padded : Json → Json
  | .list [glyph] => .list [glyph, .null, .null]
  | .list [glyph, foreground] => .list [glyph, foreground, .null]
  | value => value

/-- A glyph is read with the colours that it has. -/
def ofJson? (value : Json) : Option Glyph := do
  match ← (padded value).fieldsOf? ["glyph", "foreground", "background"] with
  | [glyph, foreground, background] =>
    return {
      glyph := ← Json.requiredText? glyph
      foreground := ← Json.optionalText? foreground
      background := ← Json.optionalText? background }
  | _ => none

end Glyph

namespace UpdateKind

/-- The words for the kinds of updates, in the order in which a number can stand for them. -/
def labels : List String := ["start", "text", "grid", "glyph-grid", "table", "finished"]

/-- The word for the kind of an update. -/
def label : UpdateKind → String
  | start => "start"
  | text _ => "text"
  | grid _ => "grid"
  | glyphGrid _ => "glyph-grid"
  | table _ _ => "table"
  | finished _ => "finished"

/-- The JSON entries of a payload. -/
def payload : UpdateKind → List (String × Json)
  | start => []
  | text line => [("text", .text line)]
  | grid rows => [("rows", .ofTexts rows)]
  | glyphGrid rows => [("rows", .list (rows.map fun row => .list (row.map Glyph.toJson)))]
  | table headers rows =>
    [("headers", .ofTexts headers), ("rows", .list (rows.map Json.ofTexts))]
  | finished verdict =>
    [("successful", .bool verdict.successful), ("solution", .ofText? verdict.solution),
      ("error", .ofText? verdict.error),
      ("elapsedNanoseconds",
        match verdict.elapsedNanoseconds with
        | none => .null
        | some elapsed => .int elapsed.toInt)]

/-- The word for a kind, which is also named by its position. -/
def labelOf? : Json → Option String
  | .text label => some label
  | .int position => if 0 ≤ position then labels[position.toNat]? else none
  | _ => none

/-- The strings of a list. -/
def textsOf? (value : Json) : Option (List String) :=
  value.itemsOf? Json.text?

/-- A field that must be there, once. -/
def needed? (entries : List (String × Json)) (name : String) : Option Json := do
  ← Json.uniqueField entries name

/-- The kind of an update and its payload among the entries of an object. -/
def ofEntries? (entries : List (String × Json)) : Option UpdateKind := do
  let label ← labelOf? (← needed? entries "type")
  if label = "start" then return start
  else if label = "text" then return text (← (← needed? entries "text").text?)
  else if label = "grid" then return grid (← textsOf? (← needed? entries "rows"))
  else if label = "glyph-grid" then
    return glyphGrid (← (← needed? entries "rows").itemsOf? (Json.itemsOf? Glyph.ofJson?))
  else if label = "table" then
    return table (← textsOf? (← needed? entries "headers"))
      (← (← needed? entries "rows").itemsOf? textsOf?)
  else if label = "finished" then
    return finished {
      successful := ← (← needed? entries "successful").bool?
      solution := ← Json.optionalText? (← Json.uniqueField entries "solution")
      error := ← Json.optionalText? (← Json.uniqueField entries "error")
      elapsedNanoseconds :=
        (← Json.optionalSigned? 64 (← Json.uniqueField entries "elapsedNanoseconds")).map
          Int64.ofInt }
  else none

end UpdateKind

namespace Update

/-- The JSON form of an update. -/
def toJson (update : Update) : Json :=
  .object <| ("id", update.id.toJson) :: ("type", .text update.kind.label) :: update.kind.payload

/-- The greatest depth of the payload of an update. -/
def maxDepth : Nat := 126

/-- An entry other than the identifier is kept aside, so it must be readable and not too deep. -/
def entryFits (entry : String × Json) : Bool :=
  entry.1 == "id" || (entry.2.depth ≤ maxDepth && entry.2.isReadable)

/-- An update is read from an object whose other entries are ignored. -/
def ofJson? (value : Json) : Option Update := do
  let entries ← value.entries?
  if !entries.all entryFits then none
  else
    let id ← Identifier.ofJson? (← UpdateKind.needed? entries "id")
    return ⟨id, ← UpdateKind.ofEntries? entries⟩

/-- The text of an update. -/
def encode (update : Update) : String :=
  update.toJson.render

/-- The update that a text holds. -/
def decode? (text : String) : Option Update := do
  ofJson? (← Json.parse? text)

end Update

end SolverHub
