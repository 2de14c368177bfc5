import SolverHub.Json.Token

/-! Tokens build a JSON value on a stack of the lists and objects that are still open. -/

namespace SolverHub.Json

/-- A list or an object that is still open, with what it holds so far in reverse. -/
inductive Frame
  /-- A list that waits for its next item to end. -/
  | items (before : List Json)
  /-- An object that waits for the value under a name to end. -/
  | entry (before : List (Spelling × Json)) (name : Spelling)

/-- What may come next. -/
inductive Expectation
  /-- A value must come. -/
  | value
  /-- An item or the end of the list that has just been opened must come. -/
  | firstItem
  /-- A name must come, or the end of an object that has just been opened. -/
  | name (before : List (Spelling × Json)) (first : Bool)
  /-- The colon after a name must come. -/
  | colon (before : List (Spelling × Json)) (name : Spelling)
  /-- A value has just ended. -/
  | ended (value : Json)

/-- The reader stands before its next token with some lists and objects open. -/
structure Reading where
  /-- What may come next. -/
  next : Expectation
  /-- The open lists and objects, the innermost first. -/
  frames : List Frame

namespace Reading

/-- The value of a string, which is broken if no text can hold it. -/
def ofText (spelling : Spelling) : Json :=
  spelling.meaning.elim broken Json.text

/-- The object of some entries, which is broken if no text can hold one of their names. -/
def ofEntries (entries : List (Spelling × Json)) : Json :=
  match entries.mapM fun entry => entry.1.meaning.map (·, entry.2) with
  | none => broken
  | some named =>
    if entries.any fun entry => entry.1.hidesDigits then disguised named else object named

/-- Nothing has been read. -/
def start : Reading := ⟨.value, []⟩

/-- A value starts with one token. -/
def beginValue (frames : List Frame) : Token → Option Reading
  | .scalar value => some ⟨.ended value, frames⟩
  | .text spelling => some ⟨.ended (ofText spelling), frames⟩
  | .openList => some ⟨.firstItem, .items [] :: frames⟩
  | .openObject => some ⟨.name [] true, frames⟩
  | _ => none

/-- What follows a value belongs to the innermost open list or object. -/
def afterValue (value : Json) : List Frame → Token → Option Reading
  | .items before :: frames, .comma => some ⟨.value, .items (value :: before) :: frames⟩
  | .items before :: frames, .closeList =>
    some ⟨.ended (Json.list (value :: before).reverse), frames⟩
  | .entry before name :: frames, .comma =>
    some ⟨.name ((name, value) :: before) false, frames⟩
  | .entry before name :: frames, .closeObject =>
    some ⟨.ended (ofEntries ((name, value) :: before).reverse), frames⟩
  | _, _ => none

/-- One token moves the reader on or is out of place. -/
def step (reading : Reading) (token : Token) : Option Reading :=
  match reading.next, reading.frames, token with
  | .firstItem, .items [] :: frames, .closeList => some ⟨.ended (Json.list []), frames⟩
  | .value, frames, token | .firstItem, frames, token => beginValue frames token
  | .name _ true, frames, .closeObject => some ⟨.ended (Json.object []), frames⟩
  | .name before _, frames, .text name => some ⟨.colon before name, frames⟩
  | .colon before name, frames, .colon => some ⟨.value, .entry before name :: frames⟩
  | .ended value, frames, token => afterValue value frames token
  | _, _, _ => none

/-- The value that has been read, if nothing is left open. -/
def result? : Reading → Option Json
  | ⟨.ended value, []⟩ => some value
  | _ => none

end Reading

/-- The value of a sequence of tokens. -/
def ofTokens? (tokens : List Token) : Option Json := do
  (← tokens.foldlM Reading.step Reading.start).result?

/-- The value of a text, if the text is one JSON value with blanks around its tokens. -/
def parse? (text : String) : Option Json := do
  ofTokens? (← tokens? text.toList)

end SolverHub.Json
