import SolverHub.Pattern.Class
import SolverHub.Pattern.Group

/-! A pattern is read on a stack of open groups, and it is refused if a matcher cannot be built. -/

namespace SolverHub.Pattern

/-- The reasons for which there is no matcher for a text. -/
inductive Fault
  /-- The text is no pattern, or one that needs tables of code points. -/
  | invalid
  /-- The pattern asks for the edge of a word of code points. -/
  | wordEdge
deriving DecidableEq, Repr

/-- The wording of a fault. -/
def Fault.message : Fault → String
  | .invalid => "error building NFA"
  | .wordEdge =>
    "unsupported regex feature for DFAs: cannot build DFAs for regexes with Unicode word " ++
      "boundaries; switch to ASCII word boundaries, or heuristically enable Unicode word " ++
      "boundaries or use a different regex engine"

/-- The parts of a group so far. -/
structure Body where
  /-- The heights of the alternatives that are complete. -/
  alternatives : List Nat
  /-- The heights of the parts of the current alternative, the last first, with none for a change. -/
  parts : List (Option Nat)
deriving DecidableEq, Repr

namespace Body

/-- A group without parts. -/
def empty : Body := ⟨[], []⟩

/-- One more part. -/
def add (body : Body) (part : Option Nat) : Body :=
  { body with parts := part :: body.parts }

/-- The height of the current alternative. -/
def current (body : Body) : Nat :=
  heightOf (body.parts.map (·.getD 0))

/-- The height of all alternatives. -/
def height (body : Body) : Nat :=
  heightOf (body.current :: body.alternatives)

/-- The next alternative starts. -/
def alternate (body : Body) : Body :=
  ⟨body.current :: body.alternatives, []⟩

/-- The last part is repeated, if there is one. -/
def repeatLast? (body : Body) : Option Body :=
  match body.parts with
  | some height :: before => some { body with parts := some (height + 1) :: before }
  | _ => none

end Body

/-- The state of the reader between two parts. -/
structure Reading where
  /-- The mode for what comes next. -/
  mode : Mode
  /-- The names of groups so far. -/
  names : List (List Char)
  /-- The edge of a word of code points has been asked for. -/
  wordEdge : Bool
  /-- The innermost group. -/
  inner : Body
  /-- The groups around it, each with the mode that returns to it. -/
  outer : List (Mode × Body)
deriving DecidableEq, Repr

namespace Reading

/-- Nothing has been read. -/
def start : Reading := ⟨.standard, [], false, .empty, []⟩

/-- A part is added to the innermost group. -/
def add (reading : Reading) (part : Option Nat) : Reading :=
  { reading with inner := reading.inner.add part }

/-- A group opens in a mode. -/
def enter (reading : Reading) (mode : Mode) : Reading :=
  { reading with
    mode := mode
    inner := .empty
    outer := (reading.mode, reading.inner) :: reading.outer }

/-- The opening of a group takes effect, unless its name is taken. -/
def begin? (reading : Reading) : Opening → Option Reading
  | .plain => some (reading.enter reading.mode)
  | .named name =>
    if reading.names.contains name then none
    else some { reading.enter reading.mode with names := name :: reading.names }
  | .within mode => some (reading.enter mode)
  | .change mode => some { reading.add none with mode := mode }

/-- The innermost group closes, if one is open. -/
def close? (reading : Reading) : Option Reading :=
  match reading.outer with
  | [] => none
  | (mode, body) :: outer =>
    some { reading with
      mode := mode
      inner := body.add (some (reading.inner.height + 1))
      outer := outer }

/-- A primitive is added, if it can be matched. -/
def addPrimitive? (reading : Reading) (part : Primitive) : Option Reading :=
  if reading.mode.allows part then
    some { reading.add (some 0) with
      wordEdge := reading.wordEdge || (reading.mode.wide && part == .edge true) }
  else none

/-- The text after the sign that makes a repetition short. -/
def dropShort : List Char → List Char
  | '?' :: rest => rest
  | rest => rest

/-- The reader moves over one part or sign, and a counted repetition never ends. -/
def step? (reading : Reading) : List Char → Option (Reading × List Char)
  | [] => none
  | '(' :: rest => do
    let (opening, after) ← opening? reading.mode rest
    return (← reading.begin? opening, after)
  | ')' :: rest => reading.close?.map (·, rest)
  | '|' :: rest => some ({ reading with inner := reading.inner.alternate }, rest)
  | '[' :: rest => (class? reading.mode rest).map fun found => (reading.add (some found.1), found.2)
  | '?' :: rest | '*' :: rest | '+' :: rest =>
    reading.inner.repeatLast?.map fun inner => ({ reading with inner := inner }, dropShort rest)
  | '\x7b' :: _ => none
  | text => do
    let (part, rest) ← primitive? reading.mode text
    return (← reading.addPrimitive? part, rest)

/-- The state at the end of a text, within a count of steps. -/
def read? : Nat → Reading → List Char → Option Reading
  | steps, reading, text =>
    match reading.mode.skip text, steps with
    | [], _ => some reading
    | _ :: _, 0 => none
    | c :: rest, steps + 1 => do
      let (reading, rest) ← reading.step? (c :: rest)
      read? steps reading rest

/-- The greatest height of a pattern. -/
def greatestHeight : Nat := 250

/-- All groups are closed, and the pattern is not too high. -/
def isComplete (reading : Reading) : Bool :=
  reading.outer.isEmpty && reading.inner.height ≤ greatestHeight

end Reading

/-- What is wrong with a text as a pattern. -/
def fault? (text : List Char) : Option Fault :=
  match (Reading.start.read? text.length text).filter Reading.isComplete with
  | none => some .invalid
  | some reading => if reading.wordEdge then some .wordEdge else none

end SolverHub.Pattern
