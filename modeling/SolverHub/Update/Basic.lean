import SolverHub.Identifier

/-! An update is one event of a running problem, and a finished one ends the run. -/

namespace SolverHub

/-- One cell of a grid with colours. -/
structure Glyph where
  /-- What the cell shows. -/
  glyph : String
  /-- The colour of the glyph. -/
  foreground : Option String
  /-- The colour behind the glyph. -/
  background : Option String
deriving DecidableEq, Repr

namespace Glyph

/-- A glyph without colours. -/
def plain (glyph : String) : Glyph := ⟨glyph, none, none⟩

/-- A glyph in a colour. -/
def colored (glyph foreground : String) : Glyph := ⟨glyph, some foreground, none⟩

end Glyph

/-- How a run ended. -/
structure Verdict where
  /-- The run produced an answer. -/
  successful : Bool
  /-- The answer. -/
  solution : Option String
  /-- What went wrong. -/
  error : Option String
  /-- The time that the run took. -/
  elapsedNanoseconds : Option Int64
deriving DecidableEq

/-- What an update tells. -/
inductive UpdateKind
  /-- The input has arrived and the problem is about to run. -/
  | start
  /-- A line of text. -/
  | text (line : String)
  /-- A grid of characters, row by row. -/
  | grid (rows : List String)
  /-- A grid of glyphs, row by row. -/
  | glyphGrid (rows : List (List Glyph))
  /-- Rows of cells under headers. -/
  | table (headers : List String) (rows : List (List String))
  /-- The run has ended. -/
  | finished (verdict : Verdict)
deriving DecidableEq

/-- An event of the problem with the given identifier. -/
structure Update where
  /-- The problem that is running. -/
  id : Identifier
  /-- What happened. -/
  kind : UpdateKind
deriving DecidableEq

/-- The greatest number of nanoseconds that an update can tell. -/
def maxNanoseconds : Nat := Nat.pow 2 63 - 1

namespace Verdict

/-- The verdict on a run with an answer, before its time is known. -/
def solved (solution : String) : Verdict := ⟨true, some solution, none, none⟩

/-- The verdict on a run without an answer, before its time is known. -/
def failed (error : String) : Verdict := ⟨false, none, some error, none⟩

end Verdict

namespace Update

/-- The first update of a run. -/
def start (id : Identifier) : Update := ⟨id, .start⟩

/-- The last update of a run with an answer. -/
def solved (id : Identifier) (solution : String) : Update := ⟨id, .finished (.solved solution)⟩

/-- The last update of a run without an answer. -/
def failed (id : Identifier) (error : String) : Update := ⟨id, .finished (.failed error)⟩

/-- An update ends its run. -/
def isFinished (update : Update) : Bool :=
  match update.kind with
  | .finished _ => true
  | _ => false

/-- An update ends its run with an answer. -/
def isSuccessful (update : Update) : Bool :=
  match update.kind with
  | .finished verdict => verdict.successful
  | _ => false

/-- A finished update takes the time of its run, the greatest it can tell for a longer one. -/
def withElapsed (update : Update) (nanoseconds : Nat) : Update :=
  match update.kind with
  | .finished verdict =>
    let elapsed := Int64.ofNat (min nanoseconds maxNanoseconds)
    { update with kind := .finished { verdict with elapsedNanoseconds := some elapsed } }
  | _ => update

/-- Stamping the time does not change whether an update ends its run. -/
theorem isFinished_withElapsed (update : Update) (nanoseconds : Nat) :
    (update.withElapsed nanoseconds).isFinished = update.isFinished := by
  -- Only the payload of a finished update changes.
  obtain ⟨id, kind⟩ := update
  cases kind <;> rfl

/-- Stamping the time does not change the problem that an update belongs to. -/
theorem id_withElapsed (update : Update) (nanoseconds : Nat) :
    (update.withElapsed nanoseconds).id = update.id := by
  -- Only the payload of a finished update changes.
  obtain ⟨id, kind⟩ := update
  cases kind <;> rfl

end Update

end SolverHub
