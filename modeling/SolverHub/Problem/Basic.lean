import SolverHub.Bounds
import SolverHub.Problem.Error
import SolverHub.Time.Instant
import SolverHub.Update.Basic

/-! A problem turns an input into updates and ends with an answer, an error or a crash. -/

namespace SolverHub

/-- What a crash leaves behind. -/
inductive Payload
  /-- A message. -/
  | text (message : String)
  /-- Something that is no message. -/
  | other
deriving DecidableEq, Repr

/-- A run stops before its end. -/
inductive Stop
  /-- The problem returned an error. -/
  | failed (error : ProblemError)
  /-- The problem crashed. -/
  | crashed (payload : Payload)
deriving DecidableEq, Repr

/-- The message of a crash that left none behind. -/
def crashMessage : String := "solver panicked"

namespace Stop

/-- The message that the client gets for a run that stopped. -/
def message : Stop → String
  | failed error => error.chain
  | crashed (.text message) => message
  | crashed .other => crashMessage

/-- The run crashed. -/
def isCrash : Stop → Bool
  | failed _ => false
  | crashed _ => true

/-- An overflow is a crash with its wording. -/
def ofOverflow (overflow : Overflow) : Stop :=
  crashed (.text overflow.message)

end Stop

/-- The updates that a problem reported in order, and how it ended. -/
structure Run where
  /-- The updates in the order in which they were reported. -/
  updates : List Update
  /-- The run came to its end or stopped before. -/
  ending : Except Stop Unit

/-- A named unit of work. -/
structure Problem where
  /-- The name of the problem within its set. -/
  name : String
  /-- What the problem asks for. -/
  description : Option String
  /-- The run of the problem under an identifier on an input. -/
  body : Identifier → String → Run

/-- Problems that one author released together. -/
structure ProblemSet where
  /-- The name of the set. -/
  name : String
  /-- The time at which the set was released. -/
  released : Instant
  /-- The problems in display order. -/
  problems : List Problem
  /-- Each reading of the set makes its problems anew, so that no two readings share them. -/
  remade : Bool
  /-- The number that tells this making of the set from all others. -/
  serial : Nat

/-- A computation that reports on its way to a value or to a stop. -/
structure Reporting (α : Type) where
  /-- What was reported, in order. -/
  reports : List UpdateKind
  /-- The value, or the reason to stop. -/
  outcome : Except Stop α

namespace Reporting

/-- A value without any report. -/
def done {α : Type} (value : α) : Reporting α := ⟨[], .ok value⟩

/-- The second computation goes on where the first one did not stop. -/
def andThen {α β : Type} (first : Reporting α) (second : α → Reporting β) : Reporting β :=
  match first.outcome with
  | .error stop => ⟨first.reports, .error stop⟩
  | .ok value => ⟨first.reports ++ (second value).reports, (second value).outcome⟩

instance : Monad Reporting where
  pure := done
  bind := andThen

/-- One report. -/
def report (kind : UpdateKind) : Reporting Unit := ⟨[kind], .ok ()⟩

/-- A value of checked arithmetic, or a crash where it overflowed. -/
def checked {α : Type} (result : Except Overflow α) : Reporting α :=
  ⟨[], result.mapError Stop.ofOverflow⟩

/-- A value of a computation that fails while parsing. -/
def parsing {α : Type} (result : Except ParseError α) : Reporting α :=
  ⟨[], result.mapError fun error => Stop.failed (.parse error)⟩

/-- The run of a computation whose value is the answer, under an identifier. -/
def run (id : Identifier) (computation : Reporting String) : Run :=
  let updates := computation.reports.map (Update.mk id)
  match computation.outcome with
  | .ok answer => ⟨updates ++ [.solved id answer], .ok ()⟩
  | .error stop => ⟨updates, .error stop⟩

/-- A computation goes on from the value of one that did not stop, with the reports of both. -/
theorem bind_of_ok {α β : Type} {first : Reporting α} {value : α}
    (arrived : first.outcome = .ok value) (second : α → Reporting β) :
    first >>= second = ⟨first.reports ++ (second value).reports, (second value).outcome⟩ := by
  -- Only a stop would keep the second computation from its turn.
  show first.andThen second = _
  rw [andThen, arrived]

end Reporting

namespace Problem

/-- A problem that computes its answer. -/
def ofReporting (name : String) (description : Option String)
    (computation : String → Reporting String) : Problem :=
  ⟨name, description, fun id input => (computation input).run id⟩

/-- A part of a puzzle parses its input and then solves it. -/
def part {α : Type} (number : Nat) (description : Option String)
    (parse : String → Except ParseError α) (solve : α → Reporting String) : Problem :=
  ofReporting ("Part " ++ Text.natText number) description fun input => do
    solve (← .parsing (parse input))

end Problem

end SolverHub
