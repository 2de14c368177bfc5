import SolverHub.Channel
import SolverHub.Problem.Basic
import SolverHub.Session.Relay

/-! A session runs one problem for one client: a start, the updates of the run in order, and one verdict. -/

namespace SolverHub

/-- The message for a run that came to its end without a result. -/
def noResultMessage : String := "solver completed without reporting a result"

namespace Session

/-- How far the run of the problem has come. -/
inductive Worker
  /-- The problem has not been started. -/
  | idle
  /-- The problem is running. -/
  | running
  /-- The problem has ended after a number of nanoseconds. -/
  | ended (ending : Except Stop Unit) (nanoseconds : Nat)

namespace Worker

/-- The problem has not been started. -/
def isIdle : Worker → Bool
  | idle => true
  | _ => false

/-- The problem is running. -/
def isRunning : Worker → Bool
  | running => true
  | _ => false

/-- The problem has ended. -/
def hasEnded : Worker → Bool
  | ended _ _ => true
  | _ => false

end Worker

/-- What a session delivered. -/
structure Summary where
  /-- The run produced an answer. -/
  successful : Bool
  /-- The time that the problem took, in nanoseconds. -/
  elapsed : Nat
  /-- The number of updates that arrived. -/
  delivered : Nat
deriving DecidableEq, Repr

/-- A session between two of its moves. -/
structure State where
  /-- The channel from the problem to the session. -/
  channel : Channel
  /-- The run of the problem. -/
  worker : Worker
  /-- What has been relayed. -/
  relay : Relay
  /-- The number of times that the transport was closed. -/
  closed : Nat
  /-- A summary, or the reason for which no input came, once the session is over. -/
  outcome : Option (Except TransportError Summary)

/-- A move of a session or of the problem that it runs. -/
inductive Move
  /-- The session takes its input, and starts the problem if there is one. -/
  | receive
  /-- The problem makes one more reporter from one that it has. -/
  | clone (reporter : Nat)
  /-- The problem reports an update. -/
  | report (reporter : Nat) (update : Update)
  /-- The problem gives a reporter up. -/
  | leave (reporter : Nat)
  /-- The problem ends. -/
  | complete (ending : Except Stop Unit) (nanoseconds : Nat)
  /-- The oldest update that waits is relayed. -/
  | relay
  /-- After the end of the problem, all updates that wait are relayed and the verdict is sent. -/
  | settle

/-- A session that waits for its input. -/
def waiting (id : Identifier) : State := ⟨.create id, .idle, .start, 0, none⟩

/-- A move is possible. The problem only reports while it runs, and nothing follows the end of a session. -/
def State.allows (state : State) (move : Move) : Bool :=
  state.outcome.isNone && match move with
    | .receive => state.worker.isIdle
    | .clone reporter | .leave reporter =>
      !state.worker.isIdle && state.channel.hasReporter reporter
    | .report reporter _ => state.worker.isRunning && state.channel.hasReporter reporter
    | .complete _ _ => state.worker.isRunning
    | .relay => !state.worker.isIdle && !state.channel.queue.isEmpty
    | .settle => state.worker.hasEnded

/-- The result that a run ends with, and whether it is an answer. -/
def verdict (id : Identifier) (ending : Except Stop Unit) (held : Option Update) :
    Logged (Update × Bool) := do
  match ending, held with
  | .ok (), some update => return (update, update.isSuccessful)
  | .ok (), none =>
    .entry .warn .session noResultMessage [("id", id.render)]
    return (.failed id noResultMessage, false)
  | .error stop, _ =>
    .entry .error .session (if stop.isCrash then "solver panicked" else "solver failed")
      [("id", id.render), ("error", stop.message)]
    return (.failed id stop.message, false)

/-- With an input the problem is started behind the start of its updates.

Without one the session is over, and whether closing the transport succeeds makes no difference. -/
def receive (transport : Transport) (id : Identifier) (state : State) : Logged State := do
  match transport.input with
  | .error error =>
    .entry .warn .session "session ended before input was received"
      [("id", id.render), ("error", error.message)]
    return { state with closed := state.closed + 1, outcome := some (.error error) }
  | .ok input =>
    .entry .info .session "starting solver"
      [("id", id.render), ("input_bytes", Text.natText input.utf8ByteSize)]
    let relay ← state.relay.deliver transport id (.start id)
    return { state with worker := .running, relay := relay }

/-- The session comes to its end behind that of the problem. -/
def settle (transport : Transport) (id : Identifier) (ending : Except Stop Unit)
    (nanoseconds : Nat) (state : State) : Logged State := do
  let (updates, channel) := state.channel.drain
  let relay ← state.relay.offerAll transport id updates
  let (result, successful) ← verdict id ending relay.held
  let relay ← relay.deliver transport id (result.withElapsed nanoseconds)
  let closed ← relay.close transport id
  .entry .info .session "session finished"
    [("id", id.render), ("successful", if successful then "true" else "false")]
  return { state with
    channel := channel.dropReader
    relay := relay
    closed := state.closed + closed
    outcome := some (.ok ⟨successful, nanoseconds, relay.delivered.length⟩) }

/-- A session after one move, which is possible where it is made. -/
def step (transport : Transport) (id : Identifier) (state : State) : Move → Logged State
  | .receive => receive transport id state
  | .clone _ => return { state with channel := state.channel.clone }
  | .report _ update => return { state with channel := state.channel.report update }
  | .leave reporter => return { state with channel := state.channel.dropReporter reporter }
  | .complete ending nanoseconds =>
    return { state with
      -- The first reporter is the one that the problem was started with.
      channel := state.channel.dropReporter 0
      worker := .ended ending nanoseconds }
  | .relay =>
    match state.channel.read with
    | (.update update, channel) => do
      let relay ← state.relay.offer transport id update
      return { state with channel := channel, relay := relay }
    | (_, channel) => return { state with channel := channel }
  | .settle =>
    match state.worker with
    | .ended ending nanoseconds => settle transport id ending nanoseconds state
    | _ => return state

/-- A session after some moves. -/
def play (transport : Transport) (id : Identifier) (state : State) (moves : List Move) :
    Logged State :=
  moves.foldlM (step transport id) state

/-- The moves in which a run ends before any of its updates is relayed. -/
def schedule (run : Run) (nanoseconds : Nat) : List Move :=
  run.updates.map (.report 0) ++ [.complete run.ending nanoseconds, .settle]

/-- The moves that follow the arrival of an input. -/
def scheduleAfter (input : Except TransportError String) (id : Identifier) (problem : Problem)
    (nanoseconds : Nat) : List Move :=
  match input with
  | .error _ => []
  | .ok input => schedule (problem.body id input) nanoseconds

/-- How a session went. -/
structure Transcript where
  /-- The updates that arrived, in order. -/
  sent : List Update
  /-- The number of times that the transport was closed. -/
  closed : Nat
  /-- A summary, or the reason for which no input came. -/
  outcome : Except TransportError Summary

/-- How a session went, where a client counts as gone from one that is not over. -/
def State.transcript (state : State) : Transcript :=
  ⟨state.relay.delivered, state.closed, state.outcome.getD (.error .closed)⟩

/-- A session with a problem, from its input to its end. -/
def run (transport : Transport) (id : Identifier) (problem : Problem) (nanoseconds : Nat) :
    Logged Transcript := do
  let last ← play transport id (waiting id)
    (.receive :: scheduleAfter transport.input id problem nanoseconds)
  return last.transcript

end Session

end SolverHub
