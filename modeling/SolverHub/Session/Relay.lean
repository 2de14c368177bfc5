import SolverHub.Log.Entry
import SolverHub.Session.Transport

/-! A relay hands updates to the transport while it works, and holds the result back. -/

namespace SolverHub

/-- The updates on their way to the client. -/
structure Relay where
  /-- The updates that the transport was given, in order. -/
  offered : List Update
  /-- The updates that arrived, in order. -/
  delivered : List Update
  /-- The transport has not failed yet. -/
  reachable : Bool
  /-- The latest result, which waits for the end of the run. -/
  held : Option Update

namespace Relay

/-- Nothing has been sent. -/
def start : Relay := ⟨[], [], true, none⟩

/-- An update is sent unless the transport has failed before. -/
def deliver (transport : Transport) (id : Identifier) (update : Update) (relay : Relay) :
    Logged Relay := do
  if relay.reachable then
    let offered := relay.offered ++ [update]
    match transport.accepts relay.delivered update with
    | .ok () => return { relay with offered := offered, delivered := relay.delivered ++ [update] }
    | .error error =>
      .entry .warn .session "client unreachable; discarding further updates"
        [("id", id.render), ("error", error.message)]
      return { relay with offered := offered, reachable := false }
  else return relay

/-- A result is held back in place of an earlier one, and any other update is sent. -/
def offer (transport : Transport) (id : Identifier) (relay : Relay) (update : Update) :
    Logged Relay := do
  if update.isFinished then
    if relay.held.isSome then
      .entry .debug .session "solver reported more than one result; keeping the latest"
        [("id", id.render)]
    return { relay with held := some update }
  else relay.deliver transport id update

/-- A number of updates is offered in order. -/
def offerAll (transport : Transport) (id : Identifier) (relay : Relay) (updates : List Update) :
    Logged Relay :=
  updates.foldlM (offer transport id) relay

/-- The transport is closed unless it has failed before. -/
def close (transport : Transport) (id : Identifier) (relay : Relay) : Logged Nat := do
  if relay.reachable then
    match transport.close with
    | .ok () => return 1
    | .error error =>
      .entry .debug .session "closing transport failed"
        [("id", id.render), ("error", error.message)]
      return 1
  else return 0

end Relay

end SolverHub
