import SolverHub.Update.Basic

/-! A channel carries the updates of one run from any number of reporters to a single reader. -/

namespace SolverHub

/-- The reporters of a run, the updates that wait for its reader, and whether the reader is there. -/
structure Channel where
  /-- The problem whose updates the channel carries. -/
  id : Identifier
  /-- For each reporter that was ever made, whether it is still there. -/
  reporters : List Bool
  /-- The updates that wait for the reader, the oldest first. -/
  queue : List Update
  /-- The reader is there. -/
  reading : Bool
deriving DecidableEq

/-- What a reader gets. -/
inductive Delivery
  /-- The oldest update that was waiting. -/
  | update (update : Update)
  /-- Nothing yet, though a reporter may still report. -/
  | pending
  /-- Nothing, now and later. -/
  | closed
deriving DecidableEq

/-- How a stream of updates stopped. -/
inductive StreamEnd
  /-- A finished update came, or no reporter is left. -/
  | done
  /-- The next update has not come yet. -/
  | pending
  /-- The reader took as many updates as it wanted. -/
  | cut
deriving DecidableEq, Repr

namespace Channel

/-- A channel with one reporter, a reader and nothing in between. -/
def create (id : Identifier) : Channel := ⟨id, [true], [], true⟩

/-- A reporter is there. -/
def hasReporter (channel : Channel) (reporter : Nat) : Bool :=
  channel.reporters[reporter]?.getD false

/-- Some reporter is there. -/
def anyReporter (channel : Channel) : Bool :=
  channel.reporters.any (·)

/-- An update waits behind the others, or is lost where there is no reader. -/
def report (channel : Channel) (update : Update) : Channel :=
  if channel.reading then { channel with queue := channel.queue ++ [update] } else channel

/-- One more reporter joins, numbered after the others. -/
def clone (channel : Channel) : Channel :=
  { channel with reporters := channel.reporters ++ [true] }

/-- A reporter leaves. -/
def dropReporter (channel : Channel) (reporter : Nat) : Channel :=
  { channel with reporters := channel.reporters.set reporter false }

/-- The reader leaves, and the updates that waited for it are lost. -/
def dropReader (channel : Channel) : Channel :=
  { channel with queue := [], reading := false }

/-- The oldest update goes to the reader. -/
def read (channel : Channel) : Delivery × Channel :=
  match channel.queue with
  | update :: rest => (.update update, { channel with queue := rest })
  | [] => (if channel.anyReporter then .pending else .closed, channel)

/-- All updates that wait go to the reader. -/
def drain (channel : Channel) : List Update × Channel :=
  (channel.queue, { channel with queue := [] })

/-- The updates that a stream yields from a queue, those it leaves, and whether it met a finished one. -/
def streamFrom : Option Nat → List Update → List Update × List Update × Option StreamEnd
  | some 0, queue => ([], queue, some .cut)
  | _, [] => ([], [], none)
  | wanted, update :: rest =>
    if update.isFinished then
      -- After a finished update the stream is over unless the reader wanted no more anyway.
      ([update], rest, some (if wanted = some 1 then .cut else .done))
    else
      let (taken, left, ending) := streamFrom (wanted.map (· - 1)) rest
      (update :: taken, left, ending)

/-- A stream yields the updates that wait, up to and including the first finished one. -/
def stream (channel : Channel) (wanted : Option Nat) : List Update × StreamEnd × Channel :=
  let (taken, left, ending) := streamFrom wanted channel.queue
  let ending := ending.getD (if channel.anyReporter then .pending else .done)
  (taken, ending, { channel with queue := left })

end Channel

end SolverHub
