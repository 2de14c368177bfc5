import SolverHub.Channel

/-! A channel in use: its reporters and its reader take turns in any order, and a stream is polled one update at a time. -/

namespace SolverHub.Channel

/-- What a stream gets from one poll, given whether a finished update came before.

The poll also tells whether a finished update has come now, and leaves the channel behind it. -/
def poll (channel : Channel) (finished : Bool) : Delivery × Bool × Channel :=
  -- A stream that is over takes nothing more, whatever waits in the channel.
  if finished then (.closed, true, channel)
  else match channel.read with
    | (.update update, rest) => (.update update, update.isFinished, rest)
    | (nothing, rest) => (nothing, false, rest)

/-- The updates of at most some polls of a stream, how the stream stopped, and the channel behind it. -/
def pull (channel : Channel) (finished : Bool) : Nat → List Update × StreamEnd × Channel
  | 0 => ([], .cut, channel)
  | polls + 1 =>
    match channel.poll finished with
    | (.update update, finished, rest) =>
      let (others, ending, last) := rest.pull finished polls
      (update :: others, ending, last)
    | (.pending, _, rest) => ([], .pending, rest)
    | (.closed, _, rest) => ([], .done, rest)

/-- A stream that the reader has open. -/
structure Stream where
  /-- The number of updates that the reader had before it opened the stream. -/
  opened : Nat
  /-- A finished update came through the stream. -/
  finished : Bool
deriving DecidableEq, Repr

/-- A channel in use, with what went through it. -/
structure Usage where
  /-- The channel. -/
  channel : Channel
  /-- The stream that the reader has open, if there is one. -/
  stream : Option Stream
  /-- The updates that were reported while the reader was there, in order. -/
  reported : List Update
  /-- The updates that the reader got, in order. -/
  handed : List Update
  /-- The updates that still waited when the reader left. -/
  unread : List Update
  /-- The number of reporters that were ever made. -/
  made : Nat
  /-- The reporters that were given up. -/
  dropped : List Nat
deriving DecidableEq

/-- What a reporter or the reader does with a channel. -/
inductive Operation
  /-- A reporter reports an update. -/
  | report (reporter : Nat) (update : Update)
  /-- One more reporter is made from another one. -/
  | clone (reporter : Nat)
  /-- A reporter is given up. -/
  | dropReporter (reporter : Nat)
  /-- The reader asks for one update. -/
  | read
  /-- The reader takes all that waits. -/
  | drain
  /-- The reader opens a stream. -/
  | openStream
  /-- The reader polls its stream. -/
  | poll
  /-- The reader gives its stream up, wherever it is. -/
  | closeStream
  /-- The reader leaves. -/
  | dropReader
deriving DecidableEq

namespace Usage

/-- A new channel that nobody has used. -/
def start (id : Identifier) : Usage := ⟨.create id, none, [], [], [], 1, []⟩

/-- An operation is possible: who does it is there, and a reader with a stream uses only that. -/
def allows (usage : Usage) : Operation → Bool
  | .report reporter _ | .clone reporter | .dropReporter reporter =>
    usage.channel.hasReporter reporter
  | .read | .drain | .openStream | .dropReader => usage.channel.reading && usage.stream.isNone
  | .poll | .closeStream => usage.stream.isSome

/-- The channel after a delivery, which the reader gets if it is an update. -/
def hand (usage : Usage) (delivery : Delivery) (channel : Channel) : Usage :=
  match delivery with
  | .update update => { usage with channel := channel, handed := usage.handed ++ [update] }
  | _ => { usage with channel := channel }

/-- The channel after a possible operation. -/
def perform (usage : Usage) : Operation → Usage
  | .report _ update =>
    { usage with
      channel := usage.channel.report update
      reported := if usage.channel.reading then usage.reported ++ [update] else usage.reported }
  | .clone _ => { usage with channel := usage.channel.clone, made := usage.made + 1 }
  | .dropReporter reporter =>
    { usage with
      channel := usage.channel.dropReporter reporter
      dropped := usage.dropped ++ [reporter] }
  | .read =>
    let (delivery, channel) := usage.channel.read
    usage.hand delivery channel
  | .drain =>
    let (updates, channel) := usage.channel.drain
    { usage with channel := channel, handed := usage.handed ++ updates }
  | .openStream => { usage with stream := some ⟨usage.handed.length, false⟩ }
  | .poll =>
    match usage.stream with
    | none => usage
    | some stream =>
      let (delivery, finished, channel) := usage.channel.poll stream.finished
      { usage.hand delivery channel with stream := some { stream with finished := finished } }
  | .closeStream => { usage with stream := none }
  | .dropReader =>
    { usage with channel := usage.channel.dropReader, unread := usage.channel.queue }

/-- The channel after an operation, which does nothing where it is not possible. -/
def step (usage : Usage) (operation : Operation) : Usage :=
  if usage.allows operation then usage.perform operation else usage

/-- The channel after some operations in turn. -/
def play (usage : Usage) (operations : List Operation) : Usage :=
  operations.foldl step usage

end Usage

end SolverHub.Channel
