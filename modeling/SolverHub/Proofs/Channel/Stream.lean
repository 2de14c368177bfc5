import SolverHub.Channel.Usage

/-! A stream yields the updates up to and including the first finished one, however often it is polled. -/

namespace SolverHub.Channel

/-- The updates up to and including the first finished one. -/
def upToFinished : List Update → List Update
  | [] => []
  | update :: rest => if update.isFinished then [update] else update :: upToFinished rest

/-- A stream takes no more than there is. -/
theorem length_upToFinished_le (updates : List Update) :
    (upToFinished updates).length ≤ updates.length := by
  -- The induction follows the updates, none of which is taken twice.
  induction updates with
  | nil => exact Nat.le_refl 0
  | cons update rest ih =>
    rw [upToFinished]
    split
    · simp
    · simpa using ih

section Poll

variable {channel : Channel}

/-- A poll of a stream that goes on takes the oldest update. -/
theorem poll_cons {update : Update} {rest : List Update}
    (queued : channel.queue = update :: rest) :
    channel.poll false = (.update update, update.isFinished, { channel with queue := rest }) := by
  -- A stream that goes on reads what is queued first.
  simp [poll, read, queued]

/-- A poll of a stream that goes on finds nothing where nothing waits. -/
theorem poll_nil (queued : channel.queue = []) :
    channel.poll false =
      (if channel.anyReporter then .pending else .closed, false, channel) := by
  -- Nothing is queued, so it matters only whether anything may still come.
  cases left : channel.anyReporter <;> simp [poll, read, queued, left]

/-- A stream that is over takes nothing, and learns that it is over as soon as it is polled. -/
theorem pull_true (channel : Channel) (polls : Nat) :
    channel.pull true polls = ([], if polls = 0 then .cut else .done, channel) := by
  -- A stream that has ended reads nothing any more.
  cases polls <;> rfl

/-- Polls find nothing where nothing waits. -/
theorem pull_nil (queued : channel.queue = []) (polls : Nat) :
    channel.pull false (polls + 1) =
      ([], if channel.anyReporter then .pending else .done, channel) := by
  -- The first poll finds nothing, so no further one is made.
  rw [pull, poll_nil queued]
  cases channel.anyReporter <;> rfl

/-- The first poll takes the oldest update, and the others go on behind it. -/
theorem pull_cons {update : Update} {rest : List Update}
    (queued : channel.queue = update :: rest) (polls : Nat) :
    channel.pull false (polls + 1) =
      let pulled := { channel with queue := rest }.pull update.isFinished polls
      (update :: pulled.1, pulled.2) := by
  -- The first poll takes the head, and the stream ends there if it is a finish.
  rw [pull, poll_cons queued]

end Poll

/-- A stream that is polled while nobody else uses the channel takes what its polls yield.

One poll more than there are updates is enough to learn how the stream stopped. -/
theorem stream_eq_pull (channel : Channel) (wanted : Option Nat) :
    channel.stream wanted = channel.pull false (wanted.getD (channel.queue.length + 1)) := by
  obtain ⟨id, reporters, queue, reading⟩ := channel
  -- The induction follows the queue, and each update uses up one of the polls that are left.
  induction queue generalizing wanted with
  | nil =>
    match wanted with
    | none => rw [Option.getD_none, pull_nil rfl]; rfl
    | some 0 => rfl
    | some (polls + 1) => rw [Option.getD_some, pull_nil rfl]; rfl
  | cons update rest ih =>
    by_cases cut : wanted = some 0
    · subst cut
      rfl
    · -- An update that is wanted takes the first of the polls.
      have polls : wanted.getD (rest.length + 1 + 1) =
          (wanted.map (· - 1)).getD (rest.length + 1) + 1 := by
        cases wanted with
        | none => rfl
        | some number =>
          have positive : number ≠ 0 := fun zero => cut (congrArg some zero)
          simp only [Option.getD_some, Option.map_some]
          omega
      have later := ih (wanted.map (· - 1))
      rw [List.length_cons, polls, pull_cons rfl]
      cases finished : update.isFinished with
      | true =>
        -- Only where this update was the last one wanted is the stream not polled again.
        have last : (wanted.map (· - 1)).getD (rest.length + 1) = 0 ↔ wanted = some 1 := by
          cases wanted with
          | none => simp
          | some number =>
            have positive : number ≠ 0 := fun zero => cut (congrArg some zero)
            simp only [Option.map_some, Option.getD_some, Option.some.injEq]
            omega
        simp [stream, streamFrom, finished, pull_true, last]
      | false =>
        simp only [stream, streamFrom, finished] at later ⊢
        rw [← later]
        rfl

/-- Polls yield the front of the updates that wait, and leave the others in their order. -/
theorem pull_yields (channel : Channel) (polls : Nat) :
    (channel.pull false polls).1 = (upToFinished channel.queue).take polls ∧
      (channel.pull false polls).1 ++ (channel.pull false polls).2.2.queue = channel.queue := by
  obtain ⟨id, reporters, queue, reading⟩ := channel
  -- The induction follows the queue, from which each poll takes one update until one is finished.
  induction queue generalizing polls with
  | nil =>
    cases polls with
    | zero => exact ⟨rfl, rfl⟩
    | succ polls =>
      rw [pull_nil rfl]
      exact ⟨rfl, rfl⟩
  | cons update rest ih =>
    cases polls with
    | zero => exact ⟨rfl, rfl⟩
    | succ polls =>
      rw [pull_cons rfl, upToFinished]
      cases update.isFinished with
      | true =>
        -- Nothing is taken behind a finished update.
        rw [pull_true]
        simp
      | false =>
        obtain ⟨taken, split⟩ := ih polls
        exact ⟨congrArg (update :: ·) taken, congrArg (update :: ·) split⟩

/-- A stream that nobody disturbs takes as many updates as are wanted, up to the first finished one.

All others wait on in their order. -/
theorem stream_yields (channel : Channel) (wanted : Option Nat) :
    (channel.stream wanted).1 =
        (upToFinished channel.queue).take (wanted.getD channel.queue.length) ∧
      (channel.stream wanted).1 ++ (channel.stream wanted).2.2.queue = channel.queue := by
  obtain ⟨taken, split⟩ := pull_yields channel (wanted.getD (channel.queue.length + 1))
  rw [stream_eq_pull]
  refine ⟨?_, split⟩
  rw [taken]
  cases wanted with
  | some number => rfl
  | none =>
    -- There are fewer updates than polls, so the last poll takes nothing.
    have bound := length_upToFinished_le channel.queue
    rw [Option.getD_none, Option.getD_none, List.take_of_length_le bound,
      List.take_of_length_le (Nat.le_succ_of_le bound)]

end SolverHub.Channel
