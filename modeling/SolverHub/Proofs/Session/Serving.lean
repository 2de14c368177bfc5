import SolverHub.Proofs.Session.Delivery

/-! Whatever the order of its moves, a session relays every report and can come to its end. -/

namespace SolverHub.Session

/-- The update that a move puts into the channel. -/
def Move.reported? : Move → Option Update
  | .report _ update => some update
  | _ => none

/-- The ending that a move brings about, and the time until then. -/
def Move.completed? : Move → Option (Except Stop Unit × Nat)
  | .complete ending nanoseconds => some (ending, nanoseconds)
  | _ => none

/-- The updates of some moves in the order in which they entered the channel. -/
def reports (moves : List Move) : List Update := moves.filterMap Move.reported?

/-- The endings that some moves brought about. -/
def completions (moves : List Move) : List (Except Stop Unit × Nat) :=
  moves.filterMap Move.completed?

/-- Each move of a list is possible where it is made. -/
def Legal (transport : Transport) (id : Identifier) : State → List Move → Prop
  | _, [] => True
  | state, move :: rest =>
    state.allows move = true ∧ Legal transport id (step transport id state move).value rest

/-- Whether moves are possible can be computed by making them. -/
instance decidableLegal (transport : Transport) (id : Identifier) :
    ∀ state moves, Decidable (Legal transport id state moves)
  | _, [] => isTrue trivial
  | state, move :: rest =>
    have := decidableLegal transport id (step transport id state move).value rest
    inferInstanceAs (Decidable (_ ∧ _))

/-- The result that tells the ending of a run, whose reports come in order. -/
def resultOf (id : Identifier) (reported : List Update) : Except Stop Unit → Update
  | .ok () => ((reported.filter (·.isFinished)).getLast?).getD (.failed id noResultMessage)
  | .error stop => .failed id stop.message

/-- A run is an answer if it came to its end and its last result is one. -/
def isAnswer (reported : List Update) : Except Stop Unit → Bool
  | .ok () => ((reported.filter (·.isFinished)).getLast?).any (·.isSuccessful)
  | .error _ => false

/-- The updates that a session has for its client, given those that its run reported in order. -/
def wire (id : Identifier) (reported : List Update) (ending : Except Stop Unit)
    (nanoseconds : Nat) : List Update :=
  .start id :: reported.filter (!·.isFinished) ++
    [(resultOf id reported ending).withElapsed nanoseconds]

/-- What a worker has brought about. -/
def Worker.completions : Worker → List (Except Stop Unit × Nat)
  | .ended ending nanoseconds => [(ending, nanoseconds)]
  | _ => []

/-- A session serves its client: all that was reported has been relayed or waits in the channel. -/
structure State.Serves (transport : Transport) (id : Identifier) (moves : List Move)
    (state : State) : Prop where
  relayed : ∃ updates, reports moves = updates ++ state.channel.queue ∧
    state.relay.Follows transport id updates
  worked : completions moves = state.worker.completions
  started : state.worker.isIdle = false
  reading : state.channel.reading = true
  unclosed : state.closed = 0
  ongoing : state.outcome = none

/-- A session is over, its client having got what came through of all that there was for it. -/
structure State.Served (transport : Transport) (id : Identifier) (moves : List Move)
    (state : State) (ending : Except Stop Unit) (nanoseconds : Nat) : Prop where
  worked : completions moves = [(ending, nanoseconds)]
  conveyed : state.relay.Conveys transport (wire id (reports moves) ending nanoseconds)
  closed : state.closed = if state.relay.reachable then 1 else 0
  outcome : state.outcome =
    some (.ok ⟨isAnswer (reports moves) ending, nanoseconds, state.relay.delivered.length⟩)

/-- The stages of a session that has made some moves. -/
inductive Stage (transport : Transport) (id : Identifier) : List Move → State → Prop
  /-- The session waits for its input. -/
  | waiting : Stage transport id [] (waiting id)
  /-- No input came, and the session is over. -/
  | refused {error : TransportError} (absent : transport.input = .error error) :
      Stage transport id [.receive]
        { waiting id with closed := 1, outcome := some (.error error) }
  /-- The problem runs or has run. -/
  | serving {input : String} {moves : List Move} {state : State}
      (arrived : transport.input = .ok input) (serves : state.Serves transport id moves) :
      Stage transport id moves state
  /-- The verdict was sent, and the session is over. -/
  | served {input : String} {moves : List Move} {state : State} {ending : Except Stop Unit}
      {nanoseconds : Nat} (arrived : transport.input = .ok input)
      (served : state.Served transport id moves ending nanoseconds) :
      Stage transport id moves state

variable {transport : Transport} {id : Identifier} {moves : List Move} {state : State}

/-- A move that puts nothing into the channel leaves the reports as they are. -/
theorem reports_concat_of_none {move : Move} (silent : move.reported? = none) :
    reports (moves ++ [move]) = reports moves := by
  -- The move reports nothing.
  simp [reports, silent]

/-- A move that ends nothing leaves the completions as they are. -/
theorem completions_concat_of_none {move : Move} (ongoing : move.completed? = none) :
    completions (moves ++ [move]) = completions moves := by
  -- The move completes nothing.
  simp [completions, ongoing]

/-- The verdict on a run whose results are held is its result, with whether it is an answer. -/
theorem value_verdict (id : Identifier) (reported : List Update) (ending : Except Stop Unit) :
    (verdict id ending (reported.filter (·.isFinished)).getLast?).value =
      (resultOf id reported ending, isAnswer reported ending) := by
  -- Entries are logged on the way and do not matter for the verdict.
  unfold verdict resultOf isAnswer
  cases ending with
  | ok _ => cases (reported.filter (·.isFinished)).getLast? <;> rfl
  | error _ => rfl

/-- With the input the session starts to serve. -/
theorem serves_receive (id : Identifier) {input : String}
    (arrived : transport.input = .ok input) :
    (step transport id (waiting id) .receive).value.Serves transport id [.receive] := by
  simp only [step, receive, arrived, Logged.value_bind, Logged.value_pure]
  refine ⟨⟨[], rfl, ?_, ?_⟩, rfl, rfl, rfl, rfl, rfl⟩
  · -- The start goes out before anything can be reported.
    exact Relay.conveys_start.deliver (.start id)
  · exact Relay.held_deliver (.start id)

/-- Every move but the last one keeps a session serving. -/
theorem State.Serves.step (serves : state.Serves transport id moves) {move : Move}
    (allowed : state.allows move = true) (going : move ≠ .settle) :
    (step transport id state move).value.Serves transport id (moves ++ [move]) := by
  obtain ⟨⟨updates, split, follows⟩, worked, started, reading, unclosed, ongoing⟩ := serves
  -- Reports extend the queue behind what was relayed, and relaying moves the border between the two.
  cases move with
  | receive => simp [State.allows, started] at allowed
  | clone reporter =>
    exact ⟨⟨updates, (reports_concat_of_none rfl).trans split, follows⟩,
      (completions_concat_of_none rfl).trans worked, started, reading, unclosed, ongoing⟩
  | report reporter update =>
    have reported : reports (moves ++ [.report reporter update]) = reports moves ++ [update] := by
      simp [reports, Move.reported?]
    have queued : state.channel.report update =
        { state.channel with queue := state.channel.queue ++ [update] } := if_pos reading
    refine ⟨⟨updates, ?_, follows⟩, (completions_concat_of_none rfl).trans worked, started, ?_,
      unclosed, ongoing⟩
    · show reports _ = updates ++ (state.channel.report update).queue
      rw [reported, split, queued, List.append_assoc]
    · show (state.channel.report update).reading = true
      rw [queued]
      exact reading
  | leave reporter =>
    exact ⟨⟨updates, (reports_concat_of_none rfl).trans split, follows⟩,
      (completions_concat_of_none rfl).trans worked, started, reading, unclosed, ongoing⟩
  | complete ending nanoseconds =>
    have completed : completions (moves ++ [.complete ending nanoseconds]) =
        completions moves ++ [(ending, nanoseconds)] := by simp [completions, Move.completed?]
    have running : state.worker.isRunning = true := by simpa [State.allows, ongoing] using allowed
    have unfinished : state.worker.completions = [] := by
      cases worker : state.worker <;> simp_all [Worker.isRunning, Worker.completions]
    rw [worked, unfinished] at completed
    exact ⟨⟨updates, (reports_concat_of_none rfl).trans split, follows⟩, completed, rfl, reading,
      unclosed, ongoing⟩
  | relay =>
    cases queue : state.channel.queue with
    | nil => simp [State.allows, queue] at allowed
    | cons update rest =>
      have read : state.channel.read = (.update update, { state.channel with queue := rest }) := by
        simp [Channel.read, queue]
      simp only [Session.step, read, Logged.value_bind, Logged.value_pure]
      refine ⟨⟨updates ++ [update], ?_, follows.offer update⟩,
        (completions_concat_of_none rfl).trans worked, started, reading, unclosed, ongoing⟩
      rw [reports_concat_of_none rfl, split, queue, List.append_cons]
  | settle => exact absurd rfl going

/-- Moves other than the last one keep a session serving. -/
theorem State.Serves.play (serves : state.Serves transport id moves) {more : List Move}
    (legal : Legal transport id state more) (going : .settle ∉ more) :
    (play transport id state more).value.Serves transport id (moves ++ more) := by
  -- The induction follows the moves, none of which is the last one of the session.
  unfold Session.play
  rw [Logged.value_foldlM]
  induction more generalizing moves state with
  | nil => simpa using serves
  | cons move rest ih =>
    obtain ⟨first, later⟩ := not_or.mp (fun member => going (List.mem_cons.mpr member))
    rw [List.foldl_cons, List.append_cons]
    exact ih (serves.step legal.1 (Ne.symm first)) legal.2 later

/-- The last move gives the client all that there is for it. -/
theorem State.Serves.settle (serves : state.Serves transport id moves)
    {ending : Except Stop Unit} {nanoseconds : Nat}
    (ended : state.worker = .ended ending nanoseconds) :
    (Session.step transport id state .settle).value.Served transport id (moves ++ [.settle])
      ending nanoseconds := by
  obtain ⟨⟨updates, split, follows⟩, worked, _, _, unclosed, _⟩ := serves
  have reported : reports (moves ++ [.settle]) = reports moves := reports_concat_of_none rfl
  have completed : completions (moves ++ [.settle]) = completions moves :=
    completions_concat_of_none rfl
  -- The drain relays what still waits, so that the relay has followed every report.
  have drained := follows.offerAll state.channel.queue
  rw [← split] at drained
  have judged := value_verdict id (reports moves) ending
  rw [← drained.held] at judged
  simp only [Session.step, ended, Session.settle, Channel.drain, Logged.value_bind,
    Logged.value_pure, judged, unclosed, Nat.zero_add, Relay.value_close]
  refine ⟨?_, ?_, rfl, ?_⟩
  · rw [completed, worked, ended, Worker.completions]
  · rw [reported]
    exact drained.conveys.deliver _
  · rw [reported]

/-- A possible move leads from stage to stage. -/
theorem Stage.step (stage : Stage transport id moves state) {move : Move}
    (allowed : state.allows move = true) :
    Stage transport id (moves ++ [move]) (step transport id state move).value := by
  -- Each stage allows few moves, and each of them leads to a stage.
  cases stage with
  | waiting =>
    cases move with
    | receive =>
      cases input : transport.input with
      | error error =>
        have ends : (Session.step transport id (Session.waiting id) .receive).value =
            { Session.waiting id with closed := 1, outcome := some (.error error) } := by
          simp [Session.step, receive, input, Session.waiting]
        rw [ends]
        exact .refused input
      | ok text => exact .serving input (serves_receive id input)
    | relay | settle => cases allowed
    | clone _ | report _ _ | leave _ | complete _ _ => cases allowed
  | refused absent => cases allowed
  | serving arrived serves =>
    by_cases going : move = .settle
    · subst going
      have ended : state.worker.hasEnded = true := by
        simpa [State.allows, serves.ongoing] using allowed
      cases worker : state.worker with
      | idle | running => simp [worker, Worker.hasEnded] at ended
      | ended ending nanoseconds => exact .served arrived (serves.settle worker)
    · exact .serving arrived (serves.step allowed going)
  | served arrived served => simp [State.allows, served.outcome] at allowed

/-- Possible moves lead from stage to stage. -/
theorem Stage.play (stage : Stage transport id moves state) {more : List Move}
    (legal : Legal transport id state more) :
    Stage transport id (moves ++ more) (play transport id state more).value := by
  -- The induction follows the moves, each of which is possible after those before it.
  unfold Session.play
  rw [Logged.value_foldlM]
  induction more generalizing moves state with
  | nil => simpa using stage
  | cons move rest ih =>
    rw [List.foldl_cons, List.append_cons]
    exact ih (stage.step legal.1) legal.2

/-- Playing some moves and then some more plays them all. -/
theorem play_append (transport : Transport) (id : Identifier) (state : State)
    (moves more : List Move) :
    (play transport id state (moves ++ more)).value =
      (play transport id (play transport id state moves).value more).value := by
  -- The moves are played one after another.
  simp only [play, Logged.value_foldlM, List.foldl_append]

/-- Some moves and then some more are possible if both are possible where they are made. -/
theorem Legal.append (legal : Legal transport id state moves) {more : List Move}
    (further : Legal transport id (play transport id state moves).value more) :
    Legal transport id state (moves ++ more) := by
  -- The induction follows the moves that are made first.
  unfold play at further
  rw [Logged.value_foldlM] at further
  induction moves generalizing state with
  | nil => exact further
  | cons move rest ih => exact ⟨legal.1, ih legal.2 further⟩

/-- A session whose problem has ended comes to its end with one more move. -/
theorem State.Serves.settles (serves : state.Serves transport id moves)
    {ending : Except Stop Unit} {nanoseconds : Nat}
    (ended : state.worker = .ended ending nanoseconds) :
    Legal transport id state [.settle] ∧
      (Session.play transport id state [.settle]).value.outcome.isSome := by
  -- Nothing but the end of the problem has to come before the end of the session.
  refine ⟨⟨by simp [State.allows, serves.ongoing, ended, Worker.hasEnded], trivial⟩, ?_⟩
  simp only [Session.play, Logged.value_foldlM, List.foldl_cons, List.foldl_nil]
  rw [(serves.settle ended).outcome]
  rfl

/-- A session that serves can come to its end. -/
theorem State.Serves.finishes (serves : state.Serves transport id moves) :
    ∃ more, Legal transport id state more ∧
      (Session.play transport id state more).value.outcome.isSome := by
  cases worker : state.worker with
  | idle =>
    have started := serves.started
    simp [worker, Worker.isIdle] at started
  | running =>
    -- A problem that still runs has to end before the session can.
    have allowed : state.allows (.complete (.ok ()) 0) = true := by
      simp [State.allows, serves.ongoing, worker, Worker.isRunning]
    have completed := serves.step allowed (by simp)
    obtain ⟨legal, ends⟩ := completed.settles rfl
    refine ⟨[.complete (.ok ()) 0, .settle], ⟨allowed, legal⟩, ?_⟩
    rw [← List.singleton_append, play_append]
    simpa [Session.play, Logged.value_foldlM] using ends
  | ended ending nanoseconds => exact ⟨[.settle], serves.settles worker⟩

/-- From every stage a session can come to its end. -/
theorem Stage.finishes (stage : Stage transport id moves state) :
    ∃ more, Legal transport id state more ∧
      (Session.play transport id state more).value.outcome.isSome := by
  -- What is missing is an input, the end of the problem, the verdict or nothing.
  cases stage with
  | waiting =>
    cases input : transport.input with
    | error error =>
      refine ⟨[.receive], ⟨rfl, trivial⟩, ?_⟩
      simp [Session.play, Session.step, receive, input]
    | ok text =>
      obtain ⟨more, legal, ends⟩ := (serves_receive id input).finishes
      refine ⟨.receive :: more, ⟨rfl, legal⟩, ?_⟩
      rw [← List.singleton_append, play_append]
      simpa [Session.play, Logged.value_foldlM] using ends
  | refused absent => exact ⟨[], trivial, rfl⟩
  | serving arrived serves => exact serves.finishes
  | served arrived served =>
    refine ⟨[], trivial, ?_⟩
    show state.outcome.isSome = true
    rw [served.outcome]
    rfl

end SolverHub.Session
