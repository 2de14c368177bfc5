import SolverHub.Proofs.Session.Serving

/-! Every schedule of a session sends the same updates: a start, the updates of the run, and one verdict. -/

namespace SolverHub.Session

variable {transport : Transport} {id : Identifier} {state : State}

/-- The result that a run ends with is a finished update. -/
theorem isFinished_resultOf (id : Identifier) (reported : List Update)
    (ending : Except Stop Unit) : (resultOf id reported ending).isFinished = true := by
  -- A result is a held one, which is finished, or one made for the occasion.
  cases ending with
  | error _ => rfl
  | ok _ =>
    unfold resultOf
    cases last : (reported.filter (·.isFinished)).getLast? with
    | none => rfl
    | some update =>
      have member := List.mem_of_getLast? last
      exact (List.mem_filter.mp member).2

/-- A finished update that is stamped tells the time of its run. -/
theorem elapsed_withElapsed {update : Update} (finished : update.isFinished = true)
    (nanoseconds : Nat) :
    ∃ verdict, (update.withElapsed nanoseconds).kind = .finished verdict ∧
      verdict.elapsedNanoseconds = some (Int64.ofNat (min nanoseconds maxNanoseconds)) := by
  -- Only a finished update has a place for the time.
  obtain ⟨id, kind⟩ := update
  cases kind with
  | finished verdict => exact ⟨_, rfl, rfl⟩
  | start | text _ | grid _ | glyphGrid _ | table _ _ => cases finished

/-- Among the updates that a session has for its client only the last one is finished. -/
theorem filter_isFinished_wire (id : Identifier) (reported : List Update)
    (ending : Except Stop Unit) (nanoseconds : Nat) :
    (wire id reported ending nanoseconds).filter (·.isFinished) =
      [(resultOf id reported ending).withElapsed nanoseconds] := by
  -- The start is not finished, and the progress has been filtered.
  have progress : (reported.filter (!·.isFinished)).filter (·.isFinished) = [] := by
    simp [List.filter_filter]
  have result : ((resultOf id reported ending).withElapsed nanoseconds).isFinished = true := by
    rw [Update.isFinished_withElapsed, isFinished_resultOf]
  have start : (Update.start id).isFinished = false := rfl
  simp [wire, progress, result, start]

/-- The client of a run with two results and two reporters. -/
def client : Identifier := ⟨"Advent of Code", 2023, "alice", "Day 1", "Part 1"⟩

/-- A transport that breaks at its third update. -/
def breaking : Transport where
  input := .ok "7"
  accepts sent _ := if sent.length < 2 then .ok () else .error (.broken "connection reset")
  close := .ok ()

/-- A second reporter joins, results come early and twice, and the drain still finds updates. -/
def scattered : List Move :=
  [.receive, .clone 0, .report 1 ⟨client, .text "a"⟩, .report 0 (.solved client "1"), .relay,
    .report 1 ⟨client, .text "b"⟩, .relay, .report 0 (.solved client "2"), .leave 1,
    .complete (.ok ()) 5, .relay, .settle]

/-- A problem that runs may report any number of updates and end. -/
theorem legal_reports (ongoing : state.outcome = none) (running : state.worker = .running)
    (present : state.channel.hasReporter 0 = true) (updates : List Update)
    (ending : Except Stop Unit) (nanoseconds : Nat) :
    Legal transport id state (updates.map (.report 0) ++ [.complete ending nanoseconds]) := by
  induction updates generalizing state with
  | nil => exact ⟨by simp [State.allows, ongoing, running, Worker.isRunning], trivial⟩
  | cons update rest ih =>
    refine ⟨?_, ih ongoing running ?_⟩
    · simp [State.allows, ongoing, running, Worker.isRunning, present]
    · -- A report leaves all reporters in place.
      show (state.channel.report update).hasReporter 0 = true
      unfold Channel.report
      split <;> exact present

/-- The reports of a run are its updates, followed by its only ending. -/
theorem reports_schedule (run : Run) (nanoseconds : Nat) :
    reports (.receive :: schedule run nanoseconds) = run.updates ∧
      completions (.receive :: schedule run nanoseconds) = [(run.ending, nanoseconds)] := by
  -- All moves but the ending are reports, and all but the reports say nothing.
  have reported : (run.updates.map (Move.report 0)).filterMap Move.reported? = run.updates := by
    rw [List.filterMap_map]
    exact List.filterMap_some
  have uncompleted : (run.updates.map (Move.report 0)).filterMap Move.completed? = [] := by
    simp [List.filterMap_map, Function.comp_def, Move.completed?]
  simp [reports, completions, schedule, List.filterMap_cons, List.filterMap_append, reported,
    uncompleted, Move.reported?, Move.completed?]

/-- A run that ends before the session relays anything leaves the client served. -/
theorem served_schedule (id : Identifier) {input : String}
    (arrived : transport.input = .ok input) (run : Run) (nanoseconds : Nat) :
    (play transport id (waiting id) (.receive :: schedule run nanoseconds)).value.Served transport
      id (.receive :: schedule run nanoseconds) run.ending nanoseconds := by
  have serves := serves_receive id arrived
  have present : (step transport id (waiting id) .receive).value.channel.hasReporter 0 = true := by
    simp [step, receive, arrived, waiting, Channel.create, Channel.hasReporter]
  have running : (step transport id (waiting id) .receive).value.worker = .running := by
    simp [step, receive, arrived]
  have legal : Legal transport id (step transport id (waiting id) .receive).value
      (run.updates.map (.report 0) ++ [.complete run.ending nanoseconds]) :=
    legal_reports serves.ongoing running present run.updates run.ending nanoseconds
  have reported := serves.play legal (by simp)
  -- The last move before the session settles is the end of the run.
  have ended : (Session.play transport id (step transport id (waiting id) .receive).value
      (run.updates.map (.report 0) ++ [.complete run.ending nanoseconds])).value.worker =
        .ended run.ending nanoseconds := by
    simp [Session.play, Logged.value_foldlM, step]
  simpa [Session.play, Logged.value_foldlM, schedule] using reported.settle ended

/-- The transcript of a session with a problem follows from the run of the problem on the input. -/
theorem value_run (transport : Transport) (id : Identifier) (problem : Problem)
    (nanoseconds : Nat) :
    (run transport id problem nanoseconds).value =
      match transport.input with
      | .error error => ⟨[], 1, .error error⟩
      | .ok input =>
        let run := problem.body id input
        let sequence := wire id run.updates run.ending nanoseconds
        let arrived := transport.arrivals [] sequence
        ⟨arrived, if arrived = sequence then 1 else 0,
          .ok ⟨isAnswer run.updates run.ending, nanoseconds, arrived.length⟩⟩ := by
  unfold run
  cases input : transport.input with
  | error error =>
    -- The session ends with its first move.
    simp [scheduleAfter, Session.play, step, receive, input, State.transcript, waiting,
      Relay.start]
  | ok text =>
    -- The updates of the run are the reports of its schedule.
    obtain ⟨worked, ⟨delivered, _, reachable⟩, closed, outcome⟩ :=
      served_schedule id input (problem.body id text) nanoseconds
    rw [(reports_schedule _ _).1] at delivered reachable outcome
    simp only [Logged.value_bind, Logged.value_pure, scheduleAfter, State.transcript, outcome,
      closed, delivered, reachable, Option.getD_some]

end SolverHub.Session
