import SolverHub.Proofs.Session.Transcript

/-! A session sends updates of its own problem behind one start as far as its problem reports nothing else. -/

namespace SolverHub

/-- An update belongs behind the start of a session: it is one of its problem and no other start. -/
structure Update.Belongs (id : Identifier) (update : Update) : Prop where
  id_eq : update.id = id
  kind_ne : update.kind ≠ .start

namespace Session

/-- All updates that were sent are those of one problem, and the first of them is the only start. -/
structure Owned (id : Identifier) (sent : List Update) : Prop where
  ids : ∀ update ∈ sent, update.id = id
  first : sent.head? = some (.start id)
  once : sent.countP (·.kind = .start) = 1

variable {transport : Transport} {id : Identifier} {moves : List Move} {state : State}

/-- Behind the start of a session all updates have to belong there. -/
theorem owned_cons (id : Identifier) (rest : List Update) :
    Owned id (.start id :: rest) ↔ ∀ update ∈ rest, update.Belongs id := by
  have counted : (Update.start id :: rest).countP (·.kind = .start) =
      rest.countP (·.kind = .start) + 1 := List.countP_cons_of_pos (decide_eq_true rfl)
  constructor
  · intro owned update member
    -- The start in front has been counted, so nothing else is one.
    have none : rest.countP (·.kind = .start) = 0 := by
      have once := owned.once
      omega
    have other := List.countP_eq_zero.mp none update member
    exact ⟨owned.ids update (List.mem_cons_of_mem _ member), by simpa using other⟩
  · intro belong
    have none : rest.countP (·.kind = .start) = 0 :=
      List.countP_eq_zero.mpr fun update member => by simpa using (belong update member).kind_ne
    refine ⟨fun update member => ?_, rfl, by rw [counted, none]⟩
    rcases List.mem_cons.mp member with rfl | later
    · rfl
    · exact (belong update later).id_eq

/-- A relay that conveys a start and more has been offered the start and the first of the others. -/
theorem offered_of_conveys {rest : List Update} {relay : Relay}
    (conveys : relay.Conveys transport (.start id :: rest)) :
    relay.offered = .start id :: rest.take relay.delivered.length :=
  -- The relay offers one update more than it has delivered, as far as there are any.
  conveys.offered

/-- What is taken of updates that belong to a session is owned behind its start. -/
theorem owned_of_conveys {rest : List Update} {relay : Relay}
    (conveys : relay.Conveys transport (.start id :: rest))
    (belong : ∀ update ∈ rest, update.Belongs id) : Owned id relay.offered := by
  -- What is offered behind the start comes from the updates to be sent.
  rw [offered_of_conveys conveys, owned_cons]
  exact fun update member => belong update (List.mem_of_mem_take member)

/-- A result belongs to a session unless it was reported for another problem. -/
theorem belongs_resultOf (id : Identifier) (reported : List Update) (ending : Except Stop Unit)
    (nanoseconds : Nat) :
    ((resultOf id reported ending).withElapsed nanoseconds).Belongs id ↔
      ∀ held, ending = .ok () → (reported.filter (·.isFinished)).getLast? = some held →
        held.id = id := by
  -- A finished update is no start, whoever reported it.
  have finished : ((resultOf id reported ending).withElapsed nanoseconds).isFinished = true := by
    rw [Update.isFinished_withElapsed, isFinished_resultOf]
  have no_start : ((resultOf id reported ending).withElapsed nanoseconds).kind ≠ .start := by
    intro start
    simp [Update.isFinished, start] at finished
  have named : ((resultOf id reported ending).withElapsed nanoseconds).Belongs id ↔
      (resultOf id reported ending).id = id := by
    rw [← Update.id_withElapsed (resultOf id reported ending) nanoseconds]
    exact ⟨fun belongs => belongs.id_eq, fun same => ⟨same, no_start⟩⟩
  rw [named]
  cases ending with
  | error stop => simp [resultOf, Update.failed]
  | ok _ =>
    unfold resultOf
    cases (reported.filter (·.isFinished)).getLast? with
    | none => simp only [Option.getD_none, Update.failed, reduceCtorEq, false_implies, implies_true]
    | some held => simp

/-- The updates that a session has for its client belong to it if the reports of its problem do. -/
theorem belongs_wire (id : Identifier) {reported : List Update}
    (belong : ∀ report ∈ reported, report.Belongs id) (ending : Except Stop Unit)
    (nanoseconds : Nat) :
    ∀ update ∈ (wire id reported ending nanoseconds).tail, update.Belongs id := by
  intro update member
  -- Progress is relayed as it was reported, and the result is built on the last one held.
  rcases List.mem_append.mp member with progress | result
  · exact belong update (List.mem_of_mem_filter progress)
  · rw [List.mem_singleton.mp result, belongs_resultOf]
    intro held _ last
    exact (belong held (List.mem_of_mem_filter (List.mem_of_getLast? last))).id_eq

/-- A session whose problem has been started has sent a start first, and nothing that does not belong behind it
as long as all reports belong there. -/
theorem Stage.owned {input : String} (stage : Stage transport id moves state)
    (arrived : transport.input = .ok input) (begun : moves ≠ []) :
    state.relay.offered.head? = some (.start id) ∧
      ((∀ report ∈ reports moves, report.Belongs id) → Owned id state.relay.offered) := by
  cases stage with
  | waiting => exact absurd rfl begun
  | refused absent =>
    rw [arrived] at absent
    cases absent
  | serving _ serves =>
    -- What has been relayed is a part of what was reported.
    obtain ⟨updates, split, follows⟩ := serves.relayed
    refine ⟨by rw [offered_of_conveys follows.conveys]; rfl, fun belong => ?_⟩
    refine owned_of_conveys follows.conveys fun update member => belong update ?_
    rw [split]
    exact List.mem_append_left _ (List.mem_of_mem_filter member)
  | served _ served =>
    refine ⟨by rw [offered_of_conveys served.conveyed]; rfl, fun belong => ?_⟩
    exact owned_of_conveys served.conveyed (belongs_wire id belong _ _)

/-- A session owns all that it sends if all reports of its problem belong to it, and one that is over
with its transport unbroken owns it only if every report that was relayed does, the result included. -/
theorem owned_of_legal (transport : Transport) (id : Identifier) {moves : List Move}
    (legal : Legal transport id (waiting id) moves) {input : String}
    (arrived : transport.input = .ok input) (begun : moves ≠ []) :
    let last := (play transport id (waiting id) moves).value
    last.relay.offered.head? = some (.start id) ∧
    ((∀ report ∈ reports moves, report.Belongs id) → Owned id last.relay.offered) ∧
    (last.closed = 1 → ∃ ending nanoseconds, completions moves = [(ending, nanoseconds)] ∧
      (Owned id last.relay.offered ↔
        (∀ report ∈ reports moves, report.isFinished = false → report.Belongs id) ∧
        ∀ held, ending = .ok () → ((reports moves).filter (·.isFinished)).getLast? = some held →
          held.id = id)) := by
  have stage := Stage.waiting.play legal
  rw [List.nil_append] at stage
  obtain ⟨first, owned⟩ := stage.owned arrived begun
  refine ⟨first, owned, ?_⟩
  generalize (play transport id (waiting id) moves).value = last at stage ⊢
  intro closed
  cases stage with
  | waiting => exact absurd rfl begun
  | refused absent =>
    rw [arrived] at absent
    cases absent
  | serving _ serves =>
    rw [serves.unclosed] at closed
    cases closed
  | served _ served =>
    rename_i ending nanoseconds _
    refine ⟨ending, nanoseconds, served.worked, ?_⟩
    -- The transport was closed, so it has not failed and was offered everything.
    have reachable : last.relay.reachable = true := by
      by_contra broken
      rw [served.closed, if_neg broken] at closed
      cases closed
    rw [(served.conveyed.whole reachable).2, wire, List.cons_append, owned_cons]
    simp only [List.forall_mem_append, List.forall_mem_singleton, belongs_resultOf,
      List.mem_filter, Bool.not_eq_true', and_imp]

/-- A problem of somebody else. -/
def stranger : Identifier := ⟨"Advent of Code", 2023, "bob", "Day 1", "Part 1"⟩

/-- A transport that takes everything. -/
def steady : Transport where
  input := .ok "7"
  accepts _ _ := .ok ()
  close := .ok ()

/-- A result for another problem comes first, and one for the problem itself replaces it. -/
def replacing : List Move :=
  [.receive, .report 0 (.solved stranger "1"), .relay, .report 0 ⟨client, .text "a"⟩,
    .report 0 (.solved client "2"), .complete (.ok ()) 5, .settle]

/-- A result that was replaced does not go out, so that the session owns what it sends. -/
theorem owned_of_legal_replacing :
    Legal steady client (waiting client) replacing ∧ steady.input = .ok "7" ∧ replacing ≠ [] ∧
      Owned client (play steady client (waiting client) replacing).value.relay.offered := by
  have legal : Legal steady client (waiting client) replacing := by decide
  have begun : replacing ≠ [] := by decide
  obtain ⟨_, _, ended⟩ := owned_of_legal steady client legal rfl begun
  -- The body finishes twice, and the second finish belongs to the session.
  obtain ⟨ending, nanoseconds, worked, owned⟩ := ended (by decide)
  refine ⟨legal, rfl, begun, owned.mpr ⟨?_, fun held _ last => ?_⟩⟩
  · intro report member unfinished
    have progress : (reports replacing).filter (!·.isFinished) = [⟨client, .text "a"⟩] := by decide
    have line : report ∈ (reports replacing).filter (!·.isFinished) :=
      List.mem_filter.mpr ⟨member, by rw [unfinished]; rfl⟩
    rw [progress, List.mem_singleton] at line
    rw [line]
    exact ⟨rfl, by decide⟩
  · have newest : ((reports replacing).filter (·.isFinished)).getLast? =
        some (.solved client "2") := by decide
    rw [newest] at last
    rw [← Option.some.inj last]
    rfl

/-- Another start and an update of another problem are reported as they are. -/
def forwarding : List Move :=
  [.receive, .report 0 (.start client), .report 0 ⟨stranger, .text "a"⟩, .relay, .relay,
    .report 0 (.solved client "2"), .complete (.ok ()) 5, .settle]

/-- What is reported goes out as it is, with the name of another problem and behind a second start. -/
theorem not_owned_forwarding :
    Legal steady client (waiting client) forwarding ∧
      let last := (play steady client (waiting client) forwarding).value
      last.outcome = some (.ok ⟨true, 5, 4⟩) ∧
      last.relay.delivered.take 3 =
        [.start client, .start client, ⟨stranger, .text "a"⟩] ∧
      (¬∀ update ∈ last.relay.delivered, update.id = client) ∧
      last.relay.delivered.countP (·.kind = .start) = 2 := by
  -- The body reports a start of its own and a text under a stranger's identifier.
  decide

end Session

end SolverHub
