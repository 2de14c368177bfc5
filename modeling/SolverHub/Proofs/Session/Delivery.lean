import Mathlib.Data.List.Infix
import SolverHub.Session.Basic

/-! A relay delivers a sequence of updates up to the first one that its transport refuses. -/

namespace SolverHub

/-- The updates of a sequence that arrive behind some others before the transport breaks. -/
def Transport.arrivals (transport : Transport) (before : List Update) : List Update → List Update
  | [] => []
  | update :: rest =>
    -- A refused update breaks the transport for all that follow it.
    match transport.accepts before update with
    | .ok () => update :: transport.arrivals (before ++ [update]) rest
    | .error _ => []

/-- The updates that arrive are the first ones of the sequence. -/
theorem Transport.arrivals_isPrefix (transport : Transport) (before updates : List Update) :
    transport.arrivals before updates <+: updates := by
  -- The recursion follows the sequence and only ever stops early.
  induction updates generalizing before with
  | nil => exact List.prefix_refl _
  | cons update rest ih =>
    rw [arrivals]
    split
    · exact (List.cons_prefix_cons).mpr ⟨rfl, ih _⟩
    · exact List.nil_prefix

/-- What arrives of a longer sequence depends on whether the shorter one arrived as a whole. -/
theorem Transport.arrivals_append (transport : Transport) (before updates more : List Update) :
    transport.arrivals before (updates ++ more) =
      if transport.arrivals before updates = updates then
        updates ++ transport.arrivals (before ++ updates) more
      else transport.arrivals before updates := by
  induction updates generalizing before with
  | nil => simp [arrivals]
  | cons update rest ih =>
    rw [List.cons_append, arrivals, arrivals]
    cases accepted : transport.accepts before update with
    | ok _ =>
      -- The head arrives on both sides, and the induction hypothesis speaks about what follows it.
      simp only [ih, List.cons.injEq, true_and]
      split <;> simp
    | error _ => simp

namespace Relay

/-- A relay stands where the delivery of some updates in order leads. -/
structure Conveys (transport : Transport) (updates : List Update) (relay : Relay) : Prop where
  delivered : relay.delivered = transport.arrivals [] updates
  offered : relay.offered = updates.take (relay.delivered.length + 1)
  reachable : relay.reachable = true ↔ transport.arrivals [] updates = updates

variable {transport : Transport} {id : Identifier} {updates : List Update} {relay : Relay}

/-- Nothing has to be conveyed at the start. -/
theorem conveys_start : start.Conveys transport [] :=
  ⟨rfl, rfl, by simp [start, Transport.arrivals]⟩

/-- A relay that is still in touch has conveyed everything. -/
theorem Conveys.whole (conveys : relay.Conveys transport updates)
    (reachable : relay.reachable = true) :
    relay.delivered = updates ∧ relay.offered = updates := by
  -- All updates arrived, so taking one more than arrived takes them all.
  have delivered : relay.delivered = updates :=
    conveys.delivered.trans (conveys.reachable.mp reachable)
  refine ⟨delivered, ?_⟩
  rw [conveys.offered, delivered]
  exact List.take_of_length_le (by omega)

/-- Delivering one more update conveys one more update. -/
theorem Conveys.deliver (conveys : relay.Conveys transport updates) (update : Update) :
    (relay.deliver transport id update).value.Conveys transport (updates ++ [update]) := by
  have split := transport.arrivals_append [] updates [update]
  unfold Relay.deliver
  by_cases reachable : relay.reachable = true
  · obtain ⟨delivered, offered⟩ := conveys.whole reachable
    rw [if_pos (conveys.reachable.mp reachable), List.nil_append] at split
    simp only [if_pos reachable, delivered]
    cases accepted : transport.accepts updates update with
    | ok _ =>
      have arrived : transport.arrivals [] (updates ++ [update]) = updates ++ [update] := by
        rw [split, Transport.arrivals, accepted]
        rfl
      exact ⟨arrived.symm, by simp [offered], by simp [arrived, reachable]⟩
    | error _ =>
      -- The refused update is the one that the transport was given beyond those that arrived.
      have arrived : transport.arrivals [] (updates ++ [update]) = updates := by
        rw [split, Transport.arrivals, accepted]
        exact List.append_nil updates
      exact ⟨by simp [arrived], by simp [offered], by simp [arrived]⟩
  · -- A broken transport stays as it is, and the longer sequence breaks at the same place.
    have broken : transport.arrivals [] updates ≠ updates := fun arrived =>
      reachable (conveys.reachable.mpr arrived)
    rw [if_neg broken] at split
    have arrivals := transport.arrivals_isPrefix [] updates
    have shorter : (transport.arrivals [] updates).length < updates.length :=
      Nat.lt_of_le_of_ne arrivals.length_le fun same => broken (arrivals.eq_of_length same)
    rw [if_neg reachable]
    refine ⟨by rw [split]; exact conveys.delivered, ?_, ?_⟩
    · rw [Logged.value_pure, conveys.offered, List.take_append_of_le_length]
      rw [conveys.delivered]
      omega
    · rw [split]
      refine ⟨fun touched => absurd touched reachable, fun same => ?_⟩
      have lengths := congrArg List.length same
      simp only [List.length_append, List.length_cons, List.length_nil] at lengths
      omega

/-- A relay has been offered some updates of a run behind the start of its problem.

Those that are no results were conveyed, and the latest result is held. -/
structure Follows (transport : Transport) (id : Identifier) (updates : List Update)
    (relay : Relay) : Prop where
  conveys : relay.Conveys transport (.start id :: updates.filter (!·.isFinished))
  held : relay.held = (updates.filter (·.isFinished)).getLast?

/-- Delivering an update leaves the held result alone. -/
@[simp] theorem held_deliver (update : Update) :
    (relay.deliver transport id update).value.held = relay.held := by
  -- Sending touches the result in none of its outcomes.
  unfold Relay.deliver
  split
  · cases transport.accepts relay.delivered update <;> rfl
  · rfl

/-- A result that is offered is held in place of the one before it. -/
theorem value_offer_finished {update : Update} (finished : update.isFinished = true) :
    (relay.offer transport id update).value = { relay with held := some update } := by
  -- An earlier result only makes a difference to the log.
  unfold Relay.offer
  rw [if_pos finished]
  cases relay.held <;> rfl

/-- Any other update that is offered is delivered. -/
theorem value_offer_unfinished {update : Update} (unfinished : ¬ update.isFinished = true) :
    relay.offer transport id update = relay.deliver transport id update := by
  -- Only a finish is held back.
  unfold Relay.offer
  rw [if_neg unfinished]

/-- Offering one more update follows one more update. -/
theorem Follows.offer (follows : relay.Follows transport id updates) (update : Update) :
    (relay.offer transport id update).value.Follows transport id (updates ++ [update]) := by
  by_cases finished : update.isFinished = true
  · have progress : (updates ++ [update]).filter (!·.isFinished) =
        updates.filter (!·.isFinished) := by simp [finished]
    have results : (updates ++ [update]).filter (·.isFinished) =
        updates.filter (·.isFinished) ++ [update] := by simp [finished]
    rw [value_offer_finished finished]
    refine ⟨?_, ?_⟩
    · -- What was conveyed does not depend on what is held.
      obtain ⟨delivered, offered, reachable⟩ := follows.conveys
      rw [progress]
      exact ⟨delivered, offered, reachable⟩
    · rw [results, List.getLast?_concat]
  · have progress : (updates ++ [update]).filter (!·.isFinished) =
        updates.filter (!·.isFinished) ++ [update] := by simp [finished]
    have results : (updates ++ [update]).filter (·.isFinished) =
        updates.filter (·.isFinished) := by simp [finished]
    rw [value_offer_unfinished finished]
    refine ⟨?_, ?_⟩
    · rw [progress, ← List.cons_append]
      exact follows.conveys.deliver update
    · rw [results, held_deliver]
      exact follows.held

/-- Offering some more updates in order follows all of them. -/
theorem Follows.offerAll (follows : relay.Follows transport id updates) (more : List Update) :
    (relay.offerAll transport id more).value.Follows transport id (updates ++ more) := by
  -- The induction moves one update after another to those that have been offered.
  unfold Relay.offerAll
  rw [Logged.value_foldlM]
  induction more generalizing relay updates with
  | nil => simpa using follows
  | cons update rest ih =>
    rw [List.foldl_cons, List.append_cons]
    exact ih (follows.offer update)

/-- Closing counts once for a transport that has not failed. -/
theorem value_close (transport : Transport) (id : Identifier) (relay : Relay) :
    (relay.close transport id).value = if relay.reachable then 1 else 0 := by
  -- An error of the closing itself is only logged.
  unfold Relay.close
  cases relay.reachable
  · rfl
  · cases transport.close <;> rfl

end Relay

end SolverHub
