import SolverHub.Proofs.Puzzles.DialGuard

/-! A stop at zero is a click that led there, unless the dial was at zero and did not turn.

The passes are therefore the stops, less those of a dial that stood still at zero, and the clicks that led to zero
before the last one of their rotation. A dial that stands still often enough stops at zero more often than it
passes zero. -/

namespace SolverHub.Dial

/-- The positions that the clicks of some rotations lead to, but for the last click of each rotation. -/
def midway : Int → List Int → List Int
  | _, [] => []
  | position, rotation :: rest =>
    (clicks position rotation).dropLast ++ midway (landing position rotation) rest

/-- The number of rotations without a click that find the dial at zero. -/
def idles : Int → List Int → Nat
  | _, [] => 0
  | position, rotation :: rest =>
    (if position = 0 ∧ rotation = 0 then 1 else 0) + idles (landing position rotation) rest

/-- Both parts end on an input with an answer, and these are the numbers that the answers show. -/
def Answers (id : Identifier) (input : String) (stops passes : Nat) : Prop :=
  (problems.map (·.body id input)).map (fun run => (run.ending, run.updates.getLast?)) =
    [(.ok (), some (.solved id (Text.natText stops))),
      (.ok (), some (.solved id (Text.natText passes)))]

section Rotations

variable {position rotation : Int}

/-- Only a rotation by nothing makes no clicks. -/
theorem clicks_eq_nil : clicks position rotation = [] ↔ rotation = 0 := by
  -- There are as many clicks as the rotation is far.
  rw [clicks, ← Int.natAbs_eq_zero]
  cases rotation.natAbs <;> simp [clicksFrom]

/-- A rotation leads to zero before its last click, or it stops there and did not stand still at zero. -/
theorem count_clicks_add (position rotation : Int) :
    (clicks position rotation).count 0 + (if position = 0 ∧ rotation = 0 then 1 else 0) =
      (if landing position rotation = 0 then 1 else 0) +
        (clicks position rotation).dropLast.count 0 := by
  by_cases still : rotation = 0
  · -- Without a click the dial stops where it was.
    subst still
    have none : clicks position 0 = [] := clicks_eq_nil.mpr rfl
    simp [landing, none]
  · have filled : clicks position rotation ≠ [] := fun none => still (clicks_eq_nil.mp none)
    have last : landing position rotation = (clicks position rotation).getLast filled := by
      rw [landing, List.getLastD_eq_getLast?, List.getLast?_eq_some_getLast filled]
      rfl
    -- The last click is the one that decides whether the rotation stops at zero.
    have clicked : (clicks position rotation).count 0 =
        (clicks position rotation).dropLast.count 0 +
          if landing position rotation = 0 then 1 else 0 := by
      conv_lhs => rw [← List.dropLast_append_getLast filled, ← last]
      simp [List.count_append, List.count_singleton]
    have moved : ¬(position = 0 ∧ rotation = 0) := fun idle => still idle.2
    rw [clicked, if_neg moved, Nat.add_zero, Nat.add_comm]

/-- Some rotations lead to zero midway, or they stop there and did not stand still at zero. -/
theorem count_journey_add (position : Int) (rotations : List Int) :
    (journey position rotations).count 0 + idles position rotations =
      (landings position rotations).count 0 + (midway position rotations).count 0 := by
  -- Each rotation starts where the one before it has landed.
  induction rotations generalizing position with
  | nil => rfl
  | cons rotation rest ih =>
    have first := count_clicks_add position rotation
    have others := ih (landing position rotation)
    simp only [journey, landings, midway, idles, List.count_append, List.count_cons, beq_iff_eq]
    omega

end Rotations

namespace Count

variable {count next last : Count} {rotation : Int} {rotations : List Int}

/-- A choice between a checked sum and something else gives the exact sum or the other. -/
theorem eq_of_add_or_keep {word : Bounds} {choice : Prop} [Decidable choice] {a b kept value : Int}
    (found : (if choice then word.add a b else .ok kept) = .ok value) :
    value = if choice then a + b else kept := by
  -- Only the way that adds is checked, and what passes the check is the sum.
  split at found
  · rename_i chosen
    rw [if_pos chosen]
    exact Bounds.eq_of_check found
  · rename_i other
    rw [if_neg other]
    exact (Except.ok.inj found).symm

/-- A turn that does not overflow counts what its clicks count. -/
theorem eq_clicked_of_turn (onDial : OnDial count.position)
    (turned : count.turn rotation = .ok next) : next = count.clicked rotation := by
  -- Each of the five steps has given its exact result.
  rw [turn] at turned
  obtain ⟨reached, reach, turned⟩ := bind_eq_ok.mp turned
  dsimp only at turned
  rw [Guard.ite_bind] at turned
  obtain ⟨crossed, cross, turned⟩ := bind_eq_ok.mp turned
  obtain ⟨passes, around, turned⟩ := bind_eq_ok.mp turned
  rw [Guard.ite_bind] at turned
  obtain ⟨position, land, turned⟩ := bind_eq_ok.mp turned
  rw [Guard.ite_bind] at turned
  obtain ⟨stops, stop, turned⟩ := bind_eq_ok.mp turned
  have same : (⟨position, stops, passes⟩ : Count) = next := Except.ok.inj turned
  have reached_eq : reached = count.position + rotation := Bounds.eq_of_check reach
  subst reached_eq
  have position_eq := (eq_of_add_or_keep land).trans (landing_eq_tmod onDial rotation).symm
  subst position_eq
  rw [← same, clicked, mk.injEq]
  refine ⟨rfl, eq_of_add_or_keep stop, ?_⟩
  have passes_eq : passes = crossed + _ := Bounds.eq_of_check around
  rw [passes_eq, eq_of_add_or_keep cross, count_clicks onDial rotation]
  split <;> omega

/-- Turns that do not overflow count what all their clicks count. -/
theorem eq_clickedAll_of_turns (onDial : OnDial count.position)
    (turned : rotations.foldlM turn count = .ok last) : last = count.clickedAll rotations := by
  -- The induction follows the rotations, with the dial where the first one leaves it.
  induction rotations generalizing count with
  | nil =>
    have same : count = last := Except.ok.inj turned
    simp [clickedAll, landings, journey, same]
  | cons rotation rest ih =>
    rw [List.foldlM_cons] at turned
    obtain ⟨next, first, turned⟩ := bind_eq_ok.mp turned
    rw [clickedAll_cons, ← eq_clicked_of_turn onDial first]
    refine ih ?_ turned
    rw [eq_clicked_of_turn onDial first]
    exact onDial_landing onDial rotation

end Count

section Answers

variable {id : Identifier} {input : String} {rotations : List Int} {stops passes : Nat}

/-- Counts that do not overflow are the stops at zero and the clicks that lead to zero. -/
theorem counts_eq {counts : Count} (counted : countZeros rotations = .ok counts) :
    counts.stops = ((landings initial rotations).count 0 : Nat) ∧
      counts.passes = ((journey initial rotations).count 0 : Nat) := by
  -- The dial starts inside its bounds.
  have clicked := Count.eq_clickedAll_of_turns ⟨by decide, by decide⟩ counted
  simp [clicked, Count.clickedAll, Count.start]

/-- The parts run on an input that was read as the counts go, and end as the counts do. -/
theorem run_problems (read : parse input = .ok rotations) (id : Identifier) :
    problems.map (·.body id input) =
      [(count rotations >>= fun counts => return Text.intText counts.stops).run id,
        (count rotations >>= fun counts => return Text.intText counts.passes).run id] := by
  -- Both parts read the same input and count alike.
  simp only [problems, List.map_cons, List.map_nil, Problem.part, Problem.ofReporting, read]
  rfl

/-- The parts answer with the stops at zero and the clicks that lead to zero, unless these overflow. -/
theorem answers_iff (read : parse input = .ok rotations) : Answers id input stops passes ↔
    (∃ counts, countZeros rotations = .ok counts) ∧
      stops = (landings initial rotations).count 0 ∧
      passes = (journey initial rotations).count 0 := by
  rw [Answers, run_problems read]
  cases counted : countZeros rotations with
  | error overflow =>
    -- Neither part ends with an answer.
    have stopped : ∀ shown : Count → Int,
        ((count rotations >>= fun counts => return Text.intText (shown counts)).run id).ending =
          .error (.ofOverflow overflow) := by
      intro shown
      simp only [count, counted]
      rfl
    simp only [List.map_cons, List.map_nil, stopped]
    simp
  | ok counts =>
    have ended : ∀ shown : Count → Int,
        (count rotations >>= fun counts => return Text.intText (shown counts)).run id =
          ⟨(count rotations).reports.map (Update.mk id) ++
            [.solved id (Text.intText (shown counts))], .ok ()⟩ := by
      intro shown
      simp only [count, counted]
      rfl
    obtain ⟨stopped, passed⟩ := counts_eq counted
    simp only [ended, stopped, passed, Text.intText_natCast]
    simp [Update.solved, Verdict.solved, Text.natText_inj, eq_comm]

/-- The answers differ by the rotations that stand still at zero and the clicks that pass zero midway.

The second part answers with no less than the first one exactly if the dial passes zero midway at least as often
as it stands still there. -/
theorem passes_add_idles (read : parse input = .ok rotations) (id : Identifier) :
    (rotations.length ≤ 2 ^ 39 → ∃ stops passes, Answers id input stops passes) ∧
    ∀ stops passes, Answers id input stops passes →
      passes + idles initial rotations = stops + (midway initial rotations).count 0 ∧
      (stops ≤ passes ↔ idles initial rotations ≤ (midway initial rotations).count 0) := by
  constructor
  · -- Few rotations keep the counts within their words, so both parts answer.
    intro few
    have bounded := (rotationsFrom_bounds read).2
    exact ⟨_, _, (answers_iff read).mpr ⟨⟨_, (countZeros_eq few bounded).1⟩, rfl, rfl⟩⟩
  · intro stops passes answers
    obtain ⟨_, stopped, passed⟩ := (answers_iff read).mp answers
    -- The answers are the counts, and those are related click by click.
    have total := count_journey_add initial rotations
    rw [← stopped, ← passed] at total
    exact ⟨total, by omega⟩

end Answers

/-- A client's problem. -/
def somebody : Identifier := ⟨"Advent of Code", 2025, "khang", "Day 1: Secret Entrance", "Part 2"⟩

/-- The dial passes zero twice midway, stops there, and stands still there once. -/
theorem passes_add_idles_around :
    parse "L250\nR0\nL0\nR150" = .ok [-250, 0, 0, 150] ∧
      Answers somebody "L250\nR0\nL0\nR150" 3 4 ∧
      4 + idles initial [-250, 0, 0, 150] = 3 + (midway initial [-250, 0, 0, 150]).count 0 := by
  -- The dial comes to zero past zero, stays there twice and goes past zero once more.
  have read : parse "L250\nR0\nL0\nR150" = .ok [-250, 0, 0, 150] := by decide +kernel
  obtain ⟨exist, related⟩ := passes_add_idles read somebody
  obtain ⟨stops, passes, answers⟩ := exist (by decide)
  obtain ⟨_, stopped, passed⟩ := (answers_iff read).mp answers
  have three : stops = 3 := stopped.trans (by decide +kernel)
  have four : passes = 4 := passed.trans (by decide +kernel)
  subst three four
  exact ⟨read, answers, (related 3 4 answers).1⟩

/-- A dial that has come to zero and does not turn stops there again without a pass. -/
theorem not_stops_le_passes_still :
    parse "L50\nL0" = .ok [-50, 0] ∧ Answers somebody "L50\nL0" 2 1 ∧
      ¬∀ stops passes, Answers somebody "L50\nL0" stops passes → stops ≤ passes := by
  -- The dial comes to zero and then does not turn.
  have read : parse "L50\nL0" = .ok [-50, 0] := by decide +kernel
  have answers : Answers somebody "L50\nL0" 2 1 :=
    (answers_iff read).mpr ⟨⟨⟨0, 2, 1⟩, by decide +kernel⟩, by decide +kernel, by decide +kernel⟩
  exact ⟨read, answers, fun always => absurd (always 2 1 answers) (by decide)⟩

end SolverHub.Dial
