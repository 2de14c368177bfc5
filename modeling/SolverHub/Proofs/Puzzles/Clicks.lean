import Mathlib.Algebra.Ring.Nat
import SolverHub.Proofs.Guard
import SolverHub.Puzzles.Dial

/-! The dial counts whole rotations as if it made every click of them on its own. -/

namespace SolverHub.Dial

/-- The position that one click leads to, in either direction. -/
def click (step position : Int) : Int := (position + step) % size

/-- The positions that a number of clicks in one direction lead to, one after another. -/
def clicksFrom (step : Int) : Nat → Int → List Int
  | 0, _ => []
  | left + 1, position => click step position :: clicksFrom step left (click step position)

/-- The positions that the clicks of a rotation lead to, up where it is positive and down where it is negative. -/
def clicks (position rotation : Int) : List Int :=
  clicksFrom rotation.sign rotation.natAbs position

/-- The position after the last click of a rotation, which is the one before it if there are no clicks. -/
def landing (position rotation : Int) : Int := (clicks position rotation).getLastD position

/-- The positions after each of some rotations. -/
def landings : Int → List Int → List Int
  | _, [] => []
  | position, rotation :: rest =>
    landing position rotation :: landings (landing position rotation) rest

/-- The positions that all clicks of some rotations lead to. -/
def journey : Int → List Int → List Int
  | _, [] => []
  | position, rotation :: rest =>
    clicks position rotation ++ journey (landing position rotation) rest

/-- A position of the dial. -/
def OnDial (position : Int) : Prop := 0 ≤ position ∧ position < size

/-- Every number is at a position of the dial, full turns apart. -/
theorem onDial_emod (number : Int) : OnDial (number % size) :=
  ⟨Int.emod_nonneg _ (by decide), Int.emod_lt_of_pos _ (by decide)⟩

/-- A click leads to a position of the dial. -/
theorem onDial_click (step position : Int) : OnDial (click step position) :=
  onDial_emod (position + step)

section Clicks

variable {position : Int}

/-- Clicks in one direction add up around the dial. -/
theorem getLastD_clicksFrom (onDial : OnDial position) (step : Int) (count : Nat) :
    (clicksFrom step count position).getLastD position = (position + count * step) % size := by
  induction count generalizing position with
  | zero => simp [clicksFrom, Int.emod_eq_of_lt onDial.1 onDial.2]
  | succ count ih =>
    -- The first click leaves as many clicks less one, from where it leads to.
    rw [clicksFrom, List.getLastD_cons, ih (onDial_click step position), click, Int.emod_add_emod]
    have sum : position + step + count * step = position + (count + 1 : Nat) * step := by
      rw [Int.natCast_add, Int.add_mul, Int.natCast_one, Int.one_mul]
      omega
    rw [sum]

/-- A rotation ends as far around the dial as it goes. -/
theorem landing_eq (onDial : OnDial position) (rotation : Int) :
    landing position rotation = (position + rotation) % size := by
  -- All clicks of a rotation go one way.
  rw [landing, clicks, getLastD_clicksFrom onDial, Int.mul_comm, Int.sign_mul_natAbs]

/-- A rotation ends at a position of the dial. -/
theorem onDial_landing (onDial : OnDial position) (rotation : Int) :
    OnDial (landing position rotation) := by
  -- What is taken modulo the size of the dial is on it.
  rw [landing_eq onDial]
  exact onDial_emod (position + rotation)

/-- Clicks up lead to zero once for each hundred that they reach. -/
theorem count_clicksFrom_up (onDial : OnDial position) (count : Nat) :
    ((clicksFrom 1 count position).count 0 : Int) = (position + count) / size := by
  induction count generalizing position with
  | zero =>
    obtain ⟨low, high⟩ := onDial
    simp [clicksFrom, Int.ediv_eq_zero_of_lt low high]
  | succ count ih =>
    have later := ih (onDial_click 1 position)
    obtain ⟨low, high⟩ := onDial
    rw [clicksFrom, List.count_cons]
    unfold click size at *
    -- Only the click from the last position of the dial leads to zero.
    split <;> rename_i zero <;> simp only [beq_iff_eq] at zero <;> push_cast <;> omega

/-- Clicks down lead to zero once for each multiple of a hundred below the position that they reach. -/
theorem count_clicksFrom_down (onDial : OnDial position) (count : Nat) :
    ((clicksFrom (-1) count position).count 0 : Int) =
      (position - 1) / size - (position - count - 1) / size := by
  induction count generalizing position with
  | zero => simp [clicksFrom]
  | succ count ih =>
    have later := ih (onDial_click (-1) position)
    obtain ⟨low, high⟩ := onDial
    rw [clicksFrom, List.count_cons]
    unfold click size at *
    -- Only the click from the position above it leads to zero.
    split <;> rename_i zero <;> simp only [beq_iff_eq] at zero <;> push_cast <;> omega

/-- A rotation leads to zero once for each full turn, and once more where it comes down to zero or below. -/
theorem count_clicks (onDial : OnDial position) (rotation : Int) :
    ((clicks position rotation).count 0 : Int) =
      (if position + rotation ≤ 0 ∧ position ≠ 0 then 1 else 0) +
        ((position + rotation).tdiv size).natAbs := by
  -- Whole turns pass zero once each, and what is left passes it at most once.
  have turns : ((position + rotation).tdiv size).natAbs = (position + rotation).natAbs / 100 :=
    Int.natAbs_tdiv _ _
  rw [clicks, turns]
  -- The clicks go down, up or nowhere, and each way is counted by itself.
  rcases Int.lt_trichotomy rotation 0 with down | still | up
  · have clicked := count_clicksFrom_down onDial rotation.natAbs
    obtain ⟨low, high⟩ := onDial
    rw [Int.sign_eq_neg_one_of_neg down, clicked]
    unfold size at *
    split <;> omega
  · obtain ⟨low, high⟩ := onDial
    subst still
    unfold size at *
    simp only [Int.natAbs_zero, clicksFrom, List.count_nil]
    split <;> omega
  · have clicked := count_clicksFrom_up onDial rotation.natAbs
    obtain ⟨low, high⟩ := onDial
    rw [Int.sign_eq_one_of_pos up, clicked]
    unfold size at *
    split <;> omega

/-- The remainder that the dial keeps, corrected for its sign, is where the rotation ends. -/
theorem landing_eq_tmod (onDial : OnDial position) (rotation : Int) :
    landing position rotation =
      if (position + rotation).tmod size < 0 then (position + rotation).tmod size + size
      else (position + rotation).tmod size := by
  have whole := Int.mul_tdiv_add_tmod (position + rotation) size
  have above : (position + rotation).tmod size < size := Int.tmod_lt_of_pos _ (by decide)
  have below : -size < (position + rotation).tmod size := Int.lt_tmod_of_pos _ (by decide)
  rw [landing_eq onDial]
  generalize (position + rotation).tmod size = kept at *
  generalize (position + rotation).tdiv size = turns at *
  -- Full turns apart, the remainder is the number reached.
  unfold size at *
  split <;> omega

end Clicks

namespace Count

/-- The counts after the clicks of one more rotation. -/
def clicked (count : Count) (rotation : Int) : Count :=
  let position := landing count.position rotation
  ⟨position, if position = 0 then count.stops + 1 else count.stops,
    count.passes + (clicks count.position rotation).count 0⟩

/-- The counts after the clicks of some more rotations. -/
def clickedAll (count : Count) (rotations : List Int) : Count :=
  ⟨(landings count.position rotations).getLastD count.position,
    count.stops + (landings count.position rotations).count 0,
    count.passes + (journey count.position rotations).count 0⟩

/-- The clicks of the first rotation come before those of the others. -/
theorem clickedAll_cons (count : Count) (rotation : Int) (rest : List Int) :
    count.clickedAll (rotation :: rest) = (count.clicked rotation).clickedAll rest := by
  simp only [clickedAll, clicked, landings, journey, List.getLastD_cons, List.count_cons,
    List.count_append, beq_iff_eq, mk.injEq, true_and]
  -- Stops and passes of the first rotation are counted before the others.
  constructor
  · split <;> push_cast <;> omega
  · push_cast
    omega

/-- After some turns the dial is at one of its positions, and no turn counted more than its clicks allow. -/
structure Within (count : Count) (turns : Nat) : Prop where
  onDial : OnDial count.position
  stops_nonneg : 0 ≤ count.stops
  stops_le : count.stops ≤ turns
  passes_nonneg : 0 ≤ count.passes
  passes_le : count.passes ≤ 21474838 * turns

/-- A turn reaches a number, crosses zero, goes around, lands at a position and may stop at zero. -/
theorem turn_of_steps {count : Count} {rotation reached crossed passes position stops : Int}
    (reach : positionWord.add count.position rotation = .ok reached)
    (cross : (if reached ≤ 0 ∧ count.position ≠ 0 then countWord.add count.passes 1
      else .ok count.passes) = .ok crossed)
    (around : countWord.add crossed (reached.tdiv size).natAbs = .ok passes)
    (land : (if reached.tmod size < 0 then positionWord.add (reached.tmod size) size
      else .ok (reached.tmod size)) = .ok position)
    (stop : (if position = 0 then countWord.add count.stops 1 else .ok count.stops) = .ok stops) :
    count.turn rotation = .ok ⟨position, stops, passes⟩ := by
  rw [turn, reach, Guard.ok_bind]
  -- What follows a choice is the same on both sides, so it comes after the choice.
  dsimp only
  rw [Guard.ite_bind, cross, Guard.ok_bind, around, Guard.ok_bind, Guard.ite_bind, land,
    Guard.ok_bind, Guard.ite_bind, stop, Guard.ok_bind, Guard.pure_eq]

/-- A choice between a sum that the words hold and something else gives a value on both sides. -/
theorem add_or_keep {word : Bounds} {choice : Prop} [Decidable choice] {a b kept : Int}
    (held : word.holds (a + b) = true) :
    (if choice then word.add a b else .ok kept) = .ok (if choice then a + b else kept) := by
  -- Only the way that adds is checked.
  split
  · exact Bounds.add_of_holds held
  · rfl

variable {count : Count} {turns : Nat} {rotation : Int}

/-- The clicks of one more rotation leave the dial at a position and the counts within their bounds. -/
theorem Within.clicked (within : count.Within turns) (bounded : rotation.natAbs ≤ 2147483647) :
    (count.clicked rotation).Within (turns + 1) := by
  obtain ⟨onDial, stops_low, stops_high, passes_low, passes_high⟩ := within
  have counted := count_clicks onDial rotation
  have around : ((count.position + rotation).tdiv size).natAbs =
      (count.position + rotation).natAbs / 100 := Int.natAbs_tdiv _ _
  obtain ⟨low, high⟩ := onDial
  have hundred : size = 100 := rfl
  -- A rotation of a word passes zero at most once every hundred clicks.
  have few : (clicks count.position rotation).count 0 ≤ 21474838 := by
    split at counted <;> omega
  refine ⟨onDial_landing ⟨low, high⟩ rotation, ?_, ?_, ?_, ?_⟩ <;>
    simp only [Count.clicked] <;> push_cast
  · split <;> omega
  · split <;> omega
  · omega
  · omega

/-- A turn counts what its clicks count, with room in all words. -/
theorem Within.turn (within : count.Within turns) (few : turns < 2 ^ 39)
    (bounded : rotation.natAbs ≤ 2147483647) :
    count.turn rotation = .ok (count.clicked rotation) := by
  obtain ⟨onDial, stops_low, stops_high, passes_low, passes_high⟩ := within
  have counted := count_clicks onDial rotation
  have landed := landing_eq_tmod onDial rotation
  have around : ((count.position + rotation).tdiv size).natAbs =
      (count.position + rotation).natAbs / 100 := Int.natAbs_tdiv _ _
  have above : (count.position + rotation).tmod size < size := Int.tmod_lt_of_pos _ (by decide)
  have below : -size < (count.position + rotation).tmod size :=
    Int.lt_tmod_of_pos _ (by decide)
  obtain ⟨low, high⟩ := onDial
  have hundred : size = 100 := rfl
  -- Each of the five steps has room for its result, the counts by their bounds.
  refine turn_of_steps (Bounds.add_of_holds (Guard.holds_offset.mpr (by omega)))
    (add_or_keep (Guard.holds_size.mpr (by omega))) ?_
    ((add_or_keep (Guard.holds_offset.mpr (by omega))).trans (congrArg _ landed.symm))
    (add_or_keep (Guard.holds_size.mpr (by omega)))
  have total : count.passes + (clicks count.position rotation).count 0 =
      (if count.position + rotation ≤ 0 ∧ count.position ≠ 0 then count.passes + 1
        else count.passes) + ((count.position + rotation).tdiv size).natAbs := by
    rw [counted]
    split <;> omega
  rw [total]
  exact Bounds.add_of_holds (Guard.holds_size.mpr (by split <;> omega))

/-- The turns of a list count what all their clicks count. -/
theorem Within.follow {rotations : List Int} (within : count.Within turns)
    (few : turns + rotations.length ≤ 2 ^ 39)
    (bounded : ∀ rotation ∈ rotations, rotation.natAbs ≤ 2147483647) :
    rotations.foldlM Count.turn count = .ok (count.clickedAll rotations) ∧
      (count.clickedAll rotations).Within (turns + rotations.length) := by
  -- The induction follows the list, and each turn hands its bounds to the next one.
  induction rotations generalizing count turns with
  | nil =>
    have kept : count.clickedAll [] = count := by simp [clickedAll, landings, journey]
    rw [kept]
    exact ⟨rfl, within⟩
  | cons rotation rest ih =>
    rw [List.length_cons] at few ⊢
    have first := bounded rotation (List.mem_cons_self ..)
    have others : ∀ other ∈ rest, other.natAbs ≤ 2147483647 := fun other member =>
      bounded other (List.mem_cons_of_mem rotation member)
    obtain ⟨turned, further⟩ := ih (within.clicked first) (by omega) others
    rw [List.foldlM_cons, within.turn (by omega) first, Guard.ok_bind, clickedAll_cons]
    rw [Nat.add_right_comm] at further
    exact ⟨turned, further⟩

/-- Nothing has been counted at the start. -/
theorem within_start : start.Within 0 :=
  ⟨⟨by decide, by decide⟩, by decide, by decide, by decide, by decide⟩

end Count

variable {rotations : List Int}

/-- The zeros of any list of rotations that the words have room for are those of its clicks. -/
theorem countZeros_eq (few : rotations.length ≤ 2 ^ 39)
    (bounded : ∀ rotation ∈ rotations, rotation.natAbs ≤ 2147483647) :
    countZeros rotations = .ok ⟨(landings initial rotations).getLastD initial,
      (landings initial rotations).count 0, (journey initial rotations).count 0⟩ ∧
    OnDial ((landings initial rotations).getLastD initial) := by
  obtain ⟨turned, within⟩ := Count.within_start.follow (by omega) bounded
  -- Nothing has been counted before the first rotation.
  have same : Count.start.clickedAll rotations = ⟨(landings initial rotations).getLastD initial,
      (landings initial rotations).count 0, (journey initial rotations).count 0⟩ := by
    simp [Count.clickedAll, Count.start]
  rw [same] at turned within
  exact ⟨turned, within.onDial⟩

/-- Counting whole rotations is counting clicks: the stops are the rotations that end at zero, and
the passes are the clicks that lead to zero.

After each rotation the kept position is the one that the clicks have led to. -/
theorem count_follows_clicks (few : rotations.length < 2 ^ 39)
    (bounded : ∀ rotation ∈ rotations, rotation.natAbs ≤ 2 ^ 31 - 1) :
    (count rotations).outcome = .ok ⟨(landings initial rotations).getLastD initial,
      (landings initial rotations).count 0, (journey initial rotations).count 0⟩ ∧
    ∀ done, done <+: rotations → ∃ kept, countZeros done = .ok kept ∧
      kept.position = (landings initial done).getLastD initial ∧
      0 ≤ kept.position ∧ kept.position < 100 := by
  constructor
  · have counted := (countZeros_eq (Nat.le_of_lt few) bounded).1
    unfold count
    rw [counted]
    rfl
  · -- The first rotations of a list are a list with the same bounds.
    intro done first
    have shorter := first.length_le
    obtain ⟨counted, low, high⟩ := @countZeros_eq done (by omega)
      fun rotation member => bounded rotation (first.subset member)
    exact ⟨_, counted, rfl, low, high⟩

/-- A list that starts below zero, ends at zero, stands still, and goes around in both directions. -/
theorem count_follows_clicks_around :
    let rotations : List Int := [-50, 0, -100, 250, -768, 18, 100]
    (rotations.length < 2 ^ 39 ∧ ∀ rotation ∈ rotations, rotation.natAbs ≤ 2 ^ 31 - 1) ∧
    (count rotations).outcome = .ok ⟨0, 5, 14⟩ := by
  intro rotations
  have few : rotations.length < 2 ^ 39 := by decide
  have bounded : ∀ rotation ∈ rotations, rotation.natAbs ≤ 2 ^ 31 - 1 := by decide
  -- The bounds hold, so the dial is counted as the clicks are.
  refine ⟨⟨few, bounded⟩, (count_follows_clicks few bounded).1.trans ?_⟩
  decide +kernel

end SolverHub.Dial
