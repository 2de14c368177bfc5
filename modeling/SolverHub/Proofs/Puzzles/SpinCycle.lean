import Mathlib.Dynamics.PeriodicPts.Defs
import SolverHub.Puzzles.Platform

/-! Skipping whole periods of a run of cycles leads to the platform at the end of that run. -/

namespace SolverHub.Platform

/-- No two of the first platforms of a run of cycles are the same. -/
def Fresh (platform : Platform) (cycle : Nat) : Prop :=
  ∀ later < cycle, ∀ earlier < later, spin^[earlier] platform ≠ spin^[later] platform

/-- A cycle is the first one to repeat an earlier one. -/
structure Repeats (platform : Platform) (cycle first : Nat) : Prop where
  before : first < cycle
  same : spin^[first] platform = spin^[cycle] platform
  fresh : Fresh platform cycle

/-- The rows of the first platforms of a run of cycles, the latest first. -/
def history (platform : Platform) : Nat → List (List (List Cell))
  | 0 => []
  | cycle + 1 => (spin^[cycle] platform).rows :: history platform cycle

/-- The text that announces a repetition. -/
def announcement (cycle first : Nat) : String :=
  "cycle " ++ Text.natText cycle ++ " repeats cycle " ++ Text.natText first ++ " (period " ++
    Text.natText (cycle - first) ++ ")"

/-- A run of cycles applies one cycle as often. -/
theorem spinTimes_eq (cycles : Nat) (platform : Platform) :
    spinTimes cycles platform = spin^[cycles] platform := by
  -- Both recursions apply the first cycle first.
  induction cycles generalizing platform with
  | zero => rfl
  | succ cycles ih => rw [spinTimes, ih, Function.iterate_succ_apply]

/-- Cycles leave the width of a platform. -/
theorem width_iterate (cycles : Nat) (platform : Platform) :
    (spin^[cycles] platform).width = platform.width := by
  -- The induction counts cycles, each of which tilts four times.
  induction cycles generalizing platform with
  | zero => rfl
  | succ cycles ih => exact ih platform.spin

/-- Two platforms of one run are the same if their rows are. -/
theorem iterate_eq_of_rows {platform : Platform} {first second : Nat}
    (same : (spin^[first] platform).rows = (spin^[second] platform).rows) :
    spin^[first] platform = spin^[second] platform := by
  -- A platform is its width and its rows, and the width never changes.
  have widths := (width_iterate first platform).trans (width_iterate second platform).symm
  cases held : spin^[first] platform
  cases other : spin^[second] platform
  simp_all

/-- All platforms of a history are counted. -/
@[simp] theorem length_history (platform : Platform) (cycle : Nat) :
    (history platform cycle).length = cycle := by
  -- Each cycle adds one entry to the history.
  induction cycle with
  | zero => rfl
  | succ cycle ih => rw [history, List.length_cons, ih]

/-- The latest of the earlier cycles is looked at first. -/
theorem earlier?_cons (held rows : List (List Cell)) (seen : List (List (List Cell))) :
    earlier? (held :: seen) rows = if held = rows then some seen.length else earlier? seen rows := by
  -- A position behind the head counts from the end as it did without the head.
  rw [earlier?, List.findIdx?_cons]
  by_cases same : held = rows
  · simp [same]
  · simp only [same, decide_false, Bool.false_eq_true, if_false, Option.map_map, earlier?,
      List.length_cons]
    congr 1
    funext back
    simp only [Function.comp_apply]
    omega

/-- A cycle that is found was run earlier with the same rows. -/
theorem earlier?_history_some {platform : Platform} {cycle first : Nat} {rows : List (List Cell)}
    (found : earlier? (history platform cycle) rows = some first) :
    first < cycle ∧ (spin^[first] platform).rows = rows := by
  -- The induction follows the history, whose head is the latest cycle.
  induction cycle with
  | zero => cases found
  | succ cycle ih =>
    rw [history, earlier?_cons] at found
    split at found
    · rename_i same
      rw [length_history] at found
      rw [← Option.some.inj found]
      exact ⟨Nat.lt_succ_self cycle, same⟩
    · exact (ih found).imp_left Nat.lt_succ_of_lt

/-- Where no cycle is found, none was run earlier with the same rows. -/
theorem earlier?_history_none {platform : Platform} {cycle : Nat} {rows : List (List Cell)}
    (absent : earlier? (history platform cycle) rows = none) :
    ∀ earlier < cycle, (spin^[earlier] platform).rows ≠ rows := by
  -- The induction follows the history, of which every platform was looked at.
  induction cycle with
  | zero => exact fun _ impossible => absurd impossible (Nat.not_lt_zero _)
  | succ cycle ih =>
    rw [history, earlier?_cons] at absent
    split at absent
    · cases absent
    · rename_i differs
      intro earlier before
      rcases Nat.lt_succ_iff_lt_or_eq.mp before with less | last
      · exact ih absent earlier less
      · rw [last]
        exact differs

/-- A platform that differs from all before it makes one more that is new. -/
theorem Fresh.succ {platform : Platform} {cycle : Nat} (fresh : Fresh platform cycle)
    (new : ∀ earlier < cycle, spin^[earlier] platform ≠ spin^[cycle] platform) :
    Fresh platform (cycle + 1) := by
  -- The only later cycle that is new is the last one.
  intro later before
  rcases Nat.lt_succ_iff_lt_or_eq.mp before with less | last
  · exact fresh later less
  · rw [last]
    exact new

/-- From the repeating cycle on, only the remainder by the period makes a difference. -/
theorem Repeats.skip {platform : Platform} {cycle first : Nat}
    (repeats : Repeats platform cycle first) (left : Nat) :
    spinTimes (left % (cycle - first)) (spin^[cycle] platform) = spin^[cycle + left] platform := by
  -- What follows the repeated cycle also follows the repeating one, so the platform is periodic.
  have before := repeats.before
  have periodic : Function.IsPeriodicPt spin (cycle - first) (spin^[cycle] platform) := by
    show spin^[cycle - first] (spin^[cycle] platform) = spin^[cycle] platform
    rw [← repeats.same, ← Function.iterate_add_apply, Nat.sub_add_cancel (Nat.le_of_lt before),
      repeats.same]
  rw [spinTimes_eq, periodic.iterate_mod_apply, ← Function.iterate_add_apply, Nat.add_comm]

/-- What a run of cycles announces is its first repetition, if there is one. -/
def Announced (platform : Platform) (cycles : Nat) (reports : List UpdateKind) : Prop :=
  (∃ cycle first, cycle < cycles ∧ Repeats platform cycle first ∧
    reports = [.text (announcement cycle first)]) ∨ Fresh platform cycles ∧ reports = []

/-- The cycles that are left lead on from a history without a repetition. -/
theorem spinRest_history {platform : Platform} {cycle : Nat} (fresh : Fresh platform cycle)
    (left : Nat) :
    let result := spinRest left (history platform cycle) (spin^[cycle] platform)
    result.outcome = .ok (spin^[cycle + left] platform) ∧
      Announced platform (cycle + left) result.reports := by
  induction left generalizing cycle with
  | zero => exact ⟨rfl, .inr ⟨fresh, rfl⟩⟩
  | succ left ih =>
    intro result
    cases found : earlier? (history platform cycle) (spin^[cycle] platform).rows with
    | some first =>
      obtain ⟨before, rows⟩ := earlier?_history_some found
      have repeats : Repeats platform cycle first := ⟨before, iterate_eq_of_rows rows, fresh⟩
      -- The period is not zero, since the repeated cycle was run earlier.
      have period : cycle - first ≠ 0 := Nat.sub_ne_zero_of_lt before
      have run : result = ⟨[.text (announcement cycle first)],
          .ok (spinTimes ((left + 1) % (cycle - first)) (spin^[cycle] platform))⟩ := by
        simp only [result, spinRest, found, length_history, if_neg period]
        rfl
      rw [run, repeats.skip]
      exact ⟨rfl, .inl ⟨cycle, first, by omega, repeats, rfl⟩⟩
    | none =>
      have new := earlier?_history_none found
      have further : Fresh platform (cycle + 1) :=
        fresh.succ fun earlier before same => new earlier before (congrArg rows same)
      have run : result =
          spinRest left (history platform (cycle + 1)) (spin^[cycle + 1] platform) := by
        simp only [result, spinRest, found, history, Function.iterate_succ_apply']
      rw [run, Nat.add_comm left, ← Nat.add_assoc]
      exact ih further

/-- A number of cycles leads to what as many single cycles lead to, and announces a repetition. -/
theorem spinMany_exact (cycles : Nat) (platform : Platform) :
    (spinMany cycles platform).outcome = .ok (spin^[cycles] platform) ∧
      Announced platform cycles (spinMany cycles platform).reports := by
  -- A run starts with an empty history.
  have fresh : Fresh platform 0 := fun _ impossible => absurd impossible (Nat.not_lt_zero _)
  have run := spinRest_history fresh cycles
  rwa [Nat.zero_add] at run

/-- The answer after a number of cycles is the load after as many single cycles.

What is announced before the last picture is the least repetition among the cycles, if any. -/
theorem solveSpin_exact (cycles : Nat) (platform : Platform) :
    let last := spin^[cycles] platform
    (spinMany cycles platform).outcome = .ok last ∧
    (solveSpin cycles platform).outcome =
      (last.northLoad.map Text.intText).mapError Stop.ofOverflow ∧
    ∃ announced, Announced platform cycles announced ∧
      (solveSpin cycles platform).reports = announced ++ [.glyphGrid last.glyphs] := by
  intro last
  obtain ⟨arrived, announced⟩ := spinMany_exact cycles platform
  have pictured : (Reporting.report (.glyphGrid last.glyphs)).outcome = .ok () := rfl
  -- The run does not stop, so the picture and the load come from the platform at its end.
  have run : solveSpin cycles platform =
      ⟨(spinMany cycles platform).reports ++ [.glyphGrid last.glyphs],
        (last.northLoad.map Text.intText).mapError Stop.ofOverflow⟩ := by
    rw [solveSpin, Reporting.bind_of_ok arrived, Reporting.bind_of_ok pictured]
    cases last.northLoad <;> rfl
  rw [run]
  exact ⟨arrived, rfl, _, announced, rfl⟩

end SolverHub.Platform
