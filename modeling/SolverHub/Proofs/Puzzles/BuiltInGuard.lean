import Mathlib
import SolverHub.Proofs.Puzzles.CalibrationGuard
import SolverHub.Proofs.Puzzles.DialGuard
import SolverHub.Proofs.Puzzles.PlatformGuard
import SolverHub.Puzzles.BuiltIn

/-! The built-in parts return on every text, with every cut, place, chunk and word guarded. -/

namespace SolverHub.BuiltIn

/-- The guarded parts of all built-in puzzles, under a schedule of the chunks of the first one. -/
def guardedProblems (schedule : Nat → List Nat) : List Problem :=
  Calibration.guardedProblems schedule ++ (Platform.guardedProblems ++ Dial.guardedProblems)

/-- Each guarded part agrees with the part of its puzzle, under every schedule that leaves no chunk out. -/
theorem guardedProblems_agree {schedule : Nat → List Nat}
    (complete : ∀ count, (schedule count).Perm (List.range count)) {input : String}
    (short : Guard.Short input) :
    List.Forall₂ (Guard.Agrees input) (guardedProblems schedule)
      (Calibration.problemsAlong schedule ++ (Platform.problems ++ Dial.problems)) :=
  -- The lists agree puzzle by puzzle.
  List.rel_append (Calibration.guardedProblems_agree short complete)
    (List.rel_append (Platform.guardedProblems_agree short) (Dial.guardedProblems_agree short))

/-- Every part returns an answer or an error on every text of fewer than two to the thirty-one bytes.

No guarded operation crashes, in whatever order the chunks of lines run, and the parts whose operations
are guarded run exactly as the parts of the program. -/
theorem guardedProblems_return {schedule : Nat → List Nat}
    (complete : ∀ count, (schedule count).Perm (List.range count)) {input : String}
    (short : Text.byteCount input.toList < 2 ^ 31) (id : Identifier) :
    (∀ guarded ∈ guardedProblems schedule, (guarded.body id input).ending = .ok () ∨
      ∃ error, (guarded.body id input).ending = .error (.failed error)) ∧
    (guardedProblems List.range).map (·.body id input) =
      (all.flatMap (·.set.problems)).map (·.body id input) := by
  constructor
  · intro guarded member
    have agree := guardedProblems_agree complete short
    obtain ⟨place, inside, rfl⟩ := List.getElem_of_mem member
    have safe := (agree.get inside (agree.length_eq ▸ inside) id).2
    rcases Guard.returns_of_safe safe with ⟨value, answered⟩ | failed
    · exact .inl answered
    · exact .inr failed
  · -- The parts of the program run the chunks from the first one on.
    have agree := guardedProblems_agree (fun count => List.Perm.refl (List.range count)) short
    have program : all.flatMap (·.set.problems) =
        Calibration.problemsAlong List.range ++ (Platform.problems ++ Dial.problems) := rfl
    rw [program]
    exact Guard.map_body_of_agrees agree id

/-- A wide character behind the letter of a rotation is no reason to crash, with the last chunk run first. -/
theorem guardedProblems_return_wide :
    let id : Identifier := ⟨"Advent of Code", 2025, "khang", "Day 1: Secret Entrance", "Part 1"⟩
    let input := "L¼\nR7"
    let schedule := fun count => (List.range count).reverse
    (∀ count, (schedule count).Perm (List.range count)) ∧ Text.byteCount input.toList < 2 ^ 31 ∧
    (∀ guarded ∈ guardedProblems schedule, (guarded.body id input).ending = .ok () ∨
      ∃ error, (guarded.body id input).ending = .error (.failed error)) ∧
    (guardedProblems List.range).map (·.body id input) =
      (all.flatMap (·.set.problems)).map (·.body id input) := by
  intro id input schedule
  have complete : ∀ count, (schedule count).Perm (List.range count) :=
    fun count => List.reverse_perm (List.range count)
  -- The input holds a character of two bytes, so bytes and characters differ.
  have short : Text.byteCount input.toList < 2 ^ 31 := by
    have bytes : Text.byteCount input.toList = 6 := by cbv
    rw [bytes]
    decide
  exact ⟨complete, short, guardedProblems_return complete short id⟩

end SolverHub.BuiltIn
