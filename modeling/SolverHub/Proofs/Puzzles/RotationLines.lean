import Mathlib.Data.List.Forall2
import SolverHub.Proofs.Puzzles.DialGuard
import SolverHub.Proofs.Text.Signed

/-! Lines are read as rotations exactly if each is a letter in front of a number that is not below zero. -/

namespace SolverHub.Dial

variable {number : Nat} {line : List Char} {lines : List (List Char)} {value : Int} {rotations : List Int}
  {error : ParseError} {input : String}

/-- A line names a rotation: a letter for the direction, and a number of clicks, with a sign or without one. -/
inductive Turns : List Char → Int → Prop
  | left {text : List Char} {clicks : Int} (signed : Text.Signed text clicks) (least : 0 ≤ clicks)
      (most : clicks ≤ 2147483647) : Turns ('L' :: text) (-clicks)
  | right {text : List Char} {clicks : Int} (signed : Text.Signed text clicks) (least : 0 ≤ clicks)
      (most : clicks ≤ 2147483647) : Turns ('R' :: text) clicks

/-- A distance is read exactly from a number between zero and the greatest number of clicks. -/
theorem distance_eq_ok_iff {text : List Char} :
    distance text = .ok value ↔ Text.Signed text value ∧ 0 ≤ value ∧ value ≤ 2147483647 := by
  have reads : ∀ number, (Text.readInt rotationWord text).mapError RotationFault.number = .ok number ↔
      Text.Signed text number ∧ -2147483648 ≤ number ∧ number ≤ 2147483647 := by
    intro number
    rw [← holds_rotationWord, ← Text.readInt_eq_ok_iff (by decide) (by decide)]
    cases Text.readInt rotationWord text <;> simp [Except.mapError]
  -- A number that is read goes on to the test for its sign.
  rw [distance, bind_eq_ok]
  constructor
  · rintro ⟨number, read, tested⟩
    obtain ⟨signed, _, most⟩ := (reads number).mp read
    split at tested
    · cases tested
    · cases tested
      exact ⟨signed, by omega, most⟩
  · rintro ⟨signed, least, most⟩
    exact ⟨value, (reads value).mpr ⟨signed, by omega, most⟩, if_neg (by omega)⟩

/-- A rotation is read exactly from a line that names it. -/
theorem rotation_eq_ok_iff : rotation line = .ok value ↔ Turns line value := by
  constructor
  · intro read
    unfold rotation at read
    split at read
    · -- To the left the distance is turned around.
      rename_i text
      cases found : distance text with
      | error fault => simp [found, Except.map] at read
      | ok clicks =>
        obtain ⟨signed, least, most⟩ := distance_eq_ok_iff.mp found
        have same : -clicks = value := by simpa [found, Except.map] using read
        exact same ▸ .left signed least most
    · obtain ⟨signed, least, most⟩ := distance_eq_ok_iff.mp read
      exact .right signed least most
    · cases read
  · rintro (⟨signed, least, most⟩ | ⟨signed, least, most⟩)
    · rw [rotation, distance_eq_ok_iff.mpr ⟨signed, least, most⟩]
      rfl
    · exact distance_eq_ok_iff.mpr ⟨signed, least, most⟩

/-- A line names a rotation, or there is a fault in it. -/
theorem turns_or_fault (line : List Char) :
    (∃ value, Turns line value) ∨ ∃ fault, rotation line = .error fault := by
  -- A line is read as a rotation exactly if it is one.
  cases read : rotation line with
  | error fault => exact .inr ⟨fault, rfl⟩
  | ok value => exact .inl ⟨value, rotation_eq_ok_iff.mp read⟩

/-- A line with a fault names no rotation. -/
theorem not_turns_of_fault {fault : RotationFault} (found : rotation line = .error fault) :
    ¬Turns line value := fun turns => by
  -- A line cannot be read and fail to be read.
  cases (rotation_eq_ok_iff.mpr turns).symm.trans found

/-- A rotation goes no further in either direction than the greatest number of clicks. -/
theorem Turns.bounds (turns : Turns line value) : -2147483647 ≤ value ∧ value ≤ 2147483647 := by
  -- Either direction takes a distance that is a word.
  cases turns with
  | left signed least most | right signed least most => omega

/-- Rotations are read exactly from lines that name them, each in its place. -/
theorem rotationsFrom_eq_ok_iff :
    rotationsFrom number lines = .ok rotations ↔ List.Forall₂ Turns lines rotations := by
  -- The induction follows the lines, each of which takes one number.
  induction lines generalizing number rotations with
  | nil =>
    rw [rotationsFrom, List.forall₂_nil_left_iff, Except.ok.injEq]
    exact eq_comm
  | cons line rest ih =>
    rw [rotationsFrom, List.forall₂_cons_left_iff]
    cases read : rotation line with
    | error fault =>
      constructor
      · intro stopped
        cases stopped
      · rintro ⟨_, _, turns, _⟩
        exact absurd turns (not_turns_of_fault read)
    | ok value =>
      simp only [bind_eq_ok, ih]
      constructor
      · rintro ⟨values, others, ⟨⟩⟩
        exact ⟨value, values, rotation_eq_ok_iff.mp read, others, rfl⟩
      · rintro ⟨first, values, turns, others, rfl⟩
        cases read.symm.trans (rotation_eq_ok_iff.mpr turns)
        exact ⟨values, others, rfl⟩

/-- Behind lines that name rotations a fault is told with the number of its line. -/
theorem rotationsFrom_of_fault {before behind : List (List Char)} {fault : RotationFault}
    (named : ∀ earlier ∈ before, ∃ value, Turns earlier value) (found : rotation line = .error fault) :
    rotationsFrom number (before ++ line :: behind) = .error (.invalidFormat
      ("(line " ++ Text.natText (number + before.length) ++ ") " ++ fault.message)) := by
  induction before generalizing number with
  | nil => simp only [List.nil_append, rotationsFrom, found, List.length_nil, Nat.add_zero]
  | cons earlier before ih =>
    obtain ⟨⟨value, turns⟩, named⟩ := List.forall_mem_cons.mp named
    -- The number of the line is as much higher as there are lines in front of it.
    have place : number + 1 + before.length = number + (earlier :: before).length := by
      rw [List.length_cons]
      omega
    rw [List.cons_append, rotationsFrom, rotation_eq_ok_iff.mpr turns, ← place]
    simp only [ih named]
    rfl

/-- Lines name rotations if each of them names one. -/
theorem exists_rotations_iff :
    (∃ rotations, List.Forall₂ Turns lines rotations) ↔ ∀ line ∈ lines, ∃ value, Turns line value := by
  -- Each line names its rotation on its own, whatever the others name.
  induction lines with
  | nil => simp
  | cons line rest ih =>
    rw [List.forall_mem_cons, ← ih]
    constructor
    · rintro ⟨_, turns⟩
      obtain ⟨value, others, here, there, rfl⟩ := List.forall₂_cons_left_iff.mp turns
      exact ⟨⟨value, here⟩, others, there⟩
    · rintro ⟨⟨value, here⟩, others, there⟩
      exact ⟨value :: others, .cons here there⟩

/-- All lines name rotations, or there is a first one with a fault. -/
theorem turns_or_first_fault (lines : List (List Char)) :
    (∃ rotations, List.Forall₂ Turns lines rotations) ∨
      ∃ before line behind fault, lines = before ++ line :: behind ∧
        (∀ earlier ∈ before, ∃ value, Turns earlier value) ∧ rotation line = .error fault := by
  -- If some line is no rotation, the list is cut at the first such line.
  by_cases all : ∀ line ∈ lines, ∃ value, Turns line value
  · exact .inl (exists_rotations_iff.mpr all)
  · have exist : ∃ line ∈ lines, ¬∃ value, Turns line value := by
      simpa only [not_forall, exists_prop] using all
    obtain ⟨before, line, behind, split, wrong, passed⟩ := exists_cut exist
    obtain ⟨fault, found⟩ := (turns_or_fault line).resolve_left wrong
    exact .inr ⟨before, line, behind, fault, split,
      fun earlier member => not_not.mp (passed earlier member), found⟩

/-- A fault is told exactly with the number of the first line that names no rotation. -/
theorem rotationsFrom_eq_error_iff :
    rotationsFrom number lines = .error error ↔
      ∃ before line behind fault, lines = before ++ line :: behind ∧
        (∀ earlier ∈ before, ∃ value, Turns earlier value) ∧ rotation line = .error fault ∧
        error = .invalidFormat
          ("(line " ++ Text.natText (number + before.length) ++ ") " ++ fault.message) := by
  -- Lines are read up to the first fault, so the error tells of that one.
  constructor
  · intro told
    rcases turns_or_first_fault lines with
      ⟨rotations, turns⟩ | ⟨before, line, behind, fault, split, named, found⟩
    · cases told.symm.trans (rotationsFrom_eq_ok_iff.mpr turns)
    · rw [split, rotationsFrom_of_fault named found] at told
      exact ⟨before, line, behind, fault, split, named, found, (Except.error.inj told).symm⟩
  · rintro ⟨before, line, behind, fault, rfl, named, found, rfl⟩
    exact rotationsFrom_of_fault named found

/-- An input is read exactly if every line names a rotation, and the first one that does not is told.

The lines are those of the input without the blanks around it, and lead to one rotation each. A line
names one if it is a letter, perhaps a sign, and digits that stand for a number of clicks which is not
below zero and within the words for rotations. -/
theorem parse_turns (input : String) :
    let lines := Text.lines (Text.trim input.toList)
    (∀ rotations, parse input = .ok rotations ↔ List.Forall₂ Turns lines rotations) ∧
    ((∃ rotations, parse input = .ok rotations) ↔ ∀ line ∈ lines, ∃ rotation, Turns line rotation) ∧
    (∀ rotations, parse input = .ok rotations →
      ∀ rotation ∈ rotations, -2147483647 ≤ rotation ∧ rotation ≤ 2147483647) ∧
    (Text.trim input.toList = [] → parse input = .ok []) ∧
    ∀ error, parse input = .error error ↔
      ∃ before line behind fault, lines = before ++ line :: behind ∧
        (∀ earlier ∈ before, ∃ rotation, Turns earlier rotation) ∧
        (∀ rotation, ¬Turns line rotation) ∧ rotation line = .error fault ∧
        error = .invalidFormat
          ("(line " ++ Text.natText (before.length + 1) ++ ") " ++ fault.message) := by
  intro lines
  have reads : ∀ rotations, parse input = .ok rotations ↔ List.Forall₂ Turns lines rotations :=
    fun rotations => rotationsFrom_eq_ok_iff
  refine ⟨reads, ?_, fun rotations read rotation member => ?_, fun empty => ?_, fun error => ?_⟩
  · simp only [reads, exists_rotations_iff]
  · -- Every rotation stands beside a line that names it.
    obtain ⟨place, within, here⟩ := List.getElem_of_mem member
    have turns := (reads rotations).mp read
    have also : place < lines.length := turns.length_eq ▸ within
    exact here ▸ (turns.get also within).bounds
  · rw [parse, empty]
    rfl
  · rw [show parse input = rotationsFrom 1 lines from rfl, rotationsFrom_eq_error_iff]
    constructor
    · rintro ⟨before, line, behind, fault, split, named, found, told⟩
      rw [Nat.add_comm] at told
      exact ⟨before, line, behind, fault, split, named, fun _ => not_turns_of_fault found, found, told⟩
    · rintro ⟨before, line, behind, fault, split, named, _, found, told⟩
      rw [Nat.add_comm] at told
      exact ⟨before, line, behind, fault, split, named, found, told⟩

example : parse " L+07\r\nR-0\nR2147483647 " = .ok [-7, 0, 2147483647] := by decide +kernel

end SolverHub.Dial
