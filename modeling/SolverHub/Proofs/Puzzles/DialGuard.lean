import SolverHub.Proofs.Puzzles.Clicks
import SolverHub.Proofs.Text.Decimal
import SolverHub.Proofs.Text.Encoded

/-! Lines are cut behind a one-byte letter, and no count of turns leaves its words. -/

namespace SolverHub.Dial

/-- The distance behind the first byte of a line, which counts down for left. -/
def guardedDistance (left : Bool) (line : List Char) : Except Stop (Except RotationFault Int) := do
  let text ← Guard.textAfter line 1
  match distance text with
  | .error fault => return .error fault
  | .ok value => if left then return .ok (← Guard.neg rotationWord value) else return .ok value

/-- The rotation of a line, whose first byte is the direction. -/
def guardedRotation (line : List Char) : Except Stop (Except RotationFault Int) :=
  match (Text.bytes line).head? with
  | none => .ok (.error .direction)
  | some byte =>
    if byte = 76 then guardedDistance true line
    else if byte = 82 then guardedDistance false line
    else .ok (.error .direction)

/-- Rotations are read line by line up to the first fault, which tells the number of its line. -/
def guardedRotationsFrom : Int → List (List Char) → Except Stop (List Int)
  | _, [] => .ok []
  | index, line :: rest => do
    let rotation ← guardedRotation line
    let number ← Guard.add Guard.size index 1
    match rotation with
    | .error fault =>
      Guard.parsed <| .error <| .invalidFormat <|
        "(line " ++ Text.intText number ++ ") " ++ fault.message
    | .ok value => do
      let values ← guardedRotationsFrom number rest
      return value :: values

/-- The rotations of an input without the blanks around it. -/
def guardedParse (input : String) : Except Stop (List Int) :=
  guardedRotationsFrom 0 (Text.lines (Text.trim input.toList))

/-- The two parts of the puzzle with a guarded parser. -/
def guardedProblems : List Problem :=
  [Guard.part 1 (some "Times the dial stops at zero") guardedParse fun rotations => do
      return Text.intText (← count rotations).stops,
    Guard.part 2 (some "Times the dial points at zero, including mid-rotation") guardedParse
      fun rotations => do return Text.intText (← count rotations).passes]

/-- The words for rotations reach two to the thirty-one in both directions, but not upwards itself. -/
theorem holds_rotationWord {n : Int} :
    rotationWord.holds n = true ↔ -2147483648 ≤ n ∧ n ≤ 2147483647 := Bounds.holds_iff

/-- A distance is a number of clicks that a rotation can hold in both directions. -/
theorem distance_bounds {text : List Char} {value : Int} (found : distance text = .ok value) :
    0 ≤ value ∧ value ≤ 2147483647 := by
  unfold distance at found
  cases read : Text.readInt rotationWord text with
  | error fault => simp [read, Except.mapError, Bind.bind, Except.bind] at found
  | ok number =>
    have held := holds_rotationWord.mp (Text.holds_of_readInt (by decide) read)
    -- A number below zero is refused after it was read.
    simp only [read, Except.mapError, Bind.bind, Except.bind] at found
    split at found
    · cases found
    · cases found
      omega

/-- A rotation goes no further in either direction than its words reach. -/
theorem rotation_bounds {line : List Char} {value : Int} (found : rotation line = .ok value) :
    value.natAbs ≤ 2147483647 := by
  unfold rotation at found
  -- The distance is a word, and turning to the left only changes its sign.
  split at found
  · rename_i text
    cases named : distance text with
    | error fault => simp [named, Except.map] at found
    | ok distance =>
      have bounds := distance_bounds named
      have same : -distance = value := by simpa [named, Except.map] using found
      omega
  · have bounds := distance_bounds found
    omega
  · cases found

/-- Behind a letter of one byte the distance is read and negated without a crash. -/
theorem guardedDistance_eq {c : Char} (narrow : c.utf8Size = 1) (left : Bool) (text : List Char) :
    guardedDistance left (c :: text) =
      .ok (if left then (distance text).map (- ·) else distance text) := by
  have cut : Guard.textAfter (c :: text) 1 = .ok text := by
    have first := Guard.textAfter_eq [c] text
    simpa [Text.byteCount, narrow] using first
  simp only [guardedDistance, cut, Bind.bind, Except.bind]
  cases named : distance text with
  | error fault => cases left <;> rfl
  | ok value =>
    have bounds := distance_bounds named
    -- The words reach as far below zero as every distance goes above it.
    have held : rotationWord.holds (-value) = true := holds_rotationWord.mpr (by omega)
    simp only [Guard.neg_eq held]
    cases left <;> rfl

/-- The rotation of every line is found without a crash, wide characters behind the letter included. -/
theorem guardedRotation_eq (line : List Char) : guardedRotation line = .ok (rotation line) := by
  unfold guardedRotation
  cases first : (Text.bytes line).head? with
  | none =>
    have empty : line = [] := by
      cases line with
      | nil => rfl
      | cons c rest => simp [String.utf8EncodeChar_ne_nil] at first
    rw [empty]
    rfl
  | some byte =>
    by_cases left : byte = 76
    · subst left
      obtain ⟨text, rfl⟩ := Text.eq_cons_of_head (by decide) first
      exact guardedDistance_eq rfl true text
    by_cases right : byte = 82
    · subst right
      obtain ⟨text, rfl⟩ := Text.eq_cons_of_head (by decide) first
      exact guardedDistance_eq rfl false text
    -- A line that starts with one of the letters starts with its byte.
    simp only [if_neg left, if_neg right]
    unfold rotation
    split
    · exact absurd (Option.some.inj first).symm left
    · exact absurd (Option.some.inj first).symm right
    · rfl

/-- Lines are read without a crash from any number on that leaves room for all of them. -/
theorem guardedRotationsFrom_eq {index : Nat} {lines : List (List Char)}
    (few : index + lines.length < 18446744073709551616) :
    guardedRotationsFrom index lines = Guard.parsed (rotationsFrom (index + 1) lines) := by
  -- The induction follows the lines, whose numbers stay below the greatest size.
  induction lines generalizing index with
  | nil => rfl
  | cons line rest ih =>
    rw [List.length_cons] at few
    have held : Guard.size.holds ((index : Int) + 1) = true := by
      rw [Guard.holds_size]
      omega
    have number : Guard.add Guard.size index 1 = .ok ((index + 1 : Nat) : Int) := Guard.add_eq held
    rw [guardedRotationsFrom, guardedRotation_eq, Guard.ok_bind, number, Guard.ok_bind]
    cases found : rotation line with
    | error fault => simp only [rotationsFrom, found, Text.intText_natCast]
    | ok value =>
      have others := @ih (index + 1) (by omega)
      simp only [others, rotationsFrom, found]
      cases rotationsFrom (index + 1 + 1) rest <;> rfl

/-- A short input is parsed without a crash. -/
theorem guardedParse_eq {input : String} (short : Guard.Short input) :
    guardedParse input = Guard.parsed (parse input) := by
  -- A text has no more lines than bytes.
  have few := Text.length_lines_trim_le input.toList
  exact @guardedRotationsFrom_eq 0 _ (by omega)

/-- Rotations that were read go no further than their words reach, and there is one for each line. -/
theorem rotationsFrom_bounds {number : Nat} {lines : List (List Char)} {rotations : List Int}
    (read : rotationsFrom number lines = .ok rotations) :
    rotations.length = lines.length ∧ ∀ rotation ∈ rotations, rotation.natAbs ≤ 2147483647 := by
  -- The induction follows the lines, each of which gives one rotation.
  induction lines generalizing number rotations with
  | nil =>
    cases read
    exact ⟨rfl, nofun⟩
  | cons line rest ih =>
    rw [rotationsFrom] at read
    cases found : rotation line with
    | error fault => simp [found] at read
    | ok value =>
      cases others : rotationsFrom (number + 1) rest with
      | error fault => simp [found, others] at read
      | ok values =>
        have same : value :: values = rotations := by simpa [found, others] using read
        obtain ⟨length, bounded⟩ := ih others
        subst same
        refine ⟨congrArg (· + 1) length, ?_⟩
        intro turned member
        rcases List.mem_cons.mp member with rfl | later
        · exact rotation_bounds found
        · exact bounded turned later

/-- The zeros of a short input are counted without a crash. -/
theorem countZeros_of_parse {input : String} {rotations : List Int}
    (short : Guard.Short input) (read : parse input = .ok rotations) :
    ∃ last, countZeros rotations = .ok last := by
  -- There are no more rotations than lines, and each is a word.
  obtain ⟨length, bounded⟩ := rotationsFrom_bounds read
  have few := Text.length_lines_trim_le input.toList
  exact ⟨_, (countZeros_eq (by omega) bounded).1⟩

/-- Both parts are guarded without a difference, and no short input crashes them. -/
theorem guardedProblems_agree {input : String}
    (short : Guard.Short input) :
    List.Forall₂ (Guard.Agrees input) guardedProblems problems := by
  have reads : guardedParse input = Guard.parsed ((parse input).map id) := by
    rw [guardedParse_eq short]
    cases parse input <;> rfl
  -- Neither part does more with the counts than to show one of them.
  have solves : ∀ (shown : Count → Int) (rotations : List Int), parse input = .ok rotations →
      Guard.Safe (count rotations >>= fun counts => return Text.intText (shown counts)).outcome := by
    intro shown rotations read
    obtain ⟨last, counted⟩ := countZeros_of_parse short read
    have arrived : (count rotations).outcome = .ok last := by
      unfold count
      rw [counted]
      rfl
    rw [Reporting.bind_of_ok arrived]
    exact Guard.safe_ok _
  refine .cons ?_ (.cons ?_ .nil)
  · apply Guard.agrees_part reads
    intro rotations read
    exact ⟨rfl, solves Count.stops rotations read⟩
  · apply Guard.agrees_part reads
    intro rotations read
    exact ⟨rfl, solves Count.passes rotations read⟩

end SolverHub.Dial
