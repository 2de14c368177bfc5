import SolverHub.Problem.Basic

/-! A dial of a hundred positions turns by rotations, and the zeros it stops at and passes are counted. -/

namespace SolverHub.Dial

/-- The number of positions. -/
def size : Int := 100

/-- The position at which the dial starts. -/
def initial : Int := 50

/-- The words for rotations. -/
def rotationWord : Bounds := .signed 32

/-- The words for positions. -/
def positionWord : Bounds := .signed 64

/-- The words for counts. -/
def countWord : Bounds := .unsigned 64

/-- The faults of a rotation. -/
inductive RotationFault
  /-- The line starts with neither letter. -/
  | direction
  /-- The rest of the line is no number. -/
  | number (fault : Text.NumberFault)
  /-- The number is below zero. -/
  | negative
deriving DecidableEq, Repr

/-- The wording of a rotation fault. -/
def RotationFault.message : RotationFault → String
  | direction => "first character need to be 'L' or 'R'"
  | number fault => fault.message
  | negative => "Rotate value must be non negative"

/-- The distance that a number names. -/
def distance (text : List Char) : Except RotationFault Int := do
  let value ← (Text.readInt rotationWord text).mapError .number
  if value < 0 then .error .negative else .ok value

/-- The rotation that a line names, which counts down for left. -/
def rotation : List Char → Except RotationFault Int
  | 'L' :: text => (distance text).map (- ·)
  | 'R' :: text => distance text
  | _ => .error .direction

/-- Rotations are read line by line up to the first fault. -/
def rotationsFrom : Nat → List (List Char) → Except ParseError (List Int)
  | _, [] => .ok []
  | number, line :: rest =>
    match rotation line with
    | .error fault =>
      .error (.invalidFormat ("(line " ++ Text.natText number ++ ") " ++ fault.message))
    | .ok value => do
      let values ← rotationsFrom (number + 1) rest
      return value :: values

/-- The rotations of an input without the blanks around it. -/
def parse (input : String) : Except ParseError (List Int) :=
  rotationsFrom 1 (Text.lines (Text.trim input.toList))

/-- The position of the dial and the zeros so far. -/
structure Count where
  /-- The position, from zero. -/
  position : Int
  /-- The rotations that ended at zero. -/
  stops : Int
  /-- The clicks that led to zero. -/
  passes : Int
deriving DecidableEq, Repr

namespace Count

/-- The dial before its first rotation. -/
def start : Count := ⟨initial, 0, 0⟩

/-- One rotation passes zero once per full turn, and once more if it leaves another position downwards to reach it. -/
def turn (count : Count) (rotation : Int) : Except Overflow Count := do
  let reached ← positionWord.add count.position rotation
  let crossed ← if reached ≤ 0 ∧ count.position ≠ 0 then countWord.add count.passes 1
    else .ok count.passes
  let passes ← countWord.add crossed (reached.tdiv size).natAbs
  let remainder := reached.tmod size
  let position ← if remainder < 0 then positionWord.add remainder size else .ok remainder
  let stops ← if position = 0 then countWord.add count.stops 1 else .ok count.stops
  return ⟨position, stops, passes⟩

end Count

/-- The counts after all rotations. -/
def countZeros (rotations : List Int) : Except Overflow Count :=
  rotations.foldlM Count.turn .start

/-- The counts of a list of rotations with a report before and after. -/
def count (rotations : List Int) : Reporting Count := do
  .report (.text ("Turning the dial " ++ Text.natText rotations.length ++ " times"))
  let counts ← .checked (countZeros rotations)
  .report (.table ["stops at zero", "points at zero"]
    [[Text.intText counts.stops, Text.intText counts.passes]])
  return counts

/-- The two parts of the puzzle. -/
def problems : List Problem :=
  [.part 1 (some "Times the dial stops at zero") parse fun rotations => do
      return Text.intText (← count rotations).stops,
    .part 2 (some "Times the dial points at zero, including mid-rotation") parse
      fun rotations => do return Text.intText (← count rotations).passes]

end SolverHub.Dial
