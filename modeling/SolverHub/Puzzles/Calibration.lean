import SolverHub.Problem.Basic

/-! A calibration value is the first and the last digit of a line, and chunks of lines are summed independently. -/

namespace SolverHub.Calibration

/-- The number of lines that are summed together. -/
def chunkSize : Nat := 64

/-- The spelled digits from one to nine. -/
def spelledDigits : List String :=
  ["one", "two", "three", "four", "five", "six", "seven", "eight", "nine"]

/-- The words for sums, line values and subtotals. -/
def word : Bounds := .unsigned 32

/-- The words for line numbers and the total. -/
def longWord : Bounds := .unsigned 64

/-- A rule for the digit that a text starts with. -/
abbrev DigitRule := List Char → Option Nat

/-- Only a digit character is a digit. -/
def plainDigit : DigitRule
  | c :: _ => Text.digitValue? c
  | [] => none

/-- The spelled digit that a text starts with, the least one first. -/
def spelledDigit (text : List Char) : Option Nat :=
  (spelledDigits.findIdx? fun digit => (Text.dropLeading? digit.toList text).isSome).map (· + 1)

/-- A digit character and a spelled digit are both digits. -/
def anyDigit : DigitRule := fun text => (plainDigit text).or (spelledDigit text)

/-- The digits that start at the places of a line, from left to right. -/
def digits (rule : DigitRule) : List Char → List Nat
  | [] => []
  | c :: rest =>
    match rule (c :: rest) with
    | some digit => digit :: digits rule rest
    | none => digits rule rest

/-- The lines that carry a calibration value, trimmed. -/
def parse (input : String) : Except ParseError (List (List Char)) :=
  let lines := ((Text.lines input.toList).map Text.trim).filter (!·.isEmpty)
  if lines.isEmpty then .error (.missingData "no calibration lines") else .ok lines

/-- The value of a line with its place in the list, in checked arithmetic. -/
def lineValue (rule : DigitRule) (place : Nat) (line : List Char) : Except Stop Int := do
  match (digits rule line).head?, (digits rule line).getLast? with
  | some first, some last => (do
      let tens ← word.mul first 10
      word.add tens last).mapError Stop.ofOverflow
  | _, _ =>
    let number ← (longWord.add place 1).mapError Stop.ofOverflow
    .error (.failed (.solve (.noSolution ("line " ++ Text.intText number ++ " has no digits"))))

/-- The sum of the values of lines that start at a place, up to the first line without a value. -/
def valuesFrom (rule : DigitRule) : Nat → Int → List (List Char) → Except Stop Int
  | _, sum, [] => .ok sum
  | place, sum, line :: rest => do
    let value ← lineValue rule place line
    let sum ← (word.add sum value).mapError Stop.ofOverflow
    valuesFrom rule (place + 1) sum rest

/-- The lines of a chunk. -/
def chunk (lines : List (List Char)) (index : Nat) : List (List Char) :=
  (lines.drop (chunkSize * index)).take chunkSize

/-- The number of chunks, the last of which may be short. -/
def chunkCount (lines : List (List Char)) : Nat :=
  (lines.length + chunkSize - 1) / chunkSize

/-- The sum of the values in a chunk. -/
def subtotal (rule : DigitRule) (lines : List (List Char)) (index : Nat) : Except Stop Int :=
  valuesFrom rule (chunkSize * index) 0 (chunk lines index)

/-- One chunk is summed and its sum reported. -/
def runChunk (rule : DigitRule) (lines : List (List Char)) (index : Nat) :
    Reporting (Nat × Int) := do
  let sum ← ⟨[], subtotal rule lines index⟩
  .report (.text ("chunk " ++ Text.natText index ++ ": " ++ Text.intText sum))
  return (index, sum)

/-- Chunks are summed in a given order up to the first one that stops, and their sums added up. -/
def calibrateAlong (rule : DigitRule) (lines : List (List Char)) (order : List Nat) :
    Reporting String := do
  let sums ← order.mapM (runChunk rule lines)
  -- The sums are added in the order of the chunks whichever ran first.
  let inOrder := sums.mergeSort fun first second => first.1 ≤ second.1
  let total ← .checked (longWord.sum (inOrder.map (·.2)))
  return Text.intText total

/-- The sum of all line values, chunk by chunk from the first. -/
def calibrate (rule : DigitRule) (lines : List (List Char)) : Reporting String :=
  calibrateAlong rule lines (List.range (chunkCount lines))

/-- The two parts of the puzzle. -/
def problems : List Problem :=
  [.part 1 (some "Sum of first and last digit per line") parse (calibrate plainDigit),
    .part 2 (some "Same, counting spelled-out digits") parse (calibrate anyDigit)]

end SolverHub.Calibration
