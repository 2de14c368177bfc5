import SolverHub.Problem.Basic

/-! A sample puzzle counts and sums the lines of its input, under the name of its revision. -/

namespace SolverHub.LineCount

/-- The name of the set. -/
def setName : String := "Line Count"

/-- The words for the numbers on the lines and their sum. -/
def word : Bounds := .signed 64

/-- The number of lines. -/
def countLines (revision input : String) : Reporting String := do
  let lines := Text.natText (Text.lines input.toList).length
  .report (.text ("counted " ++ lines ++ " lines"))
  return revision ++ ":" ++ lines

/-- The number on a line without the blanks around it. -/
def lineNumber (line : List Char) : Except Stop Int :=
  (Text.readInt word (Text.trim line)).mapError fun fault =>
    .failed (.msg fault.message)

/-- Each line is read and added in turn, up to the first fault. -/
def addLine (sum : Int) (line : List Char) : Except Stop Int := do
  let value ← lineNumber line
  (word.add sum value).mapError Stop.ofOverflow

/-- The sum of the numbers on the lines. -/
def sumLines (revision input : String) : Reporting String := do
  let total ← ⟨[], (Text.lines input.toList).foldlM addLine 0⟩
  return revision ++ ":" ++ Text.intText total

/-- The two parts of the puzzle. -/
def problems (revision : String) : List Problem :=
  [.ofReporting "Part 1" (some "Number of input lines") (countLines revision),
    .ofReporting "Part 2" (some "Sum of the input lines") (sumLines revision)]

end SolverHub.LineCount
