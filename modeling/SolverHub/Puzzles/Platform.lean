import SolverHub.Problem.Basic
import SolverHub.Text.Quoted

/-! Round rocks roll over a platform when it is tilted, and a long run of tilts repeats itself. -/

namespace SolverHub

/-- What lies on a square of a platform. -/
inductive Cell
  /-- A rock that rolls. -/
  | round
  /-- A rock that stays. -/
  | cube
  /-- Nothing. -/
  | free
deriving DecidableEq, Repr

namespace Cell

/-- The character of a cell. -/
def toChar : Cell → Char
  | round => 'O'
  | cube => '#'
  | free => '.'

/-- The cell that a byte stands for. -/
def ofByte? (byte : UInt8) : Option Cell :=
  if byte = 79 then some round
  else if byte = 35 then some cube
  else if byte = 46 then some free
  else none

/-- The coloured form of a cell. -/
def toGlyph : Cell → Glyph
  | round => .colored "O" "yellow"
  | cube => .colored "#" "gray"
  | free => .plain "."

end Cell

/-- A direction in which a platform is tilted. -/
inductive Direction
  | north
  | west
  | south
  | east
deriving DecidableEq, Repr

/-- The rows of a platform from north to south, each from west to east. -/
structure Platform where
  /-- The number of cells in each row. -/
  width : Nat
  /-- The rows. -/
  rows : List (List Cell)
deriving DecidableEq, Repr

namespace Platform

/-- A platform has cells, and all its rows are equally wide. -/
structure WellFormed (platform : Platform) : Prop where
  width_pos : 0 < platform.width
  rows_ne_nil : platform.rows ≠ []
  row_width : ∀ row ∈ platform.rows, row.length = platform.width

/-- The number of rows. -/
def height (platform : Platform) : Nat := platform.rows.length

/-- The bytes of a line. -/
def lineBytes (line : List Char) : List UInt8 :=
  line.flatMap String.utf8EncodeChar

/-- A row of the expected width holds nothing but cells. -/
def parseRow (width number : Nat) (line : List Char) : Except ParseError (List Cell) := do
  let bytes := lineBytes line
  if bytes.length ≠ width then
    .error <| .invalidFormat <| "row " ++ Text.natText number ++ " has width " ++
      Text.natText bytes.length ++ ", expected " ++ Text.natText width
  else match bytes.find? fun byte => (Cell.ofByte? byte).isNone with
    | some byte =>
      .error <| .invalidFormat <| "unexpected " ++ Text.quotedChar (Char.ofNat byte.toNat) ++
        " in row " ++ Text.natText number
    | none => .ok (bytes.filterMap Cell.ofByte?)

/-- Rows are read from the first one down, up to the first fault. -/
def parseRows (width : Nat) : Nat → List (List Char) → Except ParseError (List (List Cell))
  | _, [] => .ok []
  | number, line :: rest => do
    let row ← parseRow width number line
    let rows ← parseRows width (number + 1) rest
    return row :: rows

/-- The lines of an input that hold rows, trimmed. -/
def rowLines (input : String) : List (List Char) :=
  ((Text.lines input.toList).map Text.trim).filter (!·.isEmpty)

/-- A platform is as wide as its first row. -/
def parse (input : String) : Except ParseError Platform :=
  match rowLines input with
  | [] => .error (.missingData "empty platform")
  | first :: rest => do
    let width := (lineBytes first).length
    return ⟨width, ← parseRows width 1 (first :: rest)⟩

/-- The rows as texts. -/
def render (platform : Platform) : List String :=
  platform.rows.map fun row => String.ofList (row.map Cell.toChar)

/-- The rows in colour. -/
def glyphs (platform : Platform) : List (List Glyph) :=
  platform.rows.map fun row => row.map Cell.toGlyph

/-- One more cell behind those that have settled, whose nearest comes first.

A round rock rolls over the free cells in front of it, and what it leaves becomes free. -/
def settle (settled : List Cell) : Cell → List Cell
  | .round =>
    settled.takeWhile (· = .free) ++ .round :: settled.dropWhile (· = .free)
  | cell => cell :: settled

/-- The cells of a line after all its round rocks rolled towards its front. -/
def rollForward (line : List Cell) : List Cell :=
  (line.foldl settle []).reverse

/-- The cells of a line after all its round rocks rolled towards its back. -/
def rollBackward (line : List Cell) : List Cell :=
  (rollForward line.reverse).reverse

/-- The columns of equally long rows. -/
def columns {α : Type} : Nat → List (List α) → List (List α)
  | 0, _ => []
  | width + 1, rows => rows.filterMap List.head? :: columns width (rows.map List.tail)

/-- A change of every column of the rows. -/
def mapColumns (platform : Platform) (change : List Cell → List Cell) : List (List Cell) :=
  columns platform.height ((columns platform.width platform.rows).map change)

/-- Every round rock rolls as far as it goes in a direction. -/
def tilt (platform : Platform) : Direction → Platform
  | .north => { platform with rows := platform.mapColumns rollForward }
  | .west => { platform with rows := platform.rows.map rollForward }
  | .south => { platform with rows := platform.mapColumns rollBackward }
  | .east => { platform with rows := platform.rows.map rollBackward }

/-- One cycle tilts the platform north, west, south and east. -/
def spin (platform : Platform) : Platform :=
  [Direction.north, .west, .south, .east].foldl tilt platform

/-- A number of cycles one after another. -/
def spinTimes : Nat → Platform → Platform
  | 0, platform => platform
  | cycles + 1, platform => spinTimes cycles platform.spin

/-- The words for loads and cycle counts. -/
def word : Bounds := .unsigned 64

/-- The load of rows on the north edge, each round rock weighing its distance from the south edge. -/
def loadOf : List (List Cell) → Int → Except Overflow Int
  | [], sum => .ok sum
  | row :: rest, sum => do
    let weight ← word.mul (row.count .round) (rest.length + 1 : Nat)
    loadOf rest (← word.add sum weight)

/-- The load on the north edge. -/
def northLoad (platform : Platform) : Except Overflow Int :=
  loadOf platform.rows 0

/-- The place of the first cycle in which the rocks lay as they lie now, among earlier ones in reverse. -/
def earlier? (seen : List (List (List Cell))) (rows : List (List Cell)) : Option Nat :=
  (seen.findIdx? (· = rows)).map fun back => seen.length - 1 - back

/-- The cycles that are left are run until the rocks lie as in an earlier cycle.

From there on only the remainder of the cycles by the period makes a difference. -/
def spinRest : Nat → List (List (List Cell)) → Platform → Reporting Platform
  | 0, _, platform => return platform
  | left + 1, seen, platform =>
    match earlier? seen platform.rows with
    | some first => do
      let cycle := seen.length
      let period := cycle - first
      .report (.text ("cycle " ++ Text.natText cycle ++ " repeats cycle " ++ Text.natText first ++
        " (period " ++ Text.natText period ++ ")"))
      if period = 0 then .checked (.error .remainderByZero)
      else return spinTimes ((left + 1) % period) platform
    | none => spinRest left (platform.rows :: seen) platform.spin

/-- A number of cycles from a platform on, with the repetition found on the way. -/
def spinMany (cycles : Nat) (platform : Platform) : Reporting Platform :=
  spinRest cycles [] platform

/-- The number of cycles of the second part. -/
def spinCycles : Nat := 1000000000

/-- The load after the platform has been tilted north once. -/
def solveTilt (platform : Platform) : Reporting String := do
  .report (.grid platform.render)
  let tilted := platform.tilt .north
  .report (.glyphGrid tilted.glyphs)
  return Text.intText (← .checked tilted.northLoad)

/-- The load after a number of cycles. -/
def solveSpin (cycles : Nat) (platform : Platform) : Reporting String := do
  let spun ← spinMany cycles platform
  .report (.glyphGrid spun.glyphs)
  return Text.intText (← .checked spun.northLoad)

/-- The two parts of the puzzle. -/
def problems : List Problem :=
  [.part 1 (some "Load on the north beams after tilting north") parse solveTilt,
    .part 2 (some "Load after a billion spin cycles") parse (solveSpin spinCycles)]

end Platform

end SolverHub
