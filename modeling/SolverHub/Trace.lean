import SolverHub.Path
import SolverHub.Text.Blank
import SolverHub.Text.Decimal

/-! A stack trace is abbreviated to the functions that have a place in the program itself. -/

namespace SolverHub.Trace

/-- What a line of a trace tells. -/
inductive Line
  /-- The name of a function. -/
  | function (name : List Char)
  /-- The place of the function named before. -/
  | place (place : List Char)
  | other
deriving DecidableEq, Repr

/-- A text is a run of decimal digits. -/
def isNumber (text : List Char) : Bool :=
  !text.isEmpty && text.all Text.isDigit

/-- A line without the blanks around it is a place, or a number and a name. -/
def Line.ofText (line : List Char) : Line :=
  match Text.dropLeading? "at ".toList line, Text.splitOnce? ": ".toList line with
  | some found, _ => .place found
  | none, some (number, name) => if isNumber number then .function name else .other
  | none, none => .other

/-- The lines of a trace. -/
def linesOf (trace : String) : List Line :=
  (Text.lines trace.toList).map fun line => Line.ofText (Text.trim line)

/-- The start of a place that belongs to others. -/
def foreignStart : List Char := "/rustc/".toList

/-- The parts that a place which belongs to others has anywhere. -/
def foreignParts : List (List Char) :=
  ["/rustlib/".toList, "/.cargo/registry/".toList, "/.cargo/git/".toList]

/-- A place with slashes in place of backslashes. -/
def slashed (place : List Char) : List Char :=
  place.map fun c => if c = '\\' then '/' else c

/-- A place belongs to the program itself. -/
def isLocal (place : List Char) : Bool :=
  (Text.dropLeading? foreignStart (slashed place)).isNone &&
    foreignParts.all fun part => !Text.occursIn part (slashed place)

/-- The name of the function that records traces, which is not shown. -/
def recorder : List Char := "install_panic_hook".toList

/-- A place below the root of the program, as seen from there. -/
def relative (root : Path) (place : List Char) : List Char :=
  let seen := (Path.restBelow? ⟨String.ofList place⟩ root).elim place fun rest => rest.text.toList
  (Text.dropLeading? "./".toList seen).getD seen

/-- A function with its place is shown if both belong to the program. -/
def isShown (name place : List Char) : Bool :=
  isLocal place && !Text.occursIn recorder name

/-- The form of a function with its place. -/
def render (root : Path) (name place : List Char) : String :=
  String.ofList (name ++ " (".toList ++ relative root place ++ [')'])

/-- The functions that are shown, where a place belongs to the function waiting for one. -/
def frames (root : Path) : Option (List Char) → List Line → List String
  | _, [] => []
  | _, .function name :: lines => frames root (some name) lines
  | waiting, .other :: lines => frames root waiting lines
  | none, .place _ :: lines => frames root none lines
  | some name, .place place :: lines =>
    if isShown name place then render root name place :: frames root none lines
    else frames root none lines

/-- The number of functions that are kept. -/
def limit : Nat := 16

/-- A trace abbreviated for a program below a root. -/
def abbreviate (root : Path) (trace : String) : List String :=
  (frames root none (linesOf trace)).take limit

end SolverHub.Trace
