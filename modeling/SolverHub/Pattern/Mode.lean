import SolverHub.Text.Blank

/-! A pattern is read in a mode, which its groups can change. -/

namespace SolverHub.Pattern

/-- The ways in which the parts of a pattern are understood. -/
structure Mode where
  /-- Letters stand for themselves in either case. -/
  anyCase : Bool
  /-- Characters are code points, and otherwise they are bytes. -/
  wide : Bool
  /-- Blanks and comments between parts do not count. -/
  spaced : Bool
deriving DecidableEq, Repr

/-- The text after the blanks and comments in front of it, perhaps from within a comment. -/
def dropBlanks : Bool → List Char → List Char
  | _, [] => []
  | true, c :: rest => dropBlanks (c != '\n') rest
  | false, c :: rest =>
    if Text.isBlank c then dropBlanks false rest
    else if c = '#' then dropBlanks true rest
    else c :: rest

/-- The first character that is not blank, where the mark of one comment is passed over. -/
def firstSolid? : Bool → List Char → Option Char
  | _, [] => none
  | marked, c :: rest =>
    if Text.isBlank c then firstSolid? marked rest
    else if !marked && c = '#' then firstSolid? true rest
    else some c

namespace Mode

/-- The mode at the start of a pattern. -/
def standard : Mode := ⟨false, true, false⟩

/-- The text from its next part on. -/
def skip (mode : Mode) (text : List Char) : List Char :=
  if mode.spaced then dropBlanks false text else text

/-- The character that decides about the one in front of a text. -/
def ahead? (mode : Mode) (text : List Char) : Option Char :=
  if mode.spaced then firstSolid? false text else text.head?

/-- One flag is set or cleared. -/
def setFlag (mode : Mode) (flag : Char) (value : Bool) : Mode :=
  if flag = 'i' then { mode with anyCase := value }
  else if flag = 'u' then { mode with wide := value }
  else if flag = 'x' then { mode with spaced := value }
  else mode

/-- Flags are set up to a minus sign and cleared after it. -/
def setFlags (mode : Mode) (value : Bool) : List Char → Mode
  | [] => mode
  | '-' :: flags => setFlags mode false flags
  | flag :: flags => setFlags (mode.setFlag flag value) value flags

end Mode

/-- The height of a sequence of parts, of which one alone adds none of its own. -/
def heightOf : List Nat → Nat
  | [] => 0
  | [height] => height
  | heights => heights.foldl max 0 + 1

end SolverHub.Pattern
