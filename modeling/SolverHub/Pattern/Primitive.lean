import SolverHub.Pattern.Mode
import SolverHub.Text.Decimal

/-! A primitive is a part of a pattern without parts of its own. -/

namespace SolverHub.Pattern

/-- The parts of a pattern without parts of their own. -/
inductive Primitive
  /-- A character, perhaps as a byte of two hexadecimal digits. -/
  | literal (c : Char) (isByte : Bool)
  /-- Any character. -/
  | dot
  /-- A place between characters, perhaps at the edge of a word. -/
  | edge (ofWord : Bool)
  /-- A digit, a blank or a character of a word, or any other character. -/
  | kind (negated : Bool)
deriving DecidableEq, Repr

/-- The value of a count of hexadecimal digits, and the text after them. -/
def hexDigits? (mode : Mode) : Nat → Nat → List Char → Option (Nat × List Char)
  | 0, value, text => some (value, text)
  | count + 1, value, text =>
    match mode.skip text with
    | [] => none
    | c :: rest => do hexDigits? mode count (16 * value + (← Text.hexValue? c)) rest

/-- The character with a code point of a count of hexadecimal digits. -/
def hexLiteral? (mode : Mode) (count : Nat) (text : List Char) :
    Option (Primitive × List Char) := do
  let (point, rest) ← hexDigits? mode count 0 text
  if point.isValidChar then return (.literal (Char.ofNat point) (count == 2), rest) else none

/-- The characters that letters stand for after a backslash. -/
def letterEscapes : List (Char × Char) :=
  [('a', '\x07'), ('f', '\x0c'), ('t', '\t'), ('n', '\n'), ('r', '\r'), ('v', '\x0b')]

/-- A character stands for itself after a backslash. -/
def isEscapable (c : Char) : Bool :=
  c.toNat < 128 && !c.isAlphanum

/-- The primitive after a backslash. -/
def escape? (mode : Mode) : List Char → Option (Primitive × List Char)
  | [] => none
  | c :: rest =>
    if c = 'x' then hexLiteral? mode 2 rest
    else if c = 'u' then hexLiteral? mode 4 rest
    else if c = 'U' then hexLiteral? mode 8 rest
    else if ['d', 's', 'w'].contains c then some (.kind false, rest)
    else if ['D', 'S', 'W'].contains c then some (.kind true, rest)
    else if ['A', 'z'].contains c then some (.edge false, rest)
    else if ['b', 'B', '<', '>'].contains c then some (.edge true, rest)
    else match letterEscapes.lookup c with
      | some meant => some (.literal meant false, rest)
      | none => if isEscapable c then some (.literal c false, rest) else none

/-- The primitive at the start of a text outside of classes. -/
def primitive? (mode : Mode) : List Char → Option (Primitive × List Char)
  | [] => none
  | '\\' :: rest => escape? mode rest
  | '.' :: rest => some (.dot, rest)
  | '^' :: rest | '$' :: rest => some (.edge false, rest)
  | c :: rest => some (.literal c false, rest)

/-- The primitive at the start of a text inside of a class. -/
def classPrimitive? (mode : Mode) : List Char → Option (Primitive × List Char)
  | [] => none
  | '\\' :: rest => escape? mode rest
  | c :: rest => some (.literal c false, rest)

namespace Mode

/-- A primitive can be matched outside of classes.

No tables of cases and kinds are at hand for code points, and bytes above 127 alone are no text. -/
def allows (mode : Mode) : Primitive → Bool
  | .literal c isByte => if mode.wide then !mode.anyCase else !(isByte && 128 ≤ c.toNat)
  | .dot => mode.wide
  | .edge _ => true
  | .kind negated => !mode.wide && !negated

/-- A character can be a member of a class, for the same reasons. -/
def allowsMember (mode : Mode) (c : Char) : Bool :=
  if mode.wide then !mode.anyCase else c.toNat < 128

end Mode

end SolverHub.Pattern
