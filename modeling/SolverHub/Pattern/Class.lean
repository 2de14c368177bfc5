import SolverHub.Pattern.Primitive
import SolverHub.Text.Lines

/-! A class of characters lists its members between square brackets. -/

namespace SolverHub.Pattern

/-- A bracket that is still open. -/
structure Bracket where
  /-- Only hyphens have come since the bracket was opened. -/
  fresh : Bool
  /-- The height of what stands before the last operator. -/
  operand : Option Nat
  /-- The heights of the members since then. -/
  members : List Nat
deriving DecidableEq, Repr

namespace Bracket

/-- A bracket that has just been opened. -/
def empty : Bracket := ⟨true, none, []⟩

/-- One more member. -/
def add (bracket : Bracket) (height : Nat) : Bracket :=
  { bracket with members := height :: bracket.members }

/-- The height of what stands in a bracket. -/
def height (bracket : Bracket) : Nat :=
  match bracket.operand with
  | none => heightOf bracket.members
  | some operand => max operand (heightOf bracket.members) + 1

/-- An operator follows. -/
def operate (bracket : Bracket) : Bracket := ⟨false, some bracket.height, []⟩

end Bracket

/-- The names of the classes that have one. -/
def classNames : List String :=
  ["alnum", "alpha", "ascii", "blank", "cntrl", "digit", "graph", "lower", "print", "punct",
    "space", "upper", "word", "xdigit"]

/-- The text after the name of a class and the colons around it. -/
def dropClassName? (text : List Char) : Option (List Char) := do
  let name := text.takeWhile fun c => c != ':'
  let rest ← Text.dropLeading? [':', ']'] (text.dropWhile fun c => c != ':')
  if classNames.contains (String.ofList name) then return rest else none

/-- A named class after its bracket is negated or not, and the text after it. -/
def namedClass? : List Char → Option (Bool × List Char)
  | ':' :: '^' :: text => (dropClassName? text).map (true, ·)
  | ':' :: text => (dropClassName? text).map (false, ·)
  | _ => none

/-- Named classes can be members, unless a byte above 127 would match. -/
def Mode.allowsNamed (mode : Mode) (negated : Bool) : Bool :=
  if mode.wide then !mode.anyCase else !negated

/-- The text inside of a bracket after the sign of a negation, which bytes do not allow. -/
def openBracket? (mode : Mode) (text : List Char) : Option (List Char) :=
  match mode.skip text with
  | '^' :: rest => if mode.wide then some rest else none
  | rest => some rest

/-- The upper end of a range of members, and the text after it. -/
def rangeEnd? (mode : Mode) (low : Primitive) (text : List Char) : Option (List Char) := do
  match low, ← classPrimitive? mode (mode.skip text) with
  | .literal low _, (.literal high _, rest) =>
    if low ≤ high ∧ mode.allowsMember low ∧ mode.allowsMember high then return rest else none
  | _, _ => none

/-- The text after a member or a range of members. -/
def dropMember? (mode : Mode) (text : List Char) : Option (List Char) := do
  let (low, rest) ← classPrimitive? mode text
  let alone :=
    match low with
    | .literal c _ => if mode.allowsMember c then some rest else none
    | .kind _ => if mode.allows low then some rest else none
    | _ => none
  match mode.skip rest with
  | '-' :: after =>
    if [some ']', some '-'].contains (mode.ahead? after) then alone else rangeEnd? mode low after
  | _ => alone

/-- Brackets are open, or the last one has been closed. -/
inductive ClassReading
  /-- The brackets that are open. -/
  | within (inner : Bracket) (outer : List Bracket)
  /-- The height of the class. -/
  | closed (height : Nat)
deriving DecidableEq, Repr

/-- A bracket closes and becomes a member of the one around it. -/
def closeBracket (inner : Bracket) : List Bracket → ClassReading
  | [] => .closed (inner.height + 1)
  | bracket :: outer => .within (bracket.add (inner.height + 1)) outer

/-- One member or sign is read where a bracket is no longer fresh. -/
def classStep? (mode : Mode) (inner : Bracket) (outer : List Bracket) :
    List Char → Option (ClassReading × List Char)
  | ']' :: rest => some (closeBracket inner outer, rest)
  | '&' :: '&' :: rest | '-' :: '-' :: rest | '~' :: '~' :: rest =>
    some (.within inner.operate outer, rest)
  | '[' :: rest =>
    match namedClass? rest with
    | some (negated, after) =>
      if mode.allowsNamed negated then some (.within (inner.add 0) outer, after) else none
    | none => (openBracket? mode rest).map (.within .empty (inner :: outer), ·)
  | text => (dropMember? mode text).map (.within (inner.add 0) outer, ·)

/-- One member or sign is read, where hyphens and a closing bracket at the start are members. -/
def classStart? (mode : Mode) (inner : Bracket) (outer : List Bracket) (text : List Char) :
    Option (ClassReading × List Char) :=
  match inner.fresh, inner.members, text with
  | true, _, '-' :: rest =>
    if mode.allowsMember '-' then some (.within (inner.add 0) outer, rest) else none
  | true, [], ']' :: rest =>
    if mode.allowsMember ']' then some (.within ⟨false, none, [0]⟩ outer, rest) else none
  | _, _, text => classStep? mode { inner with fresh := false } outer text

/-- The height of a class and the text after it, within a count of steps. -/
def readClass (mode : Mode) : Nat → ClassReading → List Char → Option (Nat × List Char)
  | _, .closed height, text => some (height, text)
  | 0, .within _ _, _ => none
  | steps + 1, .within inner outer, text => do
    let (reading, rest) ← classStart? mode inner outer (mode.skip text)
    readClass mode steps reading rest

/-- The height of a class after its first bracket, and the text after it. -/
def class? (mode : Mode) (text : List Char) : Option (Nat × List Char) := do
  readClass mode (text.length + 1) (.within .empty []) (← openBracket? mode text)

end SolverHub.Pattern
