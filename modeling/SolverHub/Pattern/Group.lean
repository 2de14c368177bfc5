import SolverHub.Pattern.Mode
import SolverHub.Text.Letter
import SolverHub.Text.Lines

/-! A group may start with a name or with flags. -/

namespace SolverHub.Pattern

/-- What stands between the bracket of a group and the parts of the group. -/
inductive Opening
  /-- A group without a name. -/
  | plain
  /-- A group with a name. -/
  | named (name : List Char)
  /-- A group in a mode of its own. -/
  | within (mode : Mode)
  /-- A bracket that closes again and only changes the mode. -/
  | change (mode : Mode)
deriving DecidableEq, Repr

/-- A name starts with a letter or an underscore, and some signs may follow. -/
def isName : List Char → Bool
  | [] => false
  | c :: rest => (c = '_' || Text.isLetter c) &&
      rest.all fun c => ['_', '.', '[', ']'].contains c || Text.isWordLike c

/-- The name of a group up to its closing angle. -/
def name? (text : List Char) : Option (Opening × List Char) :=
  let name := text.takeWhile fun c => c != '>'
  match text.dropWhile fun c => c != '>' with
  | _ :: rest => if isName name then some (.named name, rest) else none
  | [] => none

/-- The flags, and the sign that separates those to set from those to clear. -/
def flagChars : List Char := ['i', 'm', 's', 'U', 'u', 'R', 'x', '-']

/-- Flags are known, none is repeated, and some follow the minus sign if there is one. -/
def areFlags (flags : List Char) : Bool :=
  flags.all flagChars.contains && decide flags.Nodup && flags.getLast? != some '-'

/-- The flags of a group up to its colon, or those of a change up to its closing bracket. -/
def flags? (mode : Mode) (text : List Char) : Option (Opening × List Char) :=
  let flags := text.takeWhile fun c => c != ':' && c != ')'
  let changed := mode.setFlags true flags
  if !areFlags flags then none
  else match text.dropWhile fun c => c != ':' && c != ')' with
    | ':' :: rest => some (.within changed, rest)
    | _ :: rest => if flags.isEmpty then none else some (.change changed, rest)
    | [] => none

/-- The opening of a group after its bracket, where nothing can look around. -/
def opening? (mode : Mode) (text : List Char) : Option (Opening × List Char) :=
  match mode.skip text with
  | '?' :: '<' :: '=' :: _ | '?' :: '<' :: '!' :: _ => none
  | '?' :: 'P' :: '<' :: rest | '?' :: '<' :: rest => name? rest
  | '?' :: rest => flags? mode rest
  | rest => some (.plain, rest)

end SolverHub.Pattern
