import SolverHub.Text.Decimal
import SolverHub.Text.Lines

/-! A socket address is a machine of four bytes or eight groups, and a service on it. -/

namespace SolverHub

/-- The machine part of a socket address. -/
inductive Host
  /-- Four bytes. -/
  | short (bytes : List Nat)
  /-- Eight groups of two bytes each, within a scope. -/
  | long (groups : List Nat) (scope : Nat)
deriving DecidableEq, Repr

/-- A place on the network to listen at. -/
structure Address where
  /-- The machine. -/
  host : Host
  /-- The number of the service on the machine. -/
  service : Nat
deriving DecidableEq, Repr

namespace Address

/-- The value of a digit, up to `f` in either case. -/
def digit? (c : Char) : Option Nat :=
  if '0' ≤ c ∧ c ≤ '9' then some (c.toNat - 48)
  else if 'a' ≤ c ∧ c ≤ 'f' then some (c.toNat - 87)
  else if 'A' ≤ c ∧ c ≤ 'F' then some (c.toNat - 55)
  else none

/-- The values of the digits below a radix at the start of a text, and the rest. -/
def takeDigits (radix : Nat) : List Char → List Nat × List Char
  | [] => ([], [])
  | c :: text =>
    match (digit? c).filter (· < radix) with
    | none => ([], c :: text)
    | some value =>
      let (values, rest) := takeDigits radix text
      (value :: values, rest)

/-- The form of a number within an address. -/
structure NumberForm where
  /-- The number of values of a digit. -/
  radix : Nat
  /-- The greatest count of digits. -/
  width : Option Nat
  /-- Whether a zero may come before other digits. -/
  zeros : Bool
  /-- The greatest number. -/
  greatest : Nat

/-- A byte: up to three decimal digits without leading zeros. -/
def byteForm : NumberForm := ⟨10, some 3, false, 255⟩

/-- A group: up to four hexadecimal digits. -/
def groupForm : NumberForm := ⟨16, some 4, true, 65535⟩

/-- A service: any count of decimal digits. -/
def serviceForm : NumberForm := ⟨10, none, true, 65535⟩

/-- A scope: any count of decimal digits. -/
def scopeForm : NumberForm := ⟨10, none, true, 4294967295⟩

/-- Some digits make a number of a form. -/
def NumberForm.fits (form : NumberForm) (digits : List Nat) : Bool :=
  !digits.isEmpty && form.width.all (digits.length ≤ ·) &&
    (form.zeros || digits.head? != some 0 || digits.length == 1)

/-- A number of some form. -/
def readNumber (form : NumberForm) (text : List Char) : Option (Nat × List Char) :=
  let (digits, rest) := takeDigits form.radix text
  let value := digits.foldl (fun value digit => form.radix * value + digit) 0
  if form.fits digits && value ≤ form.greatest then some (value, rest) else none

/-- What is read after one expected character. -/
def after {α : Type} (expected : Char) (read : List Char → Option (α × List Char)) :
    List Char → Option (α × List Char)
  | c :: rest => if c = expected then read rest else none
  | [] => none

/-- What is read at the start of a sequence, or after a separator further on. -/
def separated {α : Type} (first : Bool) (separator : Char)
    (read : List Char → Option (α × List Char)) : List Char → Option (α × List Char) :=
  if first then read else after separator read

/-- Four bytes between dots. -/
def readBytes (text : List Char) : Option (List Nat × List Char) := do
  let (a, text) ← readNumber byteForm text
  let (b, text) ← after '.' (readNumber byteForm) text
  let (c, text) ← after '.' (readNumber byteForm) text
  let (d, text) ← after '.' (readNumber byteForm) text
  return ([a, b, c, d], text)

/-- The two groups that four bytes stand for. -/
def groupsOfBytes : List Nat → List Nat
  | [a, b, c, d] => [256 * a + b, 256 * c + d]
  | _ => []

/-- Up to a number of groups between colons, of which four bytes may end the sequence.

The answer holds the groups, whether bytes ended them, and the rest. -/
def readGroups : Nat → Bool → List Char → List Nat × Bool × List Char
  | 0, _, text => ([], false, text)
  | room + 1, first, text =>
    match if room = 0 then none else separated first ':' readBytes text with
    | some (bytes, rest) => (groupsOfBytes bytes, true, rest)
    | none =>
      match separated first ':' (readNumber groupForm) text with
      | none => ([], false, text)
      | some (group, rest) =>
        let (groups, bytes, rest) := readGroups room false rest
        (group :: groups, bytes, rest)

/-- Eight groups, where two colons stand for one or more groups of zero. -/
def readLong (text : List Char) : Option (List Nat × List Char) :=
  let (head, bytes, rest) := readGroups 8 true text
  if head.length = 8 then some (head, rest)
  else if bytes then none
  else match rest with
    | ':' :: ':' :: rest =>
      let (tail, _, rest) := readGroups (7 - head.length) true rest
      some (head ++ List.replicate (8 - head.length - tail.length) 0 ++ tail, rest)
    | _ => none

/-- The scope after a percent sign, or none. -/
def readScope (text : List Char) : Nat × List Char :=
  (after '%' (readNumber scopeForm) text).getD (0, text)

/-- An address of four bytes and a service. -/
def readShortAddress (text : List Char) : Option (Address × List Char) := do
  let (bytes, text) ← readBytes text
  let (service, text) ← after ':' (readNumber serviceForm) text
  return (⟨.short bytes, service⟩, text)

/-- An address of eight groups in square brackets and a service. -/
def readLongAddress (text : List Char) : Option (Address × List Char) := do
  let (groups, text) ← after '[' readLong text
  let (scope, text) := readScope text
  let (service, text) ← after ']' (after ':' (readNumber serviceForm)) text
  return (⟨.long groups scope, service⟩, text)

/-- The address that a whole text stands for. -/
def ofText? (text : String) : Option Address :=
  match (readShortAddress text.toList).or (readLongAddress text.toList) with
  | some (address, []) => some address
  | _ => none

/-- Bytes between dots. -/
def renderBytes (bytes : List Nat) : String :=
  ".".intercalate (bytes.map Text.natText)

/-- Groups between colons. -/
def renderGroups (groups : List Nat) : String :=
  ":".intercalate (groups.map fun group => String.ofList (Nat.toDigits 16 group))

/-- The number of zeros at the start of a list. -/
def zerosAtStart (groups : List Nat) : Nat :=
  (groups.takeWhile (· = 0)).length

/-- The start and the length of the first of the longest runs of zeros. -/
def longestZeros : Nat → List Nat → Nat × Nat
  | _, [] => (0, 0)
  | start, group :: groups =>
    let here := zerosAtStart (group :: groups)
    let later := longestZeros (start + 1) groups
    if here ≠ 0 ∧ later.2 ≤ here then (start, here) else later

/-- The bytes of an address that is short within a long one. -/
def bytesWithin? : List Nat → Option (List Nat)
  | [0, 0, 0, 0, 0, 65535, high, low] => some [high / 256, high % 256, low / 256, low % 256]
  | _ => none

/-- Eight groups, where two colons stand for the longest run of zeros. -/
def renderLong (groups : List Nat) : String :=
  match bytesWithin? groups with
  | some bytes => "::ffff:" ++ renderBytes bytes
  | none =>
    let (start, length) := longestZeros 0 groups
    if 1 < length then
      renderGroups (groups.take start) ++ "::" ++ renderGroups (groups.drop (start + length))
    else renderGroups groups

/-- The text of an address. -/
def render (address : Address) : String :=
  let host := match address.host with
    | .short bytes => renderBytes bytes
    | .long groups scope =>
      "[" ++ renderLong groups ++ (if scope = 0 then "" else "%" ++ Text.natText scope) ++ "]"
  host ++ ":" ++ Text.natText address.service

end Address

end SolverHub
