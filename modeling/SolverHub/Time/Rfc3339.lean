import SolverHub.Text.Blank
import SolverHub.Text.Decimal
import SolverHub.Time.Instant

/-! An instant is written as a date and a time in UTC, and read from any offset with blanks between its parts. -/

namespace SolverHub.Instant

/-- The form of a year, with a sign and at least four digits where four digits alone do not do. -/
def yearForm (year : Int) : List Char :=
  if 0 ≤ year ∧ year ≤ 9999 then Text.paddedDigits 4 year.natAbs
  else (if year < 0 then '-' else '+') :: Text.paddedDigits 4 year.natAbs

/-- The form of a fraction with the fewest groups of three digits. -/
def fractionForm (nano : Nat) : List Char :=
  if nano = 0 then []
  else if nano % 1000000 = 0 then '.' :: Text.paddedDigits 3 (nano / 1000000)
  else if nano % 1000 = 0 then '.' :: Text.paddedDigits 6 (nano / 1000)
  else '.' :: Text.paddedDigits 9 nano

/-- The form of a time of day, where a leap second is the sixtieth second of its minute. -/
def timeForm (second nano : Nat) : List Char :=
  let leap := nano / 1000000000
  Text.paddedDigits 2 (second / 3600) ++ ':' :: Text.paddedDigits 2 (second / 60 % 60) ++
    ':' :: Text.paddedDigits 2 (second % 60 + leap) ++ fractionForm (nano % 1000000000)

/-- The form of an instant in UTC. -/
def form (instant : Instant) : List Char :=
  yearForm instant.year ++ '-' :: Text.paddedDigits 2 instant.month ++
    '-' :: Text.paddedDigits 2 instant.day ++ 'T' :: timeForm instant.second instant.nano ++ ['Z']

/-- The text of an instant in UTC. -/
def render (instant : Instant) : String :=
  String.ofList (form instant)

/-- One up to a greatest count of digits, and the text after them. -/
def scanDigits (most : Nat) (text : List Char) : Option (Nat × List Char) :=
  let digits := (text.take most).takeWhile Text.isDigit
  if digits.isEmpty then none
  else (Text.digitsValue? digits).map (·, text.drop digits.length)

/-- A number of one or two digits up to a greatest value, after blanks. -/
def scanPart (least most : Nat) (text : List Char) : Option (Nat × List Char) := do
  let (value, rest) ← scanDigits 2 (Text.trimStart text)
  if least ≤ value ∧ value ≤ most then return (value, rest) else none

/-- A year, which has at most four digits unless it has a sign, after blanks. -/
def scanYear (text : List Char) : Option (Int × List Char) := do
  match Text.trimStart text with
  | '-' :: rest =>
    let (value, rest) ← scanDigits rest.length rest
    return (-(value : Int), rest)
  | '+' :: rest =>
    let (value, rest) ← scanDigits rest.length rest
    return ((value : Int), rest)
  | rest =>
    let (value, rest) ← scanDigits 4 rest
    return ((value : Int), rest)

/-- A mark after blanks, and the text after it. -/
def scanMark (mark : Char) (text : List Char) : Option (List Char) :=
  match Text.trimStart text with
  | c :: rest => if c = mark then some rest else none
  | [] => none

/-- The nanoseconds of a fraction, whose digits after the ninth do not count. -/
def scanFraction : List Char → Option (Nat × List Char)
  | '.' :: rest => do
    let digits := rest.takeWhile Text.isDigit
    if digits.isEmpty then none
    else
      let counted := digits.take 9
      let value ← Text.digitsValue? counted
      return (value * Nat.pow 10 (9 - counted.length), rest.dropWhile Text.isDigit)
  | rest => some (0, rest)

/-- The hours and minutes of an offset after its sign, with colons and blanks between them. -/
def scanOffset (text : List Char) : Option (Int × List Char) :=
  match text with
  | a :: b :: rest => do
    let hours ← Text.digitsValue? [a, b]
    match rest.dropWhile fun c => c = ':' || Text.isBlank c with
    | c :: d :: rest =>
      let minutes ← Text.digitsValue? [c, d]
      if 60 ≤ minutes then none else return ((hours * 3600 + minutes * 60 : Nat), rest)
    | _ => none
  | _ => none

/-- The offset of a time zone in seconds east of UTC. -/
def scanZone : List Char → Option (Int × List Char)
  | 'Z' :: rest | 'z' :: rest => some (0, rest)
  | '+' :: rest => scanOffset rest
  | '-' :: rest | '\u2212' :: rest => (scanOffset rest).map fun found => (-found.1, found.2)
  | u :: t :: c :: rest =>
    if (u = 'U' ∨ u = 'u') ∧ (t = 'T' ∨ t = 't') ∧ (c = 'C' ∨ c = 'c') then some (0, rest) else none
  | _ => none

/-- The instant that a text names, where blanks may stand between its parts and after it. -/
def read? (text : String) : Option Instant := do
  let (year, rest) ← scanYear text.toList
  let rest ← scanMark '-' rest
  let (month, rest) ← scanPart 1 12 rest
  let rest ← scanMark '-' rest
  let (day, rest) ← scanPart 1 31 rest
  let rest ← match rest with
    | 't' :: rest | 'T' :: rest | ' ' :: rest => some rest
    | _ => none
  let (hour, rest) ← scanPart 0 23 rest
  let rest ← scanMark ':' rest
  let (minute, rest) ← scanPart 0 59 rest
  let rest ← scanMark ':' rest
  let (second, rest) ← scanPart 0 60 rest
  let (nano, rest) ← scanFraction rest
  let (offset, rest) ← scanZone (Text.trimStart rest)
  -- Only blanks may follow, and an offset is shorter than a day.
  if !(Text.trimStart rest).isEmpty || 86400 ≤ offset.natAbs then none
  else
    let (second, nano) := if second = 60 then (59, nano + 1000000000) else (second, nano)
    ofLocal? year month day (hour * 3600 + minute * 60 + second) nano offset

end SolverHub.Instant
