import SolverHub.Json.Basic
import SolverHub.Text.Lines

/-! A JSON text is a sequence of tokens with blanks between them. -/

namespace SolverHub.Json

/-- A string as it stands in a JSON text. -/
structure Spelling where
  /-- The text that it stands for, or none if no text can hold it. -/
  meaning : Option String
  /-- The string is written without escapes. -/
  plain : Bool
deriving DecidableEq, Repr

/-- A string spells a run of digits with escapes. -/
def Spelling.hidesDigits (spelling : Spelling) : Bool :=
  !spelling.plain && spelling.meaning.any fun text => text.toList.all Text.isDigit

/-- The smallest units of a JSON text. -/
inductive Token
  | openList
  | closeList
  | openObject
  | closeObject
  | comma
  | colon
  /-- A word or a number, which is a value of its own. -/
  | scalar (value : Json)
  /-- A string, which is a value or the name of an entry. -/
  | text (spelling : Spelling)

/-- The characters that may stand between tokens. -/
def isSpace (c : Char) : Bool :=
  c = ' ' || c = '\t' || c = '\n' || c = '\r'

/-- The value of four hexadecimal digits. -/
def hexUnit? (a b c d : Char) : Option Nat := do
  let a ← Text.hexValue? a
  let b ← Text.hexValue? b
  let c ← Text.hexValue? c
  let d ← Text.hexValue? d
  return ((a * 16 + b) * 16 + c) * 16 + d

/-- The character that a one-letter escape stands for. -/
def shortEscape? (c : Char) : Option Char :=
  if c = '"' then some '"'
  else if c = '\\' then some '\\'
  else if c = '/' then some '/'
  else if c = 'b' then some '\x08'
  else if c = 'f' then some '\x0c'
  else if c = 'n' then some '\n'
  else if c = 'r' then some '\r'
  else if c = 't' then some '\t'
  else none

/-- A code unit that opens a pair. -/
def isHighUnit (unit : Nat) : Bool := 0xD800 ≤ unit && unit ≤ 0xDBFF

/-- A code unit that closes a pair. -/
def isLowUnit (unit : Nat) : Bool := 0xDC00 ≤ unit && unit ≤ 0xDFFF

/-- The character of a pair of code units. -/
def pairChar (high low : Nat) : Char :=
  Char.ofNat (0x10000 + (high - 0xD800) * 0x400 + (low - 0xDC00))

/-- The character of a code unit that is not half of a pair. -/
def unitChar? (unit : Nat) : Option Char :=
  if isHighUnit unit || isLowUnit unit then none else some (Char.ofNat unit)

/-- The characters of a string up to its closing quote, and the text after it.

A code unit that is half of a pair without the other half is no character. -/
def scanText : List Char → Option (List (Option Char) × List Char)
  | [] => none
  | '"' :: rest => some ([], rest)
  | '\\' :: 'u' :: a :: b :: c :: d :: '\\' :: 'u' :: e :: f :: g :: h :: rest => do
    let unit ← hexUnit? a b c d
    let next ← hexUnit? e f g h
    if isHighUnit unit && isLowUnit next then
      let (chars, after) ← scanText rest
      return (some (pairChar unit next) :: chars, after)
    else
      let (chars, after) ← scanText ('\\' :: 'u' :: e :: f :: g :: h :: rest)
      return (unitChar? unit :: chars, after)
  | '\\' :: 'u' :: a :: b :: c :: d :: rest => do
    let unit ← hexUnit? a b c d
    let (chars, after) ← scanText rest
    return (unitChar? unit :: chars, after)
  | '\\' :: c :: rest => do
    let meant ← shortEscape? c
    let (chars, after) ← scanText rest
    return (some meant :: chars, after)
  | c :: rest => do
    if c < ' ' || c = '\\' then none
    else
      let (chars, after) ← scanText rest
      return (some c :: chars, after)

/-- The text of some characters, if all of them are there. -/
def textOf? (chars : List (Option Char)) : Option String :=
  (chars.mapM fun c => c).map String.ofList

/-- The spelling of some characters that are written in front of a text.

Without escapes the text starts with the characters and a closing quote. -/
def spellingOf (chars : List (Option Char)) (written : List Char) : Spelling :=
  let meaning := textOf? chars
  ⟨meaning, meaning.any fun text => (Text.dropLeading? (text.toList ++ ['"']) written).isSome⟩

/-- The digits of a fraction after its point, where a point needs at least one. -/
def scanFraction : List Char → Option (List Char × List Char)
  | '.' :: rest =>
    let (digits, after) := Text.spanDigits rest
    if digits.isEmpty then none else some (digits, after)
  | rest => some ([], rest)

/-- The sign and the digits of an exponent after its letter. -/
def scanExponentDigits (negative : Bool) (rest : List Char) : Option (Option Int × List Char) :=
  let (digits, after) := Text.spanDigits rest
  if digits.isEmpty then none
  else do
    let value ← Text.digitsValue? digits
    return (some (if negative then -(value : Int) else value), after)

/-- The exponent after its letter, or none where there is no letter. -/
def scanExponent : List Char → Option (Option Int × List Char)
  | 'e' :: '-' :: rest | 'E' :: '-' :: rest => scanExponentDigits true rest
  | 'e' :: '+' :: rest | 'E' :: '+' :: rest => scanExponentDigits false rest
  | 'e' :: rest | 'E' :: rest => scanExponentDigits false rest
  | rest => some (none, rest)

/-- A number without its sign, whose first digit is zero only if it is the only one. -/
def scanNumber (negative : Bool) (text : List Char) : Option (Json × List Char) := do
  let (whole, rest) := Text.spanDigits text
  if whole.isEmpty || (whole.head? == some '0' && whole.length > 1) then none
  else
    let (fraction, rest) ← scanFraction rest
    let (exponent, rest) ← scanExponent rest
    let value ← Text.digitsValue? whole
    if fraction.isEmpty && exponent.isNone && !(negative && value == 0) then
      return (int (if negative then -(value : Int) else value), rest)
    else
      let magnitude := (Magnitude.ofNat value).withFraction fraction
      return (real negative (magnitude.shift (exponent.getD 0)), rest)

/-- The first token of a text that does not start with a blank, and the text after it. -/
def scanToken : List Char → Option (Token × List Char)
  | '[' :: rest => some (.openList, rest)
  | ']' :: rest => some (.closeList, rest)
  | '\x7b' :: rest => some (.openObject, rest)
  | '\x7d' :: rest => some (.closeObject, rest)
  | ',' :: rest => some (.comma, rest)
  | ':' :: rest => some (.colon, rest)
  | 'n' :: 'u' :: 'l' :: 'l' :: rest => some (.scalar null, rest)
  | 't' :: 'r' :: 'u' :: 'e' :: rest => some (.scalar (bool true), rest)
  | 'f' :: 'a' :: 'l' :: 's' :: 'e' :: rest => some (.scalar (bool false), rest)
  | '"' :: rest => (scanText rest).map fun found => (.text (spellingOf found.1 rest), found.2)
  | '-' :: rest => (scanNumber true rest).map fun found => (.scalar found.1, found.2)
  | rest => (scanNumber false rest).map fun found => (.scalar found.1, found.2)

/-- The tokens of a text, within a count of steps that no text of that length uses up. -/
def scanTokens : Nat → List Char → Option (List Token)
  | _, [] => some []
  | 0, _ :: _ => none
  | steps + 1, c :: rest =>
    if isSpace c then scanTokens steps rest
    else do
      let (token, after) ← scanToken (c :: rest)
      return token :: (← scanTokens steps after)

/-- The tokens of a text, if it is made of tokens and blanks. -/
def tokens? (text : List Char) : Option (List Token) :=
  scanTokens text.length text

end SolverHub.Json
