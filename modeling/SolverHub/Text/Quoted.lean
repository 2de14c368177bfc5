import SolverHub.Text.Decimal
import SolverHub.Text.Invisible

/-! A quoted text shows every character, the invisible ones as their code points. -/

namespace SolverHub.Text

/-- The lowercase hexadecimal digits of a number, without leading zeros. -/
def hexDigits (n : Nat) : List Char :=
  Nat.toDigits 16 n

/-- The escape of a character by its code point in braces. -/
def pointEscape (c : Char) : List Char :=
  '\\' :: 'u' :: '\x7b' :: hexDigits c.toNat ++ ['\x7d']

/-- The visible form of one character, where some quotes need a backslash. -/
def visible (quotes : List Char) (c : Char) : List Char :=
  if c = '\x00' then ['\\', '0']
  else if c = '\t' then ['\\', 't']
  else if c = '\n' then ['\\', 'n']
  else if c = '\r' then ['\\', 'r']
  else if c = '\\' then ['\\', '\\']
  else if quotes.contains c then ['\\', c]
  else if isInvisible c then pointEscape c
  else [c]

/-- A character between single quotes, where only single quotes need a backslash. -/
def quotedChar (c : Char) : String :=
  String.ofList ('\x27' :: visible ['\x27'] c ++ ['\x27'])

end SolverHub.Text
