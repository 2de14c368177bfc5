import SolverHub.Json.Basic
import SolverHub.Text.Quoted

/-! A JSON value is printed without blanks, and its strings escape only what they must. -/

namespace SolverHub.Json

/-- The four hexadecimal digits of a code point below 65536. -/
def fourHexDigits (point : Nat) : List Char :=
  let digits := Text.hexDigits point
  List.replicate (4 - digits.length) '0' ++ digits

/-- The form of one character inside a string. -/
def escaped (c : Char) : List Char :=
  if c = '"' then ['\\', '"']
  else if c = '\\' then ['\\', '\\']
  else if c = '\x08' then ['\\', 'b']
  else if c = '\t' then ['\\', 't']
  else if c = '\n' then ['\\', 'n']
  else if c = '\x0c' then ['\\', 'f']
  else if c = '\r' then ['\\', 'r']
  else if c < ' ' then '\\' :: 'u' :: fourHexDigits c.toNat
  else [c]

/-- A string between double quotes. -/
def textForm (value : String) : List Char :=
  '"' :: value.toList.flatMap escaped ++ ['"']

/-- The digits of a signed number. -/
def intForm (value : Int) : List Char :=
  if value < 0 then '-' :: Text.natDigits value.natAbs else Text.natDigits value.natAbs

/-- A number with its power of ten after the letter `e`. -/
def realForm (negative : Bool) (magnitude : Magnitude) : List Char :=
  (if negative then ['-'] else []) ++ Text.natDigits magnitude.count ++
    'e' :: intForm magnitude.exponent

mutual
/-- The characters of a value. -/
def form : Json → List Char
  | null => ['n', 'u', 'l', 'l']
  | bool true => ['t', 'r', 'u', 'e']
  | bool false => ['f', 'a', 'l', 's', 'e']
  | int value => intForm value
  | real negative magnitude => realForm negative magnitude
  | text value => textForm value
  | list items => '[' :: itemsForm items
  | object entries | disguised entries => '\x7b' :: entriesForm entries
  | broken => ['"', '\\', 'u', 'd', '8', '0', '0', '"']

/-- The characters of the items of a list up to its closing bracket. -/
def itemsForm : List Json → List Char
  | [] => [']']
  | [item] => form item ++ [']']
  | item :: items => form item ++ ',' :: itemsForm items

/-- The characters of the entries of an object up to its closing brace. -/
def entriesForm : List (String × Json) → List Char
  | [] => ['\x7d']
  | [(name, value)] => textForm name ++ ':' :: form value ++ ['\x7d']
  | (name, value) :: entries => textForm name ++ ':' :: form value ++ ',' :: entriesForm entries
end

/-- The text of a value. -/
def render (value : Json) : String :=
  String.ofList (form value)

end SolverHub.Json
