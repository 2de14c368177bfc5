import SolverHub.Text.Decimal

/-! Real numbers are written with a fraction, an exponent, or as a word. -/

namespace SolverHub.Text

/-- The text after a sign, if there is one. -/
def dropSign : List Char → List Char
  | '+' :: rest | '-' :: rest => rest
  | text => text

/-- The words that stand for numbers. -/
def realWords : List String :=
  ["inf", "infinity", "nan"]

/-- A text is an exponent with its letter, or nothing. -/
def isExponent : List Char → Bool
  | [] => true
  | 'e' :: rest | 'E' :: rest =>
    let digits := dropSign rest
    !digits.isEmpty && digits.all isDigit
  | _ => false

/-- A text is a number of digits, with a point somewhere among them if there is one. -/
def isDigitReal (text : List Char) : Bool :=
  let (whole, rest) := spanDigits text
  match rest with
  | '.' :: rest =>
    let (fraction, rest) := spanDigits rest
    !(whole.isEmpty && fraction.isEmpty) && isExponent rest
  | rest => !whole.isEmpty && isExponent rest

/-- A text is a real number, perhaps with a sign. -/
def isReal (text : List Char) : Bool :=
  let unsigned := dropSign text
  isDigitReal unsigned || realWords.contains (String.ofList (unsigned.map Char.toLower))

end SolverHub.Text
