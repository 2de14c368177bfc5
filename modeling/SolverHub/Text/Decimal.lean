import SolverHub.Bounds

/-! Whole numbers are written in decimal and read back within the bounds of a type. -/

namespace SolverHub.Text

/-- The character of a digit below ten. -/
def digitChar (digit : Nat) : Char :=
  Char.ofNat (48 + digit)

/-- The value of a decimal digit character. -/
def digitValue? (c : Char) : Option Nat :=
  if '0' ≤ c ∧ c ≤ '9' then some (c.toNat - 48) else none

/-- The value of a hexadecimal digit in either case. -/
def hexValue? (c : Char) : Option Nat :=
  if '0' ≤ c ∧ c ≤ '9' then some (c.toNat - 48)
  else if 'a' ≤ c ∧ c ≤ 'f' then some (c.toNat - 87)
  else if 'A' ≤ c ∧ c ≤ 'F' then some (c.toNat - 55)
  else none

/-- A character is a decimal digit. -/
def isDigit (c : Char) : Bool :=
  (digitValue? c).isSome

/-- The digits in front of a text and the text after them. -/
def spanDigits (text : List Char) : List Char × List Char :=
  (text.takeWhile isDigit, text.dropWhile isDigit)

/-- The decimal digits of a number, without leading zeros. -/
def natDigits (n : Nat) : List Char :=
  if n < 10 then [digitChar n] else natDigits (n / 10) ++ [digitChar (n % 10)]

/-- The decimal text of a number. -/
def natText (n : Nat) : String :=
  String.ofList (natDigits n)

/-- The decimal text of a signed number, with a sign only below zero. -/
def intText (n : Int) : String :=
  if n < 0 then String.ofList ('-' :: natDigits n.natAbs) else natText n.natAbs

/-- The decimal text of a number, widened with leading zeros to a least count of digits. -/
def paddedDigits (width n : Nat) : List Char :=
  let digits := natDigits n
  List.replicate (width - digits.length) '0' ++ digits

/-- The value of a run of digits, which is none when another character is among them. -/
def digitsValue? (digits : List Char) : Option Nat :=
  digits.foldlM (fun value c => (digitValue? c).map (10 * value + ·)) 0

/-- The ways in which a text fails to be a number within bounds. -/
inductive NumberFault
  | empty
  | invalidDigit
  | tooLarge
  | tooSmall
deriving DecidableEq, Repr

/-- The wording of a number fault. -/
def NumberFault.message : NumberFault → String
  | .empty => "cannot parse integer from empty string"
  | .invalidDigit => "invalid digit found in string"
  | .tooLarge => "number too large to fit in target type"
  | .tooSmall => "number too small to fit in target type"

/-- One more digit of a number that grows away from zero until it meets its bound. -/
def appendDigit (bounds : Bounds) (negative : Bool) (value : Int) (c : Char) :
    Except NumberFault Int :=
  match digitValue? c with
  | none => .error .invalidDigit
  | some digit =>
    if negative then
      if 10 * value - digit < bounds.least then .error .tooSmall else .ok (10 * value - digit)
    else if bounds.greatest < 10 * value + digit then .error .tooLarge
    else .ok (10 * value + digit)

/-- The value of a nonempty run of digits, read from the left until the first fault. -/
def readMagnitude (bounds : Bounds) (negative : Bool) (digits : List Char) :
    Except NumberFault Int :=
  if digits.isEmpty then .error .invalidDigit
  else digits.foldlM (appendDigit bounds negative) 0

/-- A number with an optional sign, where a minus sign counts only if the bounds go below zero. -/
def readInt (bounds : Bounds) : List Char → Except NumberFault Int
  | [] => .error .empty
  | '+' :: digits => readMagnitude bounds false digits
  | '-' :: digits =>
    if bounds.least < 0 then readMagnitude bounds true digits else .error .invalidDigit
  | digits => readMagnitude bounds false digits

/-- A digit character has the value of its digit. -/
theorem digitValue?_digitChar {digit : Nat} (small : digit < 10) :
    digitValue? (digitChar digit) = some digit := by
  -- There are ten digits, and each is checked on its own.
  match digit, small with
  | 0, _ | 1, _ | 2, _ | 3, _ | 4, _ | 5, _ | 6, _ | 7, _ | 8, _ | 9, _ => rfl

/-- The decimal digits of a number read back as that number. -/
theorem digitsValue?_natDigits (n : Nat) : digitsValue? (natDigits n) = some n := by
  -- The last digit is the remainder and the digits before it are those of the quotient.
  induction n using natDigits.induct with
  | case1 n small =>
    rw [natDigits, if_pos small]
    simp [digitsValue?, digitValue?_digitChar small]
  | case2 n large ih =>
    rw [natDigits, if_neg large]
    have last := digitValue?_digitChar (Nat.mod_lt n (by decide : 0 < 10))
    simp only [digitsValue?] at ih
    simp only [digitsValue?, List.foldlM_append, ih, Option.bind_eq_bind, Option.bind_some,
      List.foldlM_cons, last, Option.map_some, List.foldlM_nil]
    exact congrArg some (Nat.div_add_mod n 10)

end SolverHub.Text
