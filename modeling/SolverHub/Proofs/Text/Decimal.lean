import Mathlib.Algebra.Ring.Nat
import SolverHub.Text.Blank
import SolverHub.Text.Decimal

/-! The digits of a number are digits that stand for it, and a reader takes all of them at once. -/

namespace SolverHub.Text

variable {c : Char} {digits rest : List Char}

/-- A text goes on with something other than a digit, or it ends. -/
def DigitFree (text : List Char) : Prop :=
  ∀ c ∈ text.head?, isDigit c = false

/-- A text that starts with another character goes on with no digit. -/
theorem digitFree_cons (other : isDigit c = false) : DigitFree (c :: rest) :=
  fun _ first => Option.some.inj first ▸ other

/-- The digits are the characters from zero to nine. -/
theorem isDigit_iff : isDigit c = true ↔ '0' ≤ c ∧ c ≤ '9' := by
  -- A digit is what a value is read from.
  unfold isDigit digitValue?
  split <;> simp_all

/-- No digit is blank. -/
theorem isBlank_digit (digit : isDigit c = true) : isBlank c = false := by
  obtain ⟨least, greatest⟩ := isDigit_iff.mp digit
  have least : 48 ≤ c.toNat := least
  have greatest : c.toNat ≤ 57 := greatest
  -- The digits lie between two ranges of blanks.
  simp only [isBlank, inRanges, blankRanges, List.any_cons, List.any_nil, Bool.or_false,
    Bool.or_eq_false_iff, Bool.and_eq_false_iff, decide_eq_false_iff_not]
  omega

/-- The character of a digit is one. -/
theorem isDigit_digitChar {digit : Nat} (small : digit < 10) : isDigit (digitChar digit) = true := by
  -- The value is read back from the character.
  rw [isDigit, digitValue?_digitChar small]
  rfl

/-- Every character in the digits of a number is a digit. -/
theorem isDigit_of_mem_natDigits {n : Nat} (member : c ∈ natDigits n) : isDigit c = true := by
  -- The last digit is a remainder, and the ones before it are those of the quotient.
  induction n using natDigits.induct with
  | case1 n small =>
    rw [natDigits, if_pos small, List.mem_singleton] at member
    rw [member]
    exact isDigit_digitChar small
  | case2 n large ih =>
    rw [natDigits, if_neg large, List.mem_append, List.mem_singleton] at member
    rcases member with front | last
    · exact ih front
    · rw [last]
      exact isDigit_digitChar (Nat.mod_lt n (by decide))

/-- Every number has a digit. -/
theorem natDigits_ne_nil (n : Nat) : natDigits n ≠ [] := by
  -- Even zero has a digit.
  rw [natDigits]
  split <;> simp

/-- Only the number zero starts with a zero. -/
theorem head?_natDigits_ne {n : Nat} (positive : 0 < n) : (natDigits n).head? ≠ some '0' := by
  induction n using natDigits.induct with
  | case1 n small =>
    rw [natDigits, if_pos small]
    -- There are nine digits other than zero.
    have other : ∀ digit < 10, 0 < digit → [digitChar digit].head? ≠ some '0' := by decide
    exact other n small positive
  | case2 n large ih =>
    -- The quotient of a number above nine is not zero, and it has the same first digit.
    have first := ih (by omega)
    rw [natDigits, if_neg large, List.head?_append]
    cases digits : natDigits (n / 10) with
    | nil => exact absurd digits (natDigits_ne_nil _)
    | cons c rest => rwa [digits] at first

/-- All digits in front of a text are taken where the text goes on with something else. -/
theorem spanDigits_append (all_digits : ∀ c ∈ digits, isDigit c = true) (free : DigitFree rest) :
    spanDigits (digits ++ rest) = (digits, rest) := by
  -- What follows starts with no digit, so the span ends there.
  have stops : rest.takeWhile isDigit = [] ∧ rest.dropWhile isDigit = rest := by
    cases rest with
    | nil => exact ⟨rfl, rfl⟩
    | cons c rest => simp [free c rfl]
  rw [spanDigits, List.takeWhile_append_of_pos all_digits, List.dropWhile_append_of_pos all_digits,
    stops.1, stops.2, List.append_nil]

/-- Some digits, perhaps with zeros in front, stand for a number. -/
structure Numeral (digits : List Char) (n : Nat) : Prop where
  nonempty : digits ≠ []
  all_digits : ∀ c ∈ digits, isDigit c = true
  value : digitsValue? digits = some n

/-- A number below a power of ten has at most as many digits as the exponent. -/
theorem length_natDigits_le {n width : Nat} (small : n < 10 ^ (width + 1)) : (natDigits n).length ≤ width + 1 := by
  -- Without its last digit the number lies below the power before.
  induction width generalizing n with
  | zero =>
    have digit : n < 10 := by simpa using small
    rw [natDigits, if_pos digit]
    simp
  | succ width ih =>
    rw [natDigits]
    split
    · simp
    · have quotient : n / 10 < 10 ^ (width + 1) := by
        rw [Nat.pow_succ] at small
        omega
      have shorter := ih quotient
      simp only [List.length_append, List.length_singleton]
      omega

/-- Zeros in front make no difference to a number. -/
theorem digitsValue?_replicate (zeros : Nat) (digits : List Char) :
    digitsValue? (List.replicate zeros '0' ++ digits) = digitsValue? digits := by
  -- The induction counts the zeros, each of which leaves the value at zero.
  induction zeros with
  | zero => rfl
  | succ zeros ih =>
    rw [← ih]
    rfl

/-- Padded digits stand for their number. -/
theorem numeral_paddedDigits (width n : Nat) : Numeral (paddedDigits width n) n := by
  unfold paddedDigits
  refine ⟨by simp [natDigits_ne_nil], fun c member => ?_, ?_⟩
  · -- The padding consists of zeros, which are digits and add no value.
    rcases List.mem_append.mp member with zero | digit
    · rw [List.eq_of_mem_replicate zero]
      rfl
    · exact isDigit_of_mem_natDigits digit
  · rw [digitsValue?_replicate, digitsValue?_natDigits]

/-- Padded digits are at least as many as asked for. -/
theorem le_length_paddedDigits (width n : Nat) : width ≤ (paddedDigits width n).length := by
  -- The zeros make up for the digits that are missing.
  simp only [paddedDigits, List.length_append, List.length_replicate]
  omega

/-- Padded digits are as many as asked for where they hold the number. -/
theorem length_paddedDigits {n width : Nat} (small : n < 10 ^ (width + 1)) :
    (paddedDigits (width + 1) n).length = width + 1 := by
  -- A number below the power has no more digits than the width.
  have short := length_natDigits_le small
  simp only [paddedDigits, List.length_append, List.length_replicate]
  omega

/-- A natural number has the same text when it is taken as a signed one. -/
theorem intText_natCast (n : Nat) : intText n = natText n := by
  rw [intText, if_neg (by omega), Int.natAbs_natCast]

/-- Different numbers have different texts. -/
theorem natText_inj {n m : Nat} : natText n = natText m ↔ n = m := by
  -- A number is read back from its digits.
  constructor
  · intro same
    have digits : natDigits n = natDigits m := String.ofList_injective same
    have value := digitsValue?_natDigits n
    rw [digits, digitsValue?_natDigits] at value
    exact (Option.some.inj value).symm
  · rintro rfl
    rfl

/-- A number lies between zero and the bound that it grows towards. -/
def Grown (bounds : Bounds) (negative : Bool) (value : Int) : Prop :=
  if negative then bounds.least ≤ value ∧ value ≤ 0 else 0 ≤ value ∧ value ≤ bounds.greatest

/-- One more digit leaves a number on its side of zero and within its bound. -/
theorem Grown.appendDigit {bounds : Bounds} {negative : Bool} {value next : Int}
    (grown : Grown bounds negative value)
    (appended : Text.appendDigit bounds negative value c = .ok next) :
    Grown bounds negative next := by
  unfold Text.appendDigit at appended
  cases found : digitValue? c with
  | none => simp [found] at appended
  | some digit =>
    -- The digit is added on the side of the sign, and the bound is tested on the same side.
    cases negative <;> simp only [found, Grown, Bool.false_eq_true, if_false, if_true] at *
    · split at appended
      · cases appended
      · cases appended
        omega
    · split at appended
      · cases appended
      · cases appended
        omega

/-- All further digits leave a number on its side of zero and within its bound. -/
theorem Grown.appendDigits {bounds : Bounds} {negative : Bool} {value last : Int}
    (grown : Grown bounds negative value)
    (appended : digits.foldlM (Text.appendDigit bounds negative) value = .ok last) :
    Grown bounds negative last := by
  -- The induction follows the digits, each of which keeps what has been read within bounds.
  induction digits generalizing value with
  | nil => cases appended; exact grown
  | cons c digits ih =>
    rw [List.foldlM_cons] at appended
    cases step : Text.appendDigit bounds negative value c with
    | error fault => simp [step, Bind.bind, Except.bind] at appended
    | ok next =>
      rw [step] at appended
      exact ih (grown.appendDigit step) appended

/-- A number that is read lies within its bounds, if zero does. -/
theorem holds_of_readInt {bounds : Bounds} {text : List Char} {value : Int}
    (zero : bounds.holds 0 = true) (read : readInt bounds text = .ok value) :
    bounds.holds value = true := by
  simp only [Bounds.holds, Bool.and_eq_true, decide_eq_true_eq] at zero ⊢
  -- Whatever the sign, the digits grow from zero.
  have magnitude : ∀ negative digits, readMagnitude bounds negative digits = .ok value →
      bounds.least ≤ value ∧ value ≤ bounds.greatest := by
    intro negative digits run
    unfold readMagnitude at run
    split at run
    · cases run
    · have start : Grown bounds negative 0 := by
        cases negative <;> simp only [Grown, Bool.false_eq_true, if_false, if_true] <;> omega
      have last := start.appendDigits run
      cases negative <;>
        simp only [Grown, Bool.false_eq_true, if_false, if_true] at last <;> omega
  unfold readInt at read
  split at read
  · cases read
  · exact magnitude _ _ read
  · split at read
    · exact magnitude _ _ read
    · cases read
  · exact magnitude _ _ read

end SolverHub.Text
