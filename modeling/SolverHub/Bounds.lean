/-! Words hold the whole numbers between two bounds, and a sum or product outside them overflows. -/

namespace SolverHub

/-- The whole numbers that a type can hold. -/
structure Bounds where
  /-- The least of them. -/
  least : Int
  /-- The greatest of them. -/
  greatest : Int
deriving DecidableEq, Repr

/-- An operation whose result the type of its operands cannot hold. -/
inductive Overflow
  | add
  | multiply
  | negate
  | remainderByZero
deriving DecidableEq, Repr

/-- The wording of an overflow. -/
def Overflow.message : Overflow → String
  | .add => "attempt to add with overflow"
  | .multiply => "attempt to multiply with overflow"
  | .negate => "attempt to negate with overflow"
  | .remainderByZero => "attempt to calculate the remainder with a divisor of zero"

namespace Bounds

/-- The unsigned numbers of a count of bits. -/
def unsigned (bits : Nat) : Bounds := ⟨0, Int.ofNat (Nat.pow 2 bits) - 1⟩

/-- The signed numbers of a count of bits. -/
def signed (bits : Nat) : Bounds :=
  ⟨-Int.ofNat (Nat.pow 2 (bits - 1)), Int.ofNat (Nat.pow 2 (bits - 1)) - 1⟩

/-- A number lies within the bounds. -/
def holds (bounds : Bounds) (n : Int) : Bool :=
  bounds.least ≤ n && n ≤ bounds.greatest

/-- The number that an operation leads to, if the bounds hold it. -/
def check (bounds : Bounds) (overflow : Overflow) (n : Int) : Except Overflow Int :=
  if bounds.holds n then .ok n else .error overflow

/-- The sum of two numbers. -/
def add (bounds : Bounds) (a b : Int) : Except Overflow Int :=
  bounds.check .add (a + b)

/-- The product of two numbers. -/
def mul (bounds : Bounds) (a b : Int) : Except Overflow Int :=
  bounds.check .multiply (a * b)

/-- The sum of a list of numbers from the left. -/
def sum (bounds : Bounds) (numbers : List Int) : Except Overflow Int :=
  numbers.foldlM bounds.add 0

/-- A checked result is the exact one. -/
theorem eq_of_check {bounds : Bounds} {overflow : Overflow} {n m : Int}
    (held : bounds.check overflow n = .ok m) : m = n := by
  -- The check either passes its number on or stops.
  unfold check at held
  split at held
  · exact (Except.ok.inj held).symm
  · cases held

end Bounds

end SolverHub
