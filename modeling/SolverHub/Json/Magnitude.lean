import SolverHub.Text.Decimal

/-! A magnitude is as much of a number as a word holds, and it is finite if its double is. -/

namespace SolverHub.Json

/-- A count of powers of ten. -/
structure Magnitude where
  /-- The count. -/
  count : Nat
  /-- The exponent of the power. -/
  exponent : Int
deriving DecidableEq, Repr

namespace Magnitude

/-- The greatest count that a word of 64 bits holds. -/
def greatestCount : Nat := Nat.pow 2 64 - 1

/-- The magnitude of a whole number, without the last digits that a word has no room for. -/
def ofNat (n : Nat) : Magnitude :=
  if n ≤ greatestCount then ⟨n, 0⟩
  else
    let front := ofNat (n / 10)
    ⟨front.count, front.exponent + 1⟩
termination_by n
decreasing_by exact Nat.div_lt_self (by omega) (by decide)

/-- A magnitude with the digits of a fraction, up to the first one that a word has no room for. -/
def withFraction (magnitude : Magnitude) : List Char → Magnitude
  | [] => magnitude
  | c :: rest =>
    match Text.digitValue? c with
    | none => magnitude
    | some digit =>
      if 10 * magnitude.count + digit ≤ greatestCount then
        withFraction ⟨10 * magnitude.count + digit, magnitude.exponent - 1⟩ rest
      else magnitude

/-- A magnitude times a power of ten. -/
def shift (magnitude : Magnitude) (places : Int) : Magnitude :=
  ⟨magnitude.count, magnitude.exponent + places⟩

/-- The nearest number with 53 significant bits, the even one of two that are equally near. -/
def nearest (n : Nat) : Nat :=
  let unit := Nat.pow 2 (n.log2 - 52)
  let units := n / unit
  let rest := n % unit
  if unit < 2 * rest || (2 * rest == unit && units % 2 == 1) then (units + 1) * unit
  else units * unit

/-- Half a unit above the greatest double, from where a number rounds to infinity. -/
def doubleLimit : Nat := Nat.pow 2 1024 - Nat.pow 2 970

/-- The greatest exponent of a power of ten among the doubles. -/
def greatestPower : Nat := 308

/-- The double of a count, multiplied by the double of its power of ten, is finite. -/
def isFinite (magnitude : Magnitude) : Bool :=
  magnitude.count == 0 || magnitude.exponent < 0 ||
    (magnitude.exponent ≤ greatestPower &&
      nearest magnitude.count * nearest (Nat.pow 10 magnitude.exponent.toNat) < doubleLimit)

/-- A number that a word holds is its own magnitude. -/
theorem ofNat_of_le {n : Nat} (held : n ≤ greatestCount) : ofNat n = ⟨n, 0⟩ := by
  -- No digit has to go.
  rw [ofNat, if_pos held]

end Magnitude

end SolverHub.Json
