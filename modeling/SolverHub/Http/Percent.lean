import SolverHub.Text.Decimal

/-! A percent escape stands for one byte, and the bytes of a text must be UTF-8. -/

namespace SolverHub.Percent

/-- The value of a hexadecimal digit in either case. -/
def hexValue? (byte : UInt8) : Option Nat :=
  let n := byte.toNat
  if 48 ≤ n ∧ n ≤ 57 then some (n - 48)
  else if 65 ≤ n ∧ n ≤ 70 then some (n - 55)
  else if 97 ≤ n ∧ n ≤ 102 then some (n - 87)
  else none

/-- The byte that two hexadecimal digits stand for. -/
def escaped? (high low : UInt8) : Option UInt8 := do
  return UInt8.ofNat (16 * (← hexValue? high) + (← hexValue? low))

/-- The bytes that some bytes with escapes stand for, where a percent sign without digits stays. -/
def decodeBytes : List UInt8 → List UInt8
  | 37 :: high :: low :: rest =>
    match escaped? high low with
    | some byte => byte :: decodeBytes rest
    | none => 37 :: decodeBytes (high :: low :: rest)
  | byte :: rest => byte :: decodeBytes rest
  | [] => []

/-- The text that a text with escapes stands for, if its bytes are one. -/
def decode? (text : String) : Option String :=
  String.fromUTF8? ⟨(decodeBytes text.toUTF8.toList).toArray⟩

end SolverHub.Percent
