/-! A place in a text is a number of bytes, and only between characters can the text be cut. -/

namespace SolverHub.Text

/-- The number of bytes that some characters take. -/
def byteCount : List Char → Nat
  | [] => 0
  | c :: text => c.utf8Size + byteCount text

/-- The characters before and after a place, if the place is between characters. -/
def splitAtByte? : Nat → List Char → Option (List Char × List Char)
  | 0, text => some ([], text)
  | _ + 1, [] => none
  | place, c :: text =>
    if c.utf8Size ≤ place then
      (splitAtByte? (place - c.utf8Size) text).map fun halves => (c :: halves.1, halves.2)
    else none

/-- The characters from one place up to another, if both are between characters. -/
def cut? (start stop : Nat) (text : List Char) : Option (List Char) := do
  let (before, _) ← splitAtByte? stop text
  let (_, part) ← splitAtByte? start before
  return part

/-- The place after some characters is always between characters. -/
theorem splitAtByte?_byteCount (first second : List Char) :
    splitAtByte? (byteCount first) (first ++ second) = some (first, second) := by
  -- Every character takes at least one byte, so the split moves past each of them in turn.
  induction first with
  | nil => simp [byteCount, splitAtByte?]
  | cons c first ih =>
    have room : c.utf8Size ≤ byteCount (c :: first) := by simp [byteCount]
    have left : byteCount (c :: first) - c.utf8Size = byteCount first := by simp [byteCount]
    have positive : byteCount (c :: first) ≠ 0 := by
      have := c.utf8Size_pos
      simp only [byteCount]
      omega
    obtain ⟨place, found⟩ := Nat.exists_eq_succ_of_ne_zero positive
    rw [found] at room left ⊢
    simp [splitAtByte?, if_pos room, left, ih]

end SolverHub.Text
