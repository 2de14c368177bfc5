/-! White space is the set of characters that a trimmed text neither starts nor ends with. -/

namespace SolverHub.Text

/-- The inclusive ranges of code points that carry the `White_Space` property. -/
def blankRanges : List (Nat × Nat) :=
  [(0x09, 0x0D), (0x20, 0x20), (0x85, 0x85), (0xA0, 0xA0), (0x1680, 0x1680), (0x2000, 0x200A),
    (0x2028, 0x2029), (0x202F, 0x202F), (0x205F, 0x205F), (0x3000, 0x3000)]

/-- A code point lies in one of a list of inclusive ranges. -/
def inRanges (ranges : List (Nat × Nat)) (point : Nat) : Bool :=
  ranges.any fun range => range.1 ≤ point && point ≤ range.2

/-- A character is blank when it carries the `White_Space` property. -/
def isBlank (c : Char) : Bool :=
  inRanges blankRanges c.toNat

/-- The characters left after the blank ones in front are dropped. -/
def trimStart (text : List Char) : List Char :=
  text.dropWhile isBlank

/-- The characters left after the blank ones behind are dropped. -/
def trimEnd (text : List Char) : List Char :=
  (text.reverse.dropWhile isBlank).reverse

/-- The characters left after the blank ones on both sides are dropped. -/
def trim (text : List Char) : List Char :=
  trimEnd (trimStart text)

/-- A text with nothing but blank characters names nothing. -/
def isBlankText (text : String) : Bool :=
  text.toList.all isBlank

end SolverHub.Text
