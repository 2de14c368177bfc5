import Mathlib.Data.String.Basic
import Mathlib.Tactic.IntervalCases
import SolverHub.Json.Printer
import SolverHub.Json.Token
import SolverHub.Proofs.Text.Decimal

/-! A string is scanned back from its printed form, and no digits hide behind its escapes. -/

namespace SolverHub.Json

variable {c : Char} {chars : List (Option Char)} {text after : List Char}

/-- An escaped unit starts with hexadecimal digits wherever a string has been scanned. -/
theorem exists_hexUnit? {a b d e : Char}
    (scanned : scanText ('\\' :: 'u' :: a :: b :: d :: e :: text) = some (chars, after)) :
    ∃ unit, hexUnit? a b d e = some unit := by
  rw [← Option.isSome_iff_exists, Option.isSome_iff_ne_none]
  intro none
  -- Whether or not another unit follows, the digits of this one are read first.
  by_cases pair : ∃ f g h i rest, text = '\\' :: 'u' :: f :: g :: h :: i :: rest
  · obtain ⟨f, g, h, i, rest, rfl⟩ := pair
    rw [scanText.eq_3, none] at scanned
    cases scanned
  · rw [scanText.eq_4 _ _ _ _ _ fun f g h i rest same => pair ⟨f, g, h, i, rest, same⟩, none]
      at scanned
    cases scanned

/-- A code unit outside all pairs is scanned by itself, whatever comes behind it. -/
theorem scanText_unit {a b d e : Char} {unit : Nat} (hex : hexUnit? a b d e = some unit)
    (single : isHighUnit unit = false) (scanned : scanText text = some (chars, after)) :
    scanText ('\\' :: 'u' :: a :: b :: d :: e :: text) = some (unitChar? unit :: chars, after) := by
  by_cases pair : ∃ f g h i rest, text = '\\' :: 'u' :: f :: g :: h :: i :: rest
  · -- Another unit follows, which does not make a pair with this one.
    obtain ⟨f, g, h, i, rest, rfl⟩ := pair
    obtain ⟨following, next⟩ := exists_hexUnit? scanned
    simp [scanText.eq_3, hex, next, single, scanned]
  · rw [scanText.eq_4 _ _ _ _ _ fun f g h i rest same => pair ⟨f, g, h, i, rest, same⟩, hex]
    simp [scanned]

/-- An escape of one letter stands for its character. -/
theorem scanText_short {letter : Char} (other : letter ≠ 'u') (short : shortEscape? letter = some c)
    (scanned : scanText text = some (chars, after)) :
    scanText ('\\' :: letter :: text) = some (some c :: chars, after) := by
  -- The cases for units of four digits come first, and their letter is another one.
  rw [scanText.eq_5 _ _ (fun _ _ _ _ _ _ _ _ _ same => absurd same other)
    fun _ _ _ _ _ same => absurd same other]
  simp [short, scanned]

/-- A character that needs no escape stands for itself. -/
theorem scanText_plain (noQuote : c ≠ '"') (noEscape : c ≠ '\\') (visible : ¬c < ' ')
    (scanned : scanText text = some (chars, after)) :
    scanText (c :: text) = some (some c :: chars, after) := by
  -- The cases for quotes and escapes come first, and the character is neither.
  rw [scanText.eq_6 _ _ noQuote (fun _ _ _ _ _ _ _ _ _ same => absurd same noEscape)
    (fun _ _ _ _ _ same => absurd same noEscape) fun _ _ same => absurd same noEscape]
  simp [noEscape, visible, scanned]

/-- A control character has its code point in four hexadecimal digits. -/
theorem fourHexDigits_control {point : Nat} (control : point < 32) :
    ∃ a b d e, fourHexDigits point = [a, b, d, e] ∧ hexUnit? a b d e = some point := by
  -- There are 32 of them.
  interval_cases point <;> exact ⟨_, _, _, _, rfl, rfl⟩

/-- The form of a character stands for that character. -/
theorem scanText_escaped (scanned : scanText text = some (chars, after)) :
    scanText (escaped c ++ text) = some (some c :: chars, after) := by
  unfold escaped
  -- Seven characters have an escape of one letter.
  iterate 7
    split
    · subst c
      exact scanText_short (by decide) rfl scanned
  split
  · -- The other control characters are written as code units, none of which is half of a pair.
    rename_i control
    have small : c.toNat < 32 := control
    obtain ⟨a, b, d, e, form, hex⟩ := fourHexDigits_control small
    have single : isHighUnit c.toNat = false ∧ isLowUnit c.toNat = false := by
      simp only [isHighUnit, isLowUnit, Bool.and_eq_false_iff, decide_eq_false_iff_not]
      omega
    have unit : unitChar? c.toNat = some c := by
      rw [unitChar?, single.1, single.2, Char.ofNat_toNat]
      rfl
    rw [form, ← unit]
    exact scanText_unit hex single.1 scanned
  · rename_i noQuote noEscape _ _ _ _ _ visible
    exact scanText_plain noQuote noEscape visible scanned

/-- A string is scanned up to the quote that closes it. -/
theorem scanText_escapes (value rest : List Char) :
    scanText (value.flatMap escaped ++ '"' :: rest) = some (value.map some, rest) := by
  -- The characters are scanned one by one.
  induction value with
  | nil => rfl
  | cons c value ih =>
    rw [List.flatMap_cons, List.append_assoc]
    exact scanText_escaped ih

/-- A digit is written as it is. -/
theorem escaped_of_isDigit (digit : Text.isDigit c = true) : escaped c = [c] := by
  have range := Text.isDigit_iff.mp digit
  -- No character with an escape of its own is a digit.
  have other {special : Char} (outside : ¬('0' ≤ special ∧ special ≤ '9')) : c ≠ special := by
    rintro rfl
    exact outside range
  have visible : ¬c < ' ' := not_lt.mpr (le_trans (by decide) range.1)
  unfold escaped
  rw [if_neg (other (by decide)), if_neg (other (by decide)), if_neg (other (by decide)),
    if_neg (other (by decide)), if_neg (other (by decide)), if_neg (other (by decide)),
    if_neg (other (by decide)), if_neg visible]

/-- Characters that are all there make up their text. -/
theorem textOf?_map (value : String) : textOf? (value.toList.map some) = some value := by
  -- Where no half of a pair stands alone every unit is a character.
  have all (chars : List Char) : (chars.map some).mapM (fun c => c) = some chars := by
    induction chars with
    | nil => rfl
    | cons c chars ih => simp [List.mapM_cons, ih]
  rw [textOf?, all, Option.map_some, String.ofList_toList]

/-- A printed string is scanned as one that stands for it and hides no digits. -/
theorem spellingOf_escapes (value : String) (rest : List Char) :
    let spelling := spellingOf (value.toList.map some) (value.toList.flatMap escaped ++ '"' :: rest)
    spelling.meaning = some value ∧ spelling.hidesDigits = false := by
  intro spelling
  have meaning : spelling.meaning = some value := textOf?_map value
  refine ⟨meaning, ?_⟩
  cases digits : value.toList.all Text.isDigit with
  | false => simp [Spelling.hidesDigits, meaning, digits]
  | true =>
    -- Digits alone are written without any escape.
    have plainly (chars : List Char) (all : chars.all Text.isDigit = true) :
        chars.flatMap escaped = chars := by
      induction chars with
      | nil => rfl
      | cons c chars ih =>
        obtain ⟨first, others⟩ := Bool.and_eq_true_iff.mp all
        rw [List.flatMap_cons, escaped_of_isDigit first, ih others]
        rfl
    have plain : spelling.plain = true := by
      have closed : value.toList ++ '"' :: rest = (value.toList ++ ['"']) ++ rest := by simp
      show (textOf? _).any _ = true
      rw [textOf?_map, plainly value.toList digits, closed, Option.any_some, Text.dropLeading?_append]
      rfl
    rw [Spelling.hidesDigits, plain]
    rfl

end SolverHub.Json
