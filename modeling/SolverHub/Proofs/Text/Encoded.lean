import Mathlib.Algebra.Order.BigOperators.Group.List
import Mathlib.Algebra.Order.Group.Nat
import Mathlib.Algebra.Ring.Nat
import SolverHub.Text.Blank
import SolverHub.Text.Bytes
import SolverHub.Text.Lines

/-! A text is encoded in bytes, of which those below 128 are characters on their own. -/

namespace SolverHub.Text

variable {c : Char} {part text : List Char}

/-- The bytes of a text. -/
def bytes (text : List Char) : List UInt8 :=
  text.flatMap String.utf8EncodeChar

@[simp] theorem bytes_nil : bytes [] = [] := rfl

@[simp] theorem bytes_cons (c : Char) (text : List Char) :
    bytes (c :: text) = String.utf8EncodeChar c ++ bytes text := rfl

/-- A text has as many bytes as its characters take. -/
@[simp] theorem length_bytes (text : List Char) : (bytes text).length = byteCount text := by
  -- The induction follows the characters, whose bytes are counted one by one.
  induction text with
  | nil => rfl
  | cons c text ih => simp [byteCount, ih]

/-- A character below 128 is one byte. -/
theorem encode_narrow (narrow : c.toNat < 128) :
    String.utf8EncodeChar c = [UInt8.ofNat c.toNat] := by
  -- The encoding tells characters of one byte by their greatest code.
  have small : c.val.toNat ≤ 127 := Nat.le_of_lt_succ narrow
  simp only [String.utf8EncodeChar, if_pos small]
  rfl

/-- A number between 128 and 256 is the same number as a byte. -/
private theorem le_toNat_ofNat {n : Nat} (low : 128 ≤ n) (high : n < 256) :
    128 ≤ (UInt8.ofNat n).toNat := by
  -- Below the size of a byte nothing wraps.
  have same : (UInt8.ofNat n).toNat = n % 256 := UInt8.toNat_ofNat'
  omega

/-- All bytes of another character are 128 or above. -/
theorem encode_wide (wide : 128 ≤ c.toNat) :
    ∀ byte ∈ String.utf8EncodeChar c, 128 ≤ byte.toNat := by
  -- Every byte of the longer forms is a remainder on top of 128, 192, 224 or 240.
  have large : ¬ c.val.toNat ≤ 127 := Nat.not_le.mpr wide
  intro byte member
  simp only [String.utf8EncodeChar, if_neg large] at member
  split at member
  · simp only [List.mem_cons, List.not_mem_nil, or_false] at member
    rcases member with rfl | rfl <;> exact le_toNat_ofNat (by omega) (by omega)
  · split at member
    · simp only [List.mem_cons, List.not_mem_nil, or_false] at member
      rcases member with rfl | rfl | rfl <;> exact le_toNat_ofNat (by omega) (by omega)
    · simp only [List.mem_cons, List.not_mem_nil, or_false] at member
      rcases member with rfl | rfl | rfl | rfl <;> exact le_toNat_ofNat (by omega) (by omega)

section Heads

variable {byte : UInt8} {more : List UInt8}

/-- A text with a character has a byte. -/
theorem exists_bytes_cons (c : Char) (text : List Char) :
    ∃ byte more, bytes (c :: text) = byte :: more := by
  -- Every character has at least one byte.
  apply List.exists_cons_of_ne_nil
  simp [String.utf8EncodeChar_ne_nil]

/-- The byte of a narrow character is the number of the character. -/
theorem head_narrow (narrow : c.toNat < 128) (front : bytes (c :: text) = byte :: more) :
    byte.toNat = c.toNat := by
  -- The first byte of a narrow character is the character itself.
  rw [bytes_cons, encode_narrow narrow, List.singleton_append] at front
  rw [← (List.cons.inj front).1, UInt8.toNat_ofNat']
  omega

/-- The first byte of a wide character is not below 128. -/
theorem head_wide (wide : 128 ≤ c.toNat) (front : bytes (c :: text) = byte :: more) :
    128 ≤ byte.toNat := by
  -- The bytes of the character are not none, so the first byte of the text is one of them.
  obtain ⟨head, tail, shape⟩ := List.exists_cons_of_ne_nil (String.utf8EncodeChar_ne_nil (c := c))
  rw [bytes_cons, shape, List.cons_append] at front
  apply encode_wide wide
  rw [shape, (List.cons.inj front).1]
  exact List.mem_cons_self ..

/-- A text whose first byte is below 128 starts with the character of that byte. -/
theorem eq_cons_of_head (narrow : byte.toNat < 128) (first : (bytes text).head? = some byte) :
    ∃ rest, text = Char.ofNat byte.toNat :: rest := by
  cases text with
  | nil => cases first
  | cons c rest =>
    obtain ⟨head, more, front⟩ := exists_bytes_cons c rest
    have same : head = byte := by simpa [front] using first
    subst same
    -- A byte below 128 can only come from a narrow character.
    by_cases small : c.toNat < 128
    · exact ⟨rest, by rw [head_narrow small front, Char.ofNat_toNat]⟩
    · have wide := head_wide (Nat.not_lt.mp small) front
      omega

end Heads

/-- A character takes one byte exactly if it is below 128. -/
theorem utf8Size_eq_one : c.utf8Size = 1 ↔ c.toNat < 128 := by
  -- A character has one byte exactly below 128.
  rw [Char.utf8Size_eq_one_iff, UInt32.le_iff_toNat_le]
  exact Nat.lt_succ_iff.symm

/-- A place in a text is in front of a character, or it is inside one, where all bytes are 128 or above. -/
theorem place_cases {place : Nat} (inside : place < byteCount text) :
    (∃ before c rest, splitAtByte? place text = some (before, c :: rest) ∧
      (bytes text).drop place = bytes (c :: rest)) ∨
    splitAtByte? place text = none ∧
      ∃ byte more, (bytes text).drop place = byte :: more ∧ 128 ≤ byte.toNat := by
  -- The place moves back by one character at a time until it meets the first one.
  induction text generalizing place with
  | nil => simp [byteCount] at inside
  | cons c text ih =>
    cases place with
    | zero => exact .inl ⟨[], c, text, rfl, rfl⟩
    | succ place =>
      by_cases passed : c.utf8Size ≤ place + 1
      · have left : place + 1 - c.utf8Size < byteCount text := by
          simp only [byteCount] at inside
          omega
        have dropped : (bytes (c :: text)).drop (place + 1) =
            (bytes text).drop (place + 1 - c.utf8Size) := by
          rw [bytes_cons, List.drop_append, String.length_utf8EncodeChar, List.drop_eq_nil_of_le,
            List.nil_append]
          rwa [String.length_utf8EncodeChar]
        rw [dropped]
        rcases ih left with ⟨before, d, rest, split, front⟩ | ⟨split, behind⟩
        · exact .inl ⟨c :: before, d, rest, by simp [splitAtByte?, passed, split], front⟩
        · exact .inr ⟨by simp [splitAtByte?, passed, split], behind⟩
      · -- A character with a byte behind its first one is not below 128.
        have wide : 128 ≤ c.toNat := by
          by_contra narrow
          have single := utf8Size_eq_one.mpr (Nat.not_le.mp narrow)
          omega
        have within : place + 1 < (String.utf8EncodeChar c).length := by
          rw [String.length_utf8EncodeChar]
          omega
        refine .inr ⟨by simp [splitAtByte?, passed], (String.utf8EncodeChar c)[place + 1],
          (String.utf8EncodeChar c).drop (place + 2) ++ bytes text, ?_, ?_⟩
        · rw [bytes_cons, List.drop_append_of_le_length (Nat.le_of_lt within),
            List.drop_eq_getElem_cons within, List.cons_append]
        · exact encode_wide wide _ (List.getElem_mem within)

/-- A word of narrow characters starts with another byte than a wide character or the inside of one. -/
theorem isPrefixOf_wide {word : List Char} {byte : UInt8} {more : List UInt8}
    (narrow : ∀ c ∈ word, c.toNat < 128) (filled : word ≠ []) (wide : 128 ≤ byte.toNat) :
    (bytes word).isPrefixOf (byte :: more) = false := by
  obtain ⟨c, rest, rfl⟩ := List.exists_cons_of_ne_nil filled
  obtain ⟨head, tail, front⟩ := exists_bytes_cons c rest
  have small := narrow c (List.mem_cons_self ..)
  have value := head_narrow small front
  -- The word starts with a byte below 128, and the bytes behind it do not.
  have differs : head ≠ byte := by
    rintro rfl
    omega
  rw [front, List.isPrefixOf_cons_cons, beq_eq_false_iff_ne.mpr differs, Bool.false_and]

/-- A word of narrow characters starts a text in bytes exactly where it does in characters. -/
theorem isPrefixOf_bytes {word : List Char} (narrow : ∀ c ∈ word, c.toNat < 128)
    (text : List Char) :
    (bytes word).isPrefixOf (bytes text) = (dropLeading? word text).isSome := by
  -- Both comparisons go on for as long as the characters of the word agree with the text.
  induction word generalizing text with
  | nil => simp [dropLeading?]
  | cons c word ih =>
    have small := narrow c (List.mem_cons_self ..)
    have others := ih fun d member => narrow d (List.mem_cons_of_mem c member)
    cases text with
    | nil => simp [encode_narrow small, dropLeading?]
    | cons d text =>
      by_cases wide : 128 ≤ d.toNat
      · -- The two texts differ in their first characters and in their first bytes.
        have differs : c ≠ d := by
          rintro rfl
          omega
        obtain ⟨head, tail, front⟩ := exists_bytes_cons d text
        rw [front, isPrefixOf_wide narrow (List.cons_ne_nil c word) (head_wide wide front),
          dropLeading?, if_neg differs]
        rfl
      · have low : d.toNat < 128 := Nat.not_le.mp wide
        have same : (UInt8.ofNat c.toNat == UInt8.ofNat d.toNat) = decide (c = d) := by
          rw [Bool.eq_iff_iff, beq_iff_eq, decide_eq_true_eq]
          constructor
          · intro equal
            have values := congrArg UInt8.toNat equal
            rw [UInt8.toNat_ofNat', UInt8.toNat_ofNat'] at values
            exact Char.toNat_inj.mp (by omega)
          · rintro rfl
            rfl
        rw [bytes_cons, bytes_cons, encode_narrow small, encode_narrow low, List.singleton_append,
          List.singleton_append, List.isPrefixOf_cons_cons, same, others, dropLeading?]
        by_cases equal : c = d <;> simp [equal]

/-- A text takes no more bytes than one that has all its characters and others. -/
theorem byteCount_le_of_sublist (sublist : part.Sublist text) :
    byteCount part ≤ byteCount text := by
  -- The induction follows how the part is left when characters are taken away.
  induction sublist with
  | slnil => exact Nat.le_refl 0
  | cons c _ ih => exact Nat.le_trans ih (Nat.le_add_left _ _)
  | cons_cons c _ ih => exact Nat.add_le_add_left ih _

/-- A text has no more characters than bytes. -/
theorem length_le_byteCount (text : List Char) : text.length ≤ byteCount text := by
  -- The induction follows the characters, each of which has at least one byte.
  induction text with
  | nil => exact Nat.le_refl 0
  | cons c text ih =>
    have := c.utf8Size_pos
    simp only [List.length_cons, byteCount]
    omega

/-- Trimming only drops characters. -/
theorem trim_sublist (text : List Char) : (trim text).Sublist text := by
  -- Trimming drops characters at both ends.
  have behind : (trimEnd (trimStart text)).Sublist (trimStart text) := by
    have reversed := List.dropWhile_sublist isBlank (l := (trimStart text).reverse)
    simpa [trimEnd] using reversed.reverse
  exact behind.trans (List.dropWhile_sublist isBlank)

/-- The lines of a text take no more bytes than the text. -/
theorem sum_byteCount_lines (text : List Char) :
    ((lines text).map byteCount).sum ≤ byteCount text := by
  -- A line feed ends a line without being part of it, and every other character joins a line.
  induction text using lines.induct with
  | case1 => simp [lines]
  | case2 rest ih => simp [lines, byteCount]; omega
  | case3 rest ih => simp [lines, byteCount]; omega
  | case4 c rest _ _ none ih => simp_all [lines, byteCount]
  | case5 c rest _ _ line others found ih => simp_all [lines, byteCount]; omega

/-- A text has no more lines than characters. -/
theorem length_lines_le (text : List Char) : (lines text).length ≤ text.length := by
  -- Only a line feed or the last character before the end starts one more line.
  induction text using lines.induct with
  | case1 => simp [lines]
  | case2 rest ih => simp [lines]; omega
  | case3 rest ih => simp [lines]; omega
  | case4 c rest _ _ none ih => simp_all [lines]
  | case5 c rest _ _ line others found ih => simp_all [lines]; omega

/-- A text has no more lines than bytes once the blanks around it are dropped. -/
theorem length_lines_trim_le (text : List Char) : (lines (trim text)).length ≤ byteCount text := by
  -- Neither trimming nor splitting adds characters, and each character has a byte.
  calc (lines (trim text)).length
    _ ≤ (trim text).length := length_lines_le _
    _ ≤ text.length := (trim_sublist text).length_le
    _ ≤ byteCount text := length_le_byteCount text

/-- The lines of a text that are not blank, trimmed. -/
def filledLines (text : List Char) : List (List Char) :=
  ((lines text).map trim).filter (!·.isEmpty)

/-- The filled lines take no more bytes than the text. -/
theorem sum_byteCount_filledLines (text : List Char) :
    ((filledLines text).map byteCount).sum ≤ byteCount text := by
  -- Neither leaving lines out nor trimming them adds a byte.
  have kept : ((filledLines text).map byteCount).Sublist ((lines text).map (byteCount ∘ trim)) := by
    rw [← List.map_map]
    exact List.filter_sublist.map byteCount
  have trimmed : ((lines text).map (byteCount ∘ trim)).sum ≤ ((lines text).map byteCount).sum :=
    List.sum_le_sum fun line _ => byteCount_le_of_sublist (trim_sublist line)
  exact (kept.sum_le_sum fun _ _ => Nat.zero_le _).trans (trimmed.trans (sum_byteCount_lines text))

/-- A text has no more filled lines than bytes. -/
theorem length_filledLines_le (text : List Char) : (filledLines text).length ≤ byteCount text := by
  -- Filtering keeps some of the lines, and a text has no more lines than characters.
  calc (filledLines text).length
    _ ≤ ((lines text).map trim).length := List.length_filter_le _ _
    _ = (lines text).length := List.length_map ..
    _ ≤ text.length := length_lines_le text
    _ ≤ byteCount text := length_le_byteCount text

/-- A filled line has a byte. -/
theorem byteCount_pos_of_mem (member : part ∈ filledLines text) : 0 < byteCount part := by
  -- Empty lines are left out, and every character takes at least one byte.
  have filled : part ≠ [] := by
    intro empty
    simp [filledLines, empty] at member
  exact Nat.lt_of_lt_of_le (List.length_pos_iff.mpr filled) (length_le_byteCount part)

end SolverHub.Text
