import Mathlib.Algebra.Order.Ring.Int
import SolverHub.Proofs.Guard
import SolverHub.Proofs.Reporting
import SolverHub.Proofs.Text.Decimal
import SolverHub.Proofs.Text.Encoded
import SolverHub.Puzzles.Calibration

/-! Digits are looked for byte by byte, and the sums of chunks and of all lines fit their words. -/

namespace SolverHub.Calibration

/-- The words for single bytes. -/
def byteWord : Bounds := .unsigned 8

/-- A rule for the digit at a byte of a line. -/
abbrev GuardedRule := List Char → Nat → Except Stop (Option Int)

/-- Only a digit byte is a digit. -/
def guardedPlainDigit : GuardedRule := fun line place => do
  let byte ← Guard.read (Text.bytes line) place
  if 48 ≤ byte.toNat ∧ byte.toNat ≤ 57 then return some (← Guard.sub byteWord byte.toNat 48)
  else return none

/-- A digit byte and a spelled digit are both digits. -/
def guardedAnyDigit : GuardedRule := fun line place => do
  match ← guardedPlainDigit line place with
  | some digit => return some digit
  | none => do
    let rest ← Guard.after (Text.bytes line) place
    match spelledDigits.findIdx? fun digit => (Text.bytes digit.toList).isPrefixOf rest with
    | some index => return some (← Guard.add word index 1)
    | none => return none

/-- The error for a line without digits. -/
def noDigits (number : Int) : Except Stop Int :=
  .error (.failed (.solve (.noSolution ("line " ++ Text.intText number ++ " has no digits"))))

/-- The value of a line at an offset in a chunk. -/
def guardedLineValue (rule : GuardedRule) (chunk offset : Nat) (line : List Char) :
    Except Stop Int := do
  let places := List.range (Text.bytes line).length
  let first ← places.findSomeM? (rule line)
  let last ← places.reverse.findSomeM? (rule line)
  match first, last with
  | some first, some last => do
    let tens ← Guard.mul word first 10
    Guard.add word tens last
  | _, _ => do
    let start ← Guard.mul Guard.size chunk chunkSize
    let place ← Guard.add Guard.size start offset
    let number ← Guard.add Guard.size place 1
    noDigits number

/-- The sum of the values of lines from an offset in a chunk on, up to the first line without a value. -/
def guardedValuesFrom (rule : GuardedRule) (chunk : Nat) :
    Nat → Int → List (List Char) → Except Stop Int
  | _, sum, [] => .ok sum
  | offset, sum, line :: rest => do
    let value ← guardedLineValue rule chunk offset line
    let sum ← Guard.add word sum value
    guardedValuesFrom rule chunk (offset + 1) sum rest

/-- The sum of the values in a chunk. -/
def guardedSubtotal (rule : GuardedRule) (lines : List (List Char)) (index : Nat) :
    Except Stop Int := do
  let chunks ← Guard.chunks chunkSize lines
  let chunk ← Guard.read chunks index
  guardedValuesFrom rule index 0 0 chunk

/-- One chunk is summed and its sum reported. -/
def guardedRunChunk (rule : GuardedRule) (lines : List (List Char)) (index : Nat) :
    Reporting (Nat × Int) := do
  let sum ← Guard.quietly (guardedSubtotal rule lines index)
  .report (.text ("chunk " ++ Text.natText index ++ ": " ++ Text.intText sum))
  return (index, sum)

/-- Chunks are summed in the order of a schedule, and their sums added up. -/
def guardedCalibrate (rule : GuardedRule) (schedule : Nat → List Nat) (lines : List (List Char)) :
    Reporting String := do
  let sums ← (schedule (chunkCount lines)).mapM (guardedRunChunk rule lines)
  let inOrder := sums.mergeSort fun first second => first.1 ≤ second.1
  let total ← .checked (longWord.sum (inOrder.map (·.2)))
  return Text.intText total

/-- The lines that carry a calibration value. -/
def guardedParse (input : String) : Except Stop (List (List Char)) :=
  Guard.parsed (parse input)

/-- The two parts of the puzzle with guarded rules and chunks, under a schedule of the chunks. -/
def guardedProblems (schedule : Nat → List Nat) : List Problem :=
  [Guard.part 1 (some "Sum of first and last digit per line") guardedParse
      (guardedCalibrate guardedPlainDigit schedule),
    Guard.part 2 (some "Same, counting spelled-out digits") guardedParse
      (guardedCalibrate guardedAnyDigit schedule)]

/-- The two parts of the puzzle under a schedule of the chunks. -/
def problemsAlong (schedule : Nat → List Nat) : List Problem :=
  [.part 1 (some "Sum of first and last digit per line") parse fun lines =>
      calibrateAlong plainDigit lines (schedule (chunkCount lines)),
    .part 2 (some "Same, counting spelled-out digits") parse fun lines =>
      calibrateAlong anyDigit lines (schedule (chunkCount lines))]

/-- The digit that a rule finds in front of the characters from a byte on. -/
def digitAt? (rule : DigitRule) (line : List Char) (place : Nat) : Option Nat :=
  (Text.splitAtByte? place line).bind fun halves => rule halves.2

/-- A guarded rule finds at every byte of a line what another rule finds in front of a character. -/
def Guards (guarded : GuardedRule) (rule : DigitRule) : Prop :=
  ∀ line place, place < Text.byteCount line → guarded line place =
    .ok (((Text.splitAtByte? place line).bind fun halves => rule halves.2).map Int.ofNat)

/-- The words for bytes go up to 255. -/
theorem holds_byteWord {n : Int} : byteWord.holds n = true ↔ 0 ≤ n ∧ n ≤ 255 := Bounds.holds_iff

/-- The words for values and sums of chunks go up to two to the thirty-two. -/
theorem holds_word {n : Int} : word.holds n = true ↔ 0 ≤ n ∧ n ≤ 4294967295 := Bounds.holds_iff

/-- What the plain rule finds at a byte. -/
theorem guardedPlainDigit_eq {line : List Char} {place : Nat} {byte : UInt8} {more : List UInt8}
    (front : (Text.bytes line).drop place = byte :: more) : guardedPlainDigit line place =
      .ok (if 48 ≤ byte.toNat ∧ byte.toNat ≤ 57 then some ((byte.toNat : Int) - 48) else none) := by
  have read : Guard.read (Text.bytes line) place = .ok byte := by
    apply Guard.read_eq
    rw [← List.head?_drop, front]
    rfl
  rw [guardedPlainDigit, read, Guard.ok_bind]
  split
  · -- A digit byte is at least the byte of the digit zero.
    rw [Guard.sub_eq (holds_byteWord.mpr (by omega))]
    rfl
  · rfl

/-- The first byte of a character is a digit byte exactly if the character is a digit. -/
theorem digit_of_head {c : Char} {rest : List Char} {byte : UInt8} {more : List UInt8}
    (front : Text.bytes (c :: rest) = byte :: more) :
    (if 48 ≤ byte.toNat ∧ byte.toNat ≤ 57 then some ((byte.toNat : Int) - 48) else none) =
      (Text.digitValue? c).map Int.ofNat := by
  have digit : '0' ≤ c ∧ c ≤ '9' ↔ 48 ≤ c.toNat ∧ c.toNat ≤ 57 := by
    simp only [Char.le_def, UInt32.le_iff_toNat_le]
    rfl
  unfold Text.digitValue?
  by_cases narrow : c.toNat < 128
  · rw [Text.head_narrow narrow front]
    by_cases found : 48 ≤ c.toNat ∧ c.toNat ≤ 57
    · have difference : Int.ofNat (c.toNat - 48) = (c.toNat : Int) - 48 := by
        rw [Int.ofNat_eq_natCast]
        omega
      rw [if_pos found, if_pos (digit.mpr found), Option.map_some, difference]
    · rw [if_neg found, if_neg (found ∘ digit.mp)]
      rfl
  · -- Neither a wide character nor its first byte is a digit.
    have high := Text.head_wide (Nat.not_lt.mp narrow) front
    rw [if_neg (by omega), if_neg (fun found => by have := digit.mp found; omega)]
    rfl

/-- A byte is a digit where the character in front of it is one, and nowhere else. -/
theorem guards_plainDigit : Guards guardedPlainDigit plainDigit := by
  intro line place inside
  -- A place is the start of a character, or inside one, where no digit stands.
  rcases Text.place_cases inside with
    ⟨before, c, rest, split, front⟩ | ⟨split, byte, more, front, wide⟩
  · obtain ⟨byte, more, shape⟩ := Text.exists_bytes_cons c rest
    rw [guardedPlainDigit_eq (front.trans shape), digit_of_head shape, split]
    rfl
  · rw [guardedPlainDigit_eq front, if_neg (by omega), split]
    rfl

/-- The spelled digits are of narrow characters, at least one each. -/
theorem spelledDigits_narrow :
    ∀ digit ∈ spelledDigits, digit.toList ≠ [] ∧ ∀ c ∈ digit.toList, c.toNat < 128 := by
  -- The digits are spelled with Latin letters.
  simp [spelledDigits]

/-- Searches by tests that agree on a list find the same place in it. -/
theorem findIdx?_congr {α : Type} {list : List α} {first second : α → Bool}
    (agree : ∀ entry ∈ list, first entry = second entry) :
    list.findIdx? first = list.findIdx? second := by
  -- The induction follows the list, on each entry of which the two agree.
  induction list with
  | nil => rfl
  | cons entry list ih =>
    rw [List.findIdx?_cons, List.findIdx?_cons, agree entry (List.mem_cons_self ..),
      ih fun other member => agree other (List.mem_cons_of_mem entry member)]

/-- The bytes from a place on start with a spelled digit where the characters do, and nowhere else. -/
theorem findIdx?_spelledDigits {line : List Char} {place : Nat}
    (inside : place < Text.byteCount line) :
    (spelledDigits.findIdx? fun word =>
      (Text.bytes word.toList).isPrefixOf ((Text.bytes line).drop place)).map (· + 1) =
      digitAt? spelledDigit line place := by
  rw [digitAt?]
  rcases Text.place_cases inside with
    ⟨before, c, rest, split, front⟩ | ⟨split, byte, more, front, wide⟩
  · have same : (spelledDigits.findIdx? fun word =>
        (Text.bytes word.toList).isPrefixOf (Text.bytes (c :: rest))) =
        spelledDigits.findIdx? fun word => (Text.dropLeading? word.toList (c :: rest)).isSome := by
      apply findIdx?_congr
      intro word member
      exact Text.isPrefixOf_bytes (spelledDigits_narrow word member).2 (c :: rest)
    rw [split, front, same]
    rfl
  · -- No spelled digit starts inside a character.
    have none : (spelledDigits.findIdx? fun word =>
        (Text.bytes word.toList).isPrefixOf (byte :: more)) = none := by
      rw [List.findIdx?_eq_none_iff]
      intro word member
      have narrow := spelledDigits_narrow word member
      exact Text.isPrefixOf_wide narrow.2 narrow.1 wide
    rw [split, front, none]
    rfl

/-- The rule that knows spelled digits finds them where no digit character stands. -/
theorem digitAt?_anyDigit (line : List Char) (place : Nat) : digitAt? anyDigit line place =
    (digitAt? plainDigit line place).or (digitAt? spelledDigit line place) := by
  -- Both rules look at the text behind the place, if a character starts there.
  unfold digitAt?
  cases Text.splitAtByte? place line <;> rfl

/-- A spelled digit is found in bytes where it is found in characters, and nowhere else. -/
theorem guards_anyDigit : Guards guardedAnyDigit anyDigit := by
  intro line place inside
  have plain : guardedPlainDigit line place = .ok ((digitAt? plainDigit line place).map Int.ofNat) :=
    guards_plainDigit line place inside
  have after : Guard.after (Text.bytes line) place = .ok ((Text.bytes line).drop place) := by
    apply Guard.after_eq
    rw [Text.length_bytes]
    exact Nat.le_of_lt inside
  show guardedAnyDigit line place = .ok ((digitAt? anyDigit line place).map Int.ofNat)
  rw [guardedAnyDigit, plain, Guard.ok_bind, digitAt?_anyDigit, ← findIdx?_spelledDigits inside]
  -- A plain digit comes first; the index of a spelled one is below nine, so it fits.
  cases digitAt? plainDigit line place with
  | some digit => rfl
  | none =>
    simp only [Option.map_none, Option.none_or, after, Guard.ok_bind]
    cases found : spelledDigits.findIdx? fun word =>
        (Text.bytes word.toList).isPrefixOf ((Text.bytes line).drop place) with
    | none => rfl
    | some index =>
      have short : index < 9 := (List.findIdx?_eq_some_iff_findIdx_eq.mp found).1
      have held : word.holds ((index : Int) + 1) = true := holds_word.mpr (by omega)
      simp only [Guard.add_eq held, Guard.ok_bind]
      rfl

/-- The digits of a line are what a rule finds from byte to byte. -/
theorem digits_eq_filterMap (rule : DigitRule) (line : List Char) :
    digits rule line = (List.range (Text.byteCount line)).filterMap (digitAt? rule line) := by
  induction line with
  | nil => rfl
  | cons c rest ih =>
    obtain ⟨others, size⟩ := Nat.exists_eq_add_one.mpr c.utf8Size_pos
    -- The character gives its place to the rule, and its other bytes give none.
    have inside : ((List.range others).map Nat.succ).filterMap (digitAt? rule (c :: rest)) = [] := by
      rw [List.filterMap_eq_nil_iff]
      intro place member
      obtain ⟨before, early, rfl⟩ := List.mem_map.mp member
      have short : ¬ c.utf8Size ≤ before + 1 := by
        have := List.mem_range.mp early
        omega
      simp [digitAt?, Text.splitAtByte?, short]
    have behind : ((List.range (Text.byteCount rest)).map (others + 1 + ·)).filterMap
        (digitAt? rule (c :: rest)) = digits rule rest := by
      rw [ih, List.filterMap_map]
      apply List.filterMap_congr
      intro place _
      have passed : c.utf8Size ≤ others + place + 1 := by omega
      have left : others + place + 1 - c.utf8Size = place := by omega
      have sum : others + 1 + place = others + place + 1 := by omega
      have split : Text.splitAtByte? (others + place + 1) (c :: rest) =
          (Text.splitAtByte? place rest).map fun halves => (c :: halves.1, halves.2) := by
        simp [Text.splitAtByte?, passed, left]
      rw [Function.comp_apply, sum, digitAt?, digitAt?, split]
      cases Text.splitAtByte? place rest <;> rfl
    have first : digitAt? rule (c :: rest) 0 = rule (c :: rest) := rfl
    rw [Text.byteCount, size, List.range_add, List.range_succ_eq_map, List.filterMap_append, behind,
      List.filterMap_cons, inside, first, digits]
    cases rule (c :: rest) <;> rfl

/-- A search by guarded steps that all succeed finds what the search by their values finds. -/
theorem findSomeM?_eq {places : List Nat} {guarded : Nat → Except Stop (Option Int)}
    {found : Nat → Option Int} (agree : ∀ place ∈ places, guarded place = .ok (found place)) :
    places.findSomeM? guarded = .ok (places.findSome? found) := by
  -- The induction follows the places, at each of which nothing breaks.
  induction places with
  | nil => rfl
  | cons place places ih =>
    have others := ih fun other member => agree other (List.mem_cons_of_mem place member)
    rw [List.findSomeM?_cons, agree place (List.mem_cons_self ..), Guard.ok_bind,
      List.findSome?_cons]
    cases found place with
    | none => exact others
    | some digit => rfl

variable {guarded : GuardedRule} {rule : DigitRule}

/-- The value of a line is found without a difference where its number fits into the words. -/
theorem guardedLineValue_eq (guards : Guards guarded rule) {chunk offset : Nat}
    (room : chunkSize * chunk + offset < 18446744073709551615) (line : List Char) :
    guardedLineValue guarded chunk offset line =
      lineValue rule (chunkSize * chunk + offset) line := by
  have found : ∀ place ∈ List.range (Text.byteCount line),
      guarded line place = .ok ((digitAt? rule line place).map Int.ofNat) :=
    fun place member => guards line place (List.mem_range.mp member)
  have all : ((List.range (Text.byteCount line)).filterMap fun place =>
      (digitAt? rule line place).map Int.ofNat) = (digits rule line).map Int.ofNat := by
    rw [digits_eq_filterMap, List.map_filterMap]
  have first := findSomeM?_eq found
  have last := findSomeM?_eq fun place member => found place (List.mem_reverse.mp member)
  rw [← List.head?_filterMap, all, List.head?_map] at first
  rw [← List.getLast?_filterMap, all, List.getLast?_map] at last
  rw [guardedLineValue, Text.length_bytes, first, Guard.ok_bind, last, Guard.ok_bind, lineValue]
  have start : Guard.mul Guard.size chunk chunkSize = .ok ((chunkSize * chunk : Nat) : Int) := by
    have product : (chunk : Int) * chunkSize = ((chunkSize * chunk : Nat) : Int) := by
      push_cast
      exact Int.mul_comm _ _
    rw [Guard.mul_eq, product]
    rw [product, Guard.holds_size]
    omega
  have place : Guard.add Guard.size ((chunkSize * chunk : Nat) : Int) offset =
      .ok ((chunkSize * chunk + offset : Nat) : Int) :=
    Guard.add_eq (Guard.holds_size.mpr (by omega))
  -- Without a digit at either end the number of the line is computed in the same words.
  have missing : (Guard.mul Guard.size chunk chunkSize >>= fun start =>
      Guard.add Guard.size start offset >>= fun place =>
        Guard.add Guard.size place 1 >>= noDigits) =
      (longWord.add (chunkSize * chunk + offset : Nat) 1).mapError Stop.ofOverflow >>=
        noDigits := by
    rw [start, Guard.ok_bind, place, Guard.ok_bind]
    rfl
  cases (digits rule line).head? with
  | none => exact missing
  | some first =>
    cases (digits rule line).getLast? with
    | none => exact missing
    | some last =>
      show (Guard.mul word first 10 >>= fun tens => Guard.add word tens last) =
        (word.mul first 10 >>= fun tens => word.add tens last).mapError Stop.ofOverflow
      unfold Guard.mul
      cases word.mul first 10 <;> rfl

/-- Lines of a chunk are summed without a difference where their numbers fit into the words. -/
theorem guardedValuesFrom_eq (guards : Guards guarded rule) {chunk offset : Nat} {sum : Int}
    {lines : List (List Char)}
    (room : chunkSize * chunk + offset + lines.length ≤ 18446744073709551615) :
    guardedValuesFrom guarded chunk offset sum lines =
      valuesFrom rule (chunkSize * chunk + offset) sum lines := by
  -- The induction follows the lines, whose numbers stay below the greatest size.
  induction lines generalizing offset sum with
  | nil => rfl
  | cons line rest ih =>
    rw [List.length_cons] at room
    rw [guardedValuesFrom, valuesFrom, guardedLineValue_eq guards (by omega)]
    have others : ∀ sum, guardedValuesFrom guarded chunk (offset + 1) sum rest =
        valuesFrom rule (chunkSize * chunk + offset + 1) sum rest := fun sum => ih (by omega)
    simp only [others]
    rfl

/-- The number of chunks is at most the number of lines. -/
theorem chunkCount_le (lines : List (List Char)) : chunkCount lines ≤ lines.length := by
  -- Every chunk but the last one is full, and none is empty.
  have wide : chunkSize = 64 := rfl
  rw [chunkCount, wide]
  omega

/-- A chunk is summed without a difference if it is one of the chunks of few enough lines. -/
theorem guardedSubtotal_eq (guards : Guards guarded rule) {lines : List (List Char)} {index : Nat}
    (few : lines.length < 2147483648) (inside : index < chunkCount lines) :
    guardedSubtotal guarded lines index = subtotal rule lines index := by
  have wide : chunkSize = 64 := rfl
  have start : chunkSize * index = 64 * index := by rw [wide]
  have chunks : Guard.chunks chunkSize lines =
      .ok ((List.range (chunkCount lines)).map (chunk lines)) := if_neg (by decide)
  -- Cutting the lines into chunks gives the chunk of each number.
  have found : ((List.range (chunkCount lines)).map (chunk lines))[index]? =
      some (chunk lines index) := by
    rw [List.getElem?_map, List.getElem?_range inside]
    rfl
  have short : (chunk lines index).length ≤ chunkSize := by
    unfold chunk
    exact List.length_take_le _ _
  have count := chunkCount_le lines
  rw [guardedSubtotal, chunks, Guard.ok_bind, Guard.read_eq found, Guard.ok_bind,
    guardedValuesFrom_eq guards (by omega)]
  rfl

/-- A rule finds no digit above nine. -/
def Decimal (rule : DigitRule) : Prop :=
  ∀ text digit, rule text = some digit → digit ≤ 9

/-- A digit character stands for no number above nine. -/
theorem decimal_plainDigit : Decimal plainDigit := by
  intro text digit found
  cases text with
  | nil => cases found
  | cons c rest =>
    simp only [plainDigit, Text.digitValue?] at found
    -- Between the characters for zero and nine there are ten.
    split at found
    · rename_i bounds
      have high := bounds.2
      simp only [Char.le_def, UInt32.le_iff_toNat_le] at high
      have nine : ('9' : Char).val.toNat = 57 := rfl
      have value : c.toNat - 48 = digit := Option.some.inj found
      have same : c.toNat = c.val.toNat := rfl
      omega
    · cases found

/-- Neither does a spelled digit. -/
theorem decimal_anyDigit : Decimal anyDigit := by
  intro text digit found
  -- There are nine spelled digits, which count from one.
  rcases Option.or_eq_some_iff.mp found with plain | ⟨_, spelled⟩
  · exact decimal_plainDigit text digit plain
  · obtain ⟨index, place, rfl⟩ := Option.map_eq_some_iff.mp spelled
    have short : index < 9 := (List.findIdx?_eq_some_iff_findIdx_eq.mp place).1
    omega

/-- A result is a number up to a limit or a returned error. -/
def Bounded (limit : Int) (result : Except Stop Int) : Prop :=
  (∃ value, result = .ok value ∧ 0 ≤ value ∧ value ≤ limit) ∨
    ∃ error, result = .error (.failed error)

/-- The value of a line has two digits. -/
theorem bounded_lineValue (decimal : Decimal rule) {place : Nat}
    (room : place < 18446744073709551615) (line : List Char) :
    Bounded 99 (lineValue rule place line) := by
  have small : ∀ digit ∈ digits rule line, digit ≤ 9 := by
    intro digit member
    rw [digits_eq_filterMap, List.mem_filterMap] at member
    obtain ⟨place, _, found⟩ := member
    obtain ⟨halves, _, named⟩ := Option.bind_eq_some_iff.mp found
    exact decimal halves.2 digit named
  have number : longWord.add place 1 = .ok ((place : Int) + 1) :=
    Bounds.add_of_holds (Guard.holds_size.mpr (by omega))
  unfold lineValue
  -- A line with digits has two of them at most nine, and any other one is an error.
  split
  · rename_i first last head tail
    have first_small := small first (List.mem_of_head? head)
    have last_small := small last (List.mem_of_getLast? tail)
    rw [Bounds.mul_of_holds (holds_word.mpr (by omega)), Guard.ok_bind,
      Bounds.add_of_holds (holds_word.mpr (by omega))]
    exact .inl ⟨_, rfl, by omega, by omega⟩
  · rw [number]
    exact .inr ⟨_, rfl⟩

/-- The values of lines add up to less than a hundred for each line. -/
theorem bounded_valuesFrom (decimal : Decimal rule) {place : Nat} {sum : Int}
    {lines : List (List Char)} (start : 0 ≤ sum)
    (small : sum + 99 * lines.length ≤ 4294967295)
    (room : place + lines.length ≤ 18446744073709551615) :
    Bounded (sum + 99 * lines.length) (valuesFrom rule place sum lines) := by
  -- The induction follows the lines, each of which adds at most 99 to the sum.
  induction lines generalizing place sum with
  | nil => exact .inl ⟨sum, rfl, start, by simp⟩
  | cons line rest ih =>
    rw [List.length_cons] at room small ⊢
    push_cast at small ⊢
    rw [valuesFrom]
    have first : Bounded 99 (lineValue rule place line) := bounded_lineValue decimal (by omega) line
    rcases first with ⟨value, found, low, high⟩ | ⟨error, failed⟩
    · have added : (word.add sum value).mapError Stop.ofOverflow = .ok (sum + value) := by
        rw [Bounds.add_of_holds (holds_word.mpr (by omega))]
        rfl
      rw [found, Guard.ok_bind, added, Guard.ok_bind]
      rcases @ih (place + 1) (sum + value) (by omega) (by omega) (by omega) with
        ⟨total, reached, total_low, total_high⟩ | failed
      · exact .inl ⟨total, reached, total_low, by omega⟩
      · exact .inr failed
    · rw [failed]
      exact .inr ⟨error, rfl⟩

/-- The sum of a chunk is at most 64 times 99. -/
theorem bounded_subtotal (decimal : Decimal rule) {lines : List (List Char)} {index : Nat}
    (few : lines.length < 2147483648) (inside : index < chunkCount lines) :
    Bounded 6336 (subtotal rule lines index) := by
  have wide : chunkSize = 64 := rfl
  have count := chunkCount_le lines
  have short : (chunk lines index).length ≤ chunkSize := by
    unfold chunk
    exact List.length_take_le _ _
  -- A chunk has at most 64 lines, and 64 times 99 is 6336.
  have start : chunkSize * index = 64 * index := by rw [wide]
  have sum : Bounded (0 + 99 * (chunk lines index).length) (subtotal rule lines index) :=
    bounded_valuesFrom decimal (Int.le_refl 0) (by omega) (by omega)
  rcases sum with ⟨total, reached, low, high⟩ | failed
  · exact .inl ⟨total, reached, low, by omega⟩
  · exact .inr failed

/-- Chunks that run one after another give a small sum each, or the run ends with a returned error. -/
theorem sums_of_order (decimal : Decimal rule) {lines : List (List Char)} {order : List Nat}
    (few : lines.length < 2147483648) (inside : ∀ index ∈ order, index < chunkCount lines) :
    (∃ sums, (order.mapM (runChunk rule lines)).outcome = .ok sums ∧
      sums.length = order.length ∧ ∀ sum ∈ sums, 0 ≤ sum.2 ∧ sum.2 ≤ 6336) ∨
    ∃ error, (order.mapM (runChunk rule lines)).outcome = .error (.failed error) := by
  -- The induction follows the order, where the first chunk that fails ends the run.
  induction order with
  | nil => exact .inl ⟨[], rfl, rfl, nofun⟩
  | cons index order ih =>
    have others := ih fun other member => inside other (List.mem_cons_of_mem index member)
    rw [List.mapM_cons]
    rcases bounded_subtotal decimal few (inside index (List.mem_cons_self ..)) with
      ⟨total, found, low, high⟩ | ⟨error, failed⟩
    · have ran : (runChunk rule lines index).outcome = .ok (index, total) := by
        unfold runChunk
        rw [found]
        rfl
      rw [Reporting.bind_of_ok ran]
      rcases others with ⟨sums, later, length, small⟩ | ⟨error, failed⟩
      · refine .inl ⟨(index, total) :: sums, ?_, congrArg (· + 1) length,
          List.forall_mem_cons.mpr ⟨⟨low, high⟩, small⟩⟩
        rw [Reporting.bind_of_ok later]
        rfl
      · exact .inr ⟨error, congrArg Reporting.outcome (Reporting.bind_of_stop failed _)⟩
    · have stopped : (runChunk rule lines index).outcome = .error (.failed error) := by
        unfold runChunk
        rw [failed]
        rfl
      exact .inr ⟨error, congrArg Reporting.outcome (Reporting.bind_of_stop stopped _)⟩

/-- Numbers from zero on are added up in long words if these hold their sum, and overflow otherwise. -/
theorem sum_of_nonneg {numbers : List Int} {start : Int} (low : 0 ≤ start) (held : start < 2 ^ 64)
    (nonneg : ∀ number ∈ numbers, 0 ≤ number) : numbers.foldlM longWord.add start =
      if start + numbers.sum < 2 ^ 64 then .ok (start + numbers.sum) else .error .add := by
  -- No number makes up for an overflow before it.
  induction numbers generalizing start with
  | nil =>
    rw [List.sum_nil, Int.add_zero, if_pos held]
    rfl
  | cons number numbers ih =>
    have first := nonneg number (List.mem_cons_self ..)
    have others : ∀ other ∈ numbers, 0 ≤ other := fun other member =>
      nonneg other (List.mem_cons_of_mem number member)
    have total : 0 ≤ numbers.sum := List.sum_nonneg others
    rw [List.foldlM_cons, List.sum_cons, ← Int.add_assoc]
    by_cases fits : start + number < 2 ^ 64
    · have added : longWord.add start number = .ok (start + number) :=
        Bounds.add_of_holds (Guard.holds_size.mpr (by omega))
      rw [added, Guard.ok_bind, ih (by omega) fits others]
    · have large : ¬longWord.holds (start + number) = true := fun holds =>
        fits (by have := Guard.holds_size.mp holds; omega)
      have overflowed : longWord.add start number = .error .add := by
        rw [Bounds.add, Bounds.check, if_neg large]
      rw [overflowed, Guard.error_bind, if_neg (by omega)]

/-- Chunks in any order lead to an answer or to a returned error. -/
theorem safe_calibrateAlong (decimal : Decimal rule) {lines : List (List Char)} {order : List Nat}
    (few : lines.length < 2147483648) (complete : order.Perm (List.range (chunkCount lines))) :
    Guard.Safe (calibrateAlong rule lines order).outcome := by
  have inside : ∀ index ∈ order, index < chunkCount lines :=
    fun index member => List.mem_range.mp (complete.mem_iff.mp member)
  have count : order.length = chunkCount lines := by
    rw [complete.length_eq, List.length_range]
  have most := chunkCount_le lines
  unfold calibrateAlong
  rcases sums_of_order decimal few inside with ⟨sums, ran, length, small⟩ | ⟨error, failed⟩
  · rw [Reporting.bind_of_ok ran]
    -- Sorting neither adds a sum nor takes one away.
    have total : ∃ total, longWord.sum ((sums.mergeSort fun first second =>
        first.1 ≤ second.1).map (·.2)) = .ok total := by
      have sorted : ∀ number ∈ (sums.mergeSort fun first second => first.1 ≤ second.1).map (·.2),
          0 ≤ number ∧ number ≤ 6336 := by
        intro number member
        obtain ⟨sum, sorted, rfl⟩ := List.mem_map.mp member
        exact small sum (List.mem_mergeSort.mp sorted)
      have bound := List.sum_le_card_nsmul _ _ fun number member => (sorted number member).2
      rw [List.length_map, List.length_mergeSort, nsmul_eq_mul] at bound
      have added := sum_of_nonneg (Int.le_refl 0) (by decide) fun number member =>
        (sorted number member).1
      rw [if_pos (by omega)] at added
      exact ⟨_, added⟩
    obtain ⟨total, added⟩ := total
    simp only [added]
    exact Guard.safe_ok _
  · rw [Reporting.bind_of_stop failed]
    exact Guard.safe_failed error

/-- A guarded part agrees with the part for its rule, in any order of the chunks. -/
theorem agrees_part (guards : Guards guarded rule) (decimal : Decimal rule) {input : String}
    (short : Guard.Short input) {schedule : Nat → List Nat}
    (complete : ∀ count, (schedule count).Perm (List.range count)) (number : Nat)
    (description : Option String) :
    Guard.Agrees input
      (Guard.part number description guardedParse (guardedCalibrate guarded schedule))
      (.part number description parse fun lines =>
        calibrateAlong rule lines (schedule (chunkCount lines))) := by
  have reads : guardedParse input = Guard.parsed ((parse input).map id) := by
    unfold guardedParse
    cases parse input <;> rfl
  apply Guard.agrees_part reads
  intro lines read
  -- No more lines are read than the input has bytes.
  have few : lines.length < 2147483648 := by
    have filled := Text.length_filledLines_le input.toList
    have shape : parse input = if (Text.filledLines input.toList).isEmpty
        then .error (.missingData "no calibration lines")
        else .ok (Text.filledLines input.toList) := rfl
    rw [shape] at read
    split at read
    · cases read
    · cases read
      omega
  have order := complete (chunkCount lines)
  -- Only chunks that there are come up in the order, so each of them agrees.
  have same : (schedule (chunkCount lines)).mapM (guardedRunChunk guarded lines) =
      (schedule (chunkCount lines)).mapM (runChunk rule lines) := by
    apply Reporting.mapM_congr
    intro index member
    have inside : index < chunkCount lines := List.mem_range.mp (order.mem_iff.mp member)
    rw [guardedRunChunk, runChunk, guardedSubtotal_eq guards few inside]
    rfl
  refine ⟨?_, safe_calibrateAlong decimal few order⟩
  show guardedCalibrate guarded schedule lines = _
  rw [guardedCalibrate, calibrateAlong, same]

/-- Both parts are guarded without a difference, and no short input crashes them. -/
theorem guardedProblems_agree {input : String}
    (short : Guard.Short input) {schedule : Nat → List Nat}
    (complete : ∀ count, (schedule count).Perm (List.range count)) :
    List.Forall₂ (Guard.Agrees input) (guardedProblems schedule) (problemsAlong schedule) :=
  -- There are two parts, one for each rule.
  .cons (agrees_part guards_plainDigit decimal_plainDigit short complete 1 _)
    (.cons (agrees_part guards_anyDigit decimal_anyDigit short complete 2 _) .nil)

end SolverHub.Calibration
