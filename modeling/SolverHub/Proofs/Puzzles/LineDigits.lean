import SolverHub.Proofs.Puzzles.CalibrationGuard

/-! The value of a line is made of the digits at the first and at the last of its bytes where a digit starts.

Digits are told by the bytes of the line alone, so spelled digits may overlap and other characters may be wide.
The digits that the rules find from character to character are those of the bytes. -/

namespace SolverHub.Calibration

/-- The byte at a place of a line is the character of a digit. -/
def PlainAt (line : List Char) (place digit : Nat) : Prop :=
  digit < 10 ∧ (Text.bytes line)[place]? = some (UInt8.ofNat (48 + digit))

/-- The bytes of a line from a place on start with those of a spelled digit. -/
def SpelledAt (line : List Char) (place digit : Nat) : Prop :=
  ∃ word, (word, digit) ∈ spelledDigits.zipIdx 1 ∧
    Text.bytes word.toList <+: (Text.bytes line).drop place

/-- A digit starts at a place of a line, for a part that knows spelled digits or does not. -/
def DigitAt (spelled : Bool) (line : List Char) (place digit : Nat) : Prop :=
  PlainAt line place digit ∨ spelled = true ∧ SpelledAt line place digit

/-- No digit starts at any place of a line. -/
def Lacks (spelled : Bool) (line : List Char) : Prop :=
  ∀ place digit, ¬DigitAt spelled line place digit

/-- A value has the digit at the first place of a line as its tens and the digit at the last place as its ones. -/
def HasValue (spelled : Bool) (line : List Char) (value : Nat) : Prop :=
  ∃ first last tens ones, DigitAt spelled line first tens ∧ DigitAt spelled line last ones ∧
    (∀ place digit, DigitAt spelled line place digit → first ≤ place ∧ place ≤ last) ∧
    value = 10 * tens + ones

/-- The rule of a part that knows spelled digits or does not. -/
def ruleOf (spelled : Bool) : DigitRule := if spelled then anyDigit else plainDigit

/-- The value that a rule finds in a line. -/
def valueOf? (rule : DigitRule) (line : List Char) : Option Nat := do
  return 10 * (← (digits rule line).head?) + (← (digits rule line).getLast?)

section Places

variable {line : List Char} {place digit : Nat}

/-- A place within a line has a byte. -/
theorem exists_front (inside : place < Text.byteCount line) :
    ∃ byte more, (Text.bytes line).drop place = byte :: more ∧
      (Text.bytes line)[place]? = some byte := by
  -- A place before the end of the bytes has a byte there.
  have within : place < (Text.bytes line).length := by rwa [Text.length_bytes]
  exact ⟨_, _, List.drop_eq_getElem_cons within, List.getElem?_eq_getElem within⟩

/-- A digit character stands at a place exactly if the plain rule finds it there. -/
theorem plainAt_iff (inside : place < Text.byteCount line) :
    PlainAt line place digit ↔ digitAt? plainDigit line place = some digit := by
  obtain ⟨byte, more, front, read⟩ := exists_front inside
  have guards := guards_plainDigit line place inside
  rw [guardedPlainDigit_eq front] at guards
  have found := Except.ok.inj guards
  rw [PlainAt, read, digitAt?, Option.some.injEq, ← UInt8.toNat_inj, UInt8.toNat_ofNat']
  generalize (Text.splitAtByte? place line).bind (fun halves => plainDigit halves.2) = result at *
  have small := byte.toNat_lt
  -- The byte is the character of a digit exactly if it lies ten or fewer above that of zero.
  cases result with
  | none =>
    split at found
    · cases found
    · simp only [reduceCtorEq, iff_false]
      omega
  | some value =>
    split at found
    · have same : (byte.toNat : Int) - 48 = value := Option.some.inj found
      simp only [Option.some.injEq]
      omega
    · cases found

/-- No spelled digit starts with another one. -/
theorem spelledDigits_apart : ∀ first ∈ spelledDigits.zipIdx 1, ∀ second ∈ spelledDigits.zipIdx 1,
    Text.bytes first.1.toList <+: Text.bytes second.1.toList → first.2 = second.2 := by
  -- No spelling begins another one, as evaluating all pairs shows.
  decide +kernel

/-- Spelled digits start with small letters. -/
theorem spelledDigits_letter : ∀ entry ∈ spelledDigits.zipIdx 1,
    ∀ byte ∈ (Text.bytes entry.1.toList).head?, 97 ≤ byte.toNat := by
  -- Small letters come behind the digits in the order of bytes.
  decide +kernel

/-- The bytes that start with a spelled digit are those in which the search finds it. -/
theorem exists_spelled_iff {rest : List UInt8} :
    (∃ word, (word, digit) ∈ spelledDigits.zipIdx 1 ∧ Text.bytes word.toList <+: rest) ↔
      (spelledDigits.findIdx? fun word => (Text.bytes word.toList).isPrefixOf rest).map (· + 1) =
        some digit := by
  -- The search finds some word, and the bytes do not start with two of them.
  have listed : ∀ {index}, (spelledDigits.findIdx? fun word =>
      (Text.bytes word.toList).isPrefixOf rest) = some index →
      ∃ word, (word, index + 1) ∈ spelledDigits.zipIdx 1 ∧ Text.bytes word.toList <+: rest := by
    intro index found
    obtain ⟨inside, starts, _⟩ := List.findIdx?_eq_some_iff_getElem.mp found
    refine ⟨spelledDigits[index], ?_, List.isPrefixOf_iff_prefix.mp starts⟩
    rw [List.mk_mem_zipIdx_iff_le_and_getElem?_sub]
    exact ⟨Nat.le_add_left 1 index, List.getElem?_eq_getElem inside⟩
  constructor
  · rintro ⟨word, member, starts⟩
    cases found : spelledDigits.findIdx? fun word => (Text.bytes word.toList).isPrefixOf rest with
    | none =>
      have absent := List.findIdx?_eq_none_iff.mp found word (List.fst_mem_of_mem_zipIdx member)
      rw [List.isPrefixOf_iff_prefix.mpr starts] at absent
      cases absent
    | some index =>
      obtain ⟨other, other_member, other_starts⟩ := listed found
      have same : index + 1 = digit := by
        rcases List.prefix_or_prefix_of_prefix other_starts starts with shorter | longer
        · exact spelledDigits_apart _ other_member _ member shorter
        · exact (spelledDigits_apart _ member _ other_member longer).symm
      rw [Option.map_some, same]
  · intro searched
    obtain ⟨index, found, rfl⟩ := Option.map_eq_some_iff.mp searched
    exact listed found

/-- A spelled digit starts at a place exactly if the characters from there on are found to start with it. -/
theorem spelledAt_iff (inside : place < Text.byteCount line) :
    SpelledAt line place digit ↔ digitAt? spelledDigit line place = some digit := by
  -- A place in the line has bytes behind it, so the search among them applies.
  rw [SpelledAt, exists_spelled_iff, findIdx?_spelledDigits inside]

/-- A spelled digit does not start where the character of a digit stands. -/
theorem not_plainAt_of_spelledAt {other : Nat} (spelled : SpelledAt line place digit) :
    ¬PlainAt line place other := by
  obtain ⟨word, member, starts⟩ := spelled
  rintro ⟨small, read⟩
  have narrow := spelledDigits_narrow word (List.fst_mem_of_mem_zipIdx member)
  obtain ⟨c, rest, shape⟩ := List.exists_cons_of_ne_nil narrow.1
  obtain ⟨byte, more, front⟩ := Text.exists_bytes_cons c rest
  have letter : 97 ≤ byte.toNat := by
    apply spelledDigits_letter _ member
    rw [shape, front]
    rfl
  -- The first byte of the word would be the byte of the digit.
  obtain ⟨later, joined⟩ := starts
  have first : (Text.bytes line)[place]? = some byte := by
    rw [← List.head?_drop, ← joined, shape, front]
    rfl
  have same : byte = UInt8.ofNat (48 + other) := Option.some.inj (first.symm.trans read)
  rw [same, UInt8.toNat_ofNat'] at letter
  omega

variable {spelled : Bool}

/-- A digit only starts at a byte of the line. -/
theorem lt_of_digitAt (starts : DigitAt spelled line place digit) : place < Text.byteCount line := by
  by_contra far
  have behind : (Text.bytes line).length ≤ place := by
    rw [Text.length_bytes]
    exact Nat.le_of_not_lt far
  rcases starts with ⟨_, read⟩ | ⟨_, word, member, starts⟩
  · rw [List.getElem?_eq_none behind] at read
    cases read
  · -- Behind the last byte there would have to be a word without bytes.
    rw [List.drop_eq_nil_of_le behind, List.prefix_nil] at starts
    have narrow := spelledDigits_narrow word (List.fst_mem_of_mem_zipIdx member)
    obtain ⟨c, rest, shape⟩ := List.exists_cons_of_ne_nil narrow.1
    obtain ⟨byte, more, front⟩ := Text.exists_bytes_cons c rest
    rw [shape, front] at starts
    cases starts

/-- The digit that starts at a place is the one that the rule finds there. -/
theorem digitAt_iff : DigitAt spelled line place digit ↔
    place < Text.byteCount line ∧ digitAt? (ruleOf spelled) line place = some digit := by
  -- Both sides say nothing about places behind the line.
  have within : DigitAt spelled line place digit → place < Text.byteCount line := lt_of_digitAt
  rw [← and_iff_right_of_imp within]
  apply and_congr_right
  intro inside
  cases spelled with
  | false => simp [DigitAt, ruleOf, plainAt_iff inside]
  | true =>
    have apart : digitAt? spelledDigit line place = some digit →
        digitAt? plainDigit line place = none := by
      intro found
      rw [Option.eq_none_iff_forall_ne_some]
      intro other
      rw [ne_eq, ← plainAt_iff inside]
      exact not_plainAt_of_spelledAt ((spelledAt_iff inside).mpr found)
    simp only [DigitAt, ruleOf, true_and, if_true, plainAt_iff inside, spelledAt_iff inside,
      digitAt?_anyDigit, Option.or_eq_some_iff]
    exact or_congr_right (and_iff_right_of_imp apart).symm

end Places

section Values

variable {spelled : Bool} {line : List Char} {value : Nat}

/-- A search finds the entry that comes before all others that would do. -/
theorem exists_of_findSome? {α β : Type} {list : List α} {before : α → α → Prop} {test : α → Option β}
    {result : β} (ordered : list.Pairwise before) (found : list.findSome? test = some result) :
    ∃ entry ∈ list, test entry = some result ∧
      ∀ other ∈ list, test other ≠ none → other = entry ∨ before entry other := by
  -- What is found first comes before whatever else would have been found.
  obtain ⟨front, entry, back, rfl, taken, passed⟩ := List.findSome?_eq_some_iff.mp found
  refine ⟨entry, by simp, taken, ?_⟩
  intro other member suits
  rcases List.mem_append.mp member with early | late
  · exact absurd (passed other early) suits
  · rcases List.mem_cons.mp late with rfl | later
    · exact .inl rfl
    · exact .inr (List.rel_of_pairwise_cons (List.pairwise_append.mp ordered).2.1 later)

/-- A line has at most one value. -/
theorem HasValue.unique {other : Nat} (first : HasValue spelled line value)
    (second : HasValue spelled line other) : value = other := by
  obtain ⟨front, back, tens, ones, begins, ends, within, rfl⟩ := first
  obtain ⟨front', back', tens', ones', begins', ends', within', rfl⟩ := second
  -- Each first place is no later than the other, and so with the last places.
  have same_front : front = front' :=
    Nat.le_antisymm (within _ _ begins').1 (within' _ _ begins).1
  have same_back : back = back' := Nat.le_antisymm (within' _ _ ends).2 (within _ _ ends').2
  subst same_front same_back
  have tens_eq := (digitAt_iff.mp begins).2.symm.trans (digitAt_iff.mp begins').2
  have ones_eq := (digitAt_iff.mp ends).2.symm.trans (digitAt_iff.mp ends').2
  rw [Option.some.inj tens_eq, Option.some.inj ones_eq]

/-- The value that the rule finds is the value of the line. -/
theorem hasValue_of_valueOf? (found : valueOf? (ruleOf spelled) line = some value) :
    HasValue spelled line value := by
  obtain ⟨tens, head, rest⟩ := Option.bind_eq_some_iff.mp found
  obtain ⟨ones, last, same⟩ := Option.bind_eq_some_iff.mp rest
  rw [digits_eq_filterMap, List.head?_filterMap] at head
  rw [digits_eq_filterMap, List.getLast?_filterMap] at last
  -- The digits at both ends are found from the front and from the back.
  obtain ⟨front, front_inside, begins, first⟩ := exists_of_findSome? List.pairwise_lt_range head
  obtain ⟨back, back_inside, ends, final⟩ :=
    exists_of_findSome? (List.pairwise_reverse.mpr List.pairwise_lt_range) last
  refine ⟨front, back, tens, ones, digitAt_iff.mpr ⟨List.mem_range.mp front_inside, begins⟩,
    digitAt_iff.mpr ⟨List.mem_range.mp (List.mem_reverse.mp back_inside), ends⟩, ?_,
    (Option.some.inj same).symm⟩
  intro place digit starts
  obtain ⟨inside, found⟩ := digitAt_iff.mp starts
  have suits : digitAt? (ruleOf spelled) line place ≠ none := by
    rw [found]
    exact Option.some_ne_none digit
  have member := List.mem_range.mpr inside
  -- Any other digit stands between them.
  have early := first place member suits
  have late := final place (List.mem_reverse.mpr member) suits
  omega

/-- A rule finds no value where it finds no digit. -/
theorem valueOf?_eq_none {rule : DigitRule} : valueOf? rule line = none ↔ digits rule line = [] := by
  -- A line with any digit has a first and a last one.
  unfold valueOf?
  cases digits rule line with
  | nil => simp
  | cons digit others => simp [List.getLast?_cons]

/-- A line lacks digits exactly if the rule finds no value. -/
theorem lacks_iff : Lacks spelled line ↔ valueOf? (ruleOf spelled) line = none := by
  rw [valueOf?_eq_none, digits_eq_filterMap, List.filterMap_eq_nil_iff]
  -- No place has a digit exactly if none is collected.
  constructor
  · intro lacks place member
    rw [Option.eq_none_iff_forall_ne_some]
    exact fun digit found =>
      lacks place digit (digitAt_iff.mpr ⟨List.mem_range.mp member, found⟩)
  · intro none place digit starts
    obtain ⟨inside, found⟩ := digitAt_iff.mp starts
    rw [none place (List.mem_range.mpr inside)] at found
    cases found

/-- The value of a line is the one that the rule finds. -/
theorem hasValue_iff : HasValue spelled line value ↔ valueOf? (ruleOf spelled) line = some value := by
  -- Of the two values of a line, the one found and the one claimed, each is the only one.
  constructor
  · intro valued
    cases found : valueOf? (ruleOf spelled) line with
    | none =>
      obtain ⟨front, _, tens, _, begins, _⟩ := valued
      exact absurd begins (lacks_iff.mpr found front tens)
    | some other => rw [valued.unique (hasValue_of_valueOf? found)]
  · exact hasValue_of_valueOf?

/-- A line does not lack digits exactly if one starts somewhere. -/
theorem not_lacks_iff : ¬Lacks spelled line ↔ ∃ place digit, DigitAt spelled line place digit := by
  simp [Lacks]

/-- A line has a value exactly if it does not lack digits. -/
theorem exists_hasValue_iff : (∃ value, HasValue spelled line value) ↔ ¬Lacks spelled line := by
  -- A line lacks digits exactly if no value is found.
  rw [lacks_iff, ← ne_eq, Option.ne_none_iff_exists']
  exact exists_congr fun value => hasValue_iff

/-- The rules find digits from zero to nine. -/
theorem decimal_ruleOf (spelled : Bool) : Decimal (ruleOf spelled) := by
  -- Each of the two rules was checked by itself.
  cases spelled with
  | false => exact decimal_plainDigit
  | true => exact decimal_anyDigit

/-- Two digits make a value below a hundred. -/
theorem HasValue.le (valued : HasValue spelled line value) : value ≤ 99 := by
  obtain ⟨front, back, tens, ones, begins, ends, _, rfl⟩ := valued
  -- Both digits are at most nine.
  have small : ∀ {place digit}, DigitAt spelled line place digit → digit ≤ 9 := by
    intro place digit starts
    obtain ⟨halves, _, named⟩ := Option.bind_eq_some_iff.mp (digitAt_iff.mp starts).2
    exact decimal_ruleOf spelled halves.2 digit named
  have tens_small := small begins
  have ones_small := small ends
  omega

end Values

end SolverHub.Calibration
