import SolverHub.Proofs.Guard
import SolverHub.Proofs.Text.Decimal

/-! A number is read exactly from digits with a sign or without one, if the bounds hold what they stand for. -/

namespace SolverHub.Text

variable {bounds : Bounds} {negative : Bool} {c : Char} {digits text : List Char} {n : Nat} {value : Int}

/-- A text stands for a number: digits, with a sign in front of them or without one. -/
inductive Signed : List Char → Int → Prop
  | plain {digits : List Char} {n : Nat} (numeral : Numeral digits n) : Signed digits n
  | plus {digits : List Char} {n : Nat} (numeral : Numeral digits n) : Signed ('+' :: digits) n
  | minus {digits : List Char} {n : Nat} (numeral : Numeral digits n) : Signed ('-' :: digits) (-n)

/-- A number on one side of zero. -/
def sided (negative : Bool) (n : Nat) : Int :=
  if negative then -n else n

/-- The number that a run of digits makes of the one before it. -/
def extend? (n : Nat) (digits : List Char) : Option Nat :=
  digits.foldlM (fun value c => (digitValue? c).map (10 * value + ·)) n

/-- A run of digits goes on with one digit after the other. -/
theorem extend?_cons : extend? n (c :: digits) =
    (digitValue? c).bind fun digit => extend? (10 * n + digit) digits := by
  -- The first digit is appended before the others.
  rw [extend?, List.foldlM_cons]
  cases digitValue? c <;> rfl

/-- More digits never make a number smaller. -/
theorem le_of_extend? {last : Nat} (extended : extend? n digits = some last) : n ≤ last := by
  -- Each digit multiplies what is before it, and adds to it.
  induction digits generalizing n with
  | nil => exact Nat.le_of_eq (Option.some.inj extended)
  | cons c digits ih =>
    rw [extend?_cons] at extended
    obtain ⟨digit, _, extended⟩ := Option.bind_eq_some_iff.mp extended
    have grown := ih extended
    omega

/-- Only digits make another number of one. -/
theorem isDigit_of_extend? {last : Nat} (extended : extend? n digits = some last) :
    ∀ c ∈ digits, isDigit c = true := by
  -- The value of every digit is asked for, whatever is in front of it.
  induction digits generalizing n with
  | nil => simp
  | cons c digits ih =>
    rw [extend?_cons] at extended
    obtain ⟨digit, found, extended⟩ := Option.bind_eq_some_iff.mp extended
    have first : isDigit c = true := by simp [isDigit, found]
    exact List.forall_mem_cons.mpr ⟨first, ih extended⟩

/-- Digits stand for the number that they make of zero. -/
theorem numeral_iff : Numeral digits n ↔ digits ≠ [] ∧ extend? 0 digits = some n :=
  -- Extending fails at anything but a digit, so the digits need not be told apart first.
  ⟨fun numeral => ⟨numeral.nonempty, numeral.value⟩,
    fun ⟨nonempty, value⟩ => ⟨nonempty, isDigit_of_extend? value, value⟩⟩

/-- A number on a side of zero has grown within bounds if they hold it. -/
theorem grown_sided (zero : bounds.holds 0 = true) :
    Grown bounds negative (sided negative n) ↔ bounds.holds (sided negative n) = true := by
  simp only [Bounds.holds, Bool.and_eq_true, decide_eq_true_eq] at zero ⊢
  -- Numbers of one sign grow away from zero, so only one bound can be reached.
  cases negative <;> simp only [Grown, sided, Bool.false_eq_true, if_false, if_true] <;> omega

/-- One more digit is taken exactly if the number that it leads to has grown within the bounds. -/
theorem appendDigit_eq_ok {digit : Nat} (found : digitValue? c = some digit) :
    appendDigit bounds negative (sided negative n) c = .ok value ↔
      value = sided negative (10 * n + digit) ∧ Grown bounds negative value := by
  -- The bound is tested on the side of zero on which the number lies.
  cases negative <;> simp only [appendDigit, found, sided, Grown, Bool.false_eq_true, if_false, if_true]
  · split
    · simp only [reduceCtorEq, false_iff, not_and]
      omega
    · rw [Except.ok.injEq]
      omega
  · split
    · simp only [reduceCtorEq, false_iff, not_and]
      omega
    · rw [Except.ok.injEq]
      omega

/-- Further digits are taken exactly if the number that they lead to has grown within the bounds. -/
theorem appendDigits_eq_ok (grown : Grown bounds negative (sided negative n)) :
    digits.foldlM (appendDigit bounds negative) (sided negative n) = .ok value ↔
      ∃ last, extend? n digits = some last ∧ value = sided negative last ∧ Grown bounds negative value := by
  induction digits generalizing n with
  | nil =>
    simp only [List.foldlM_nil, extend?, Option.pure_def, Option.some.injEq, exists_eq_left']
    constructor
    · rintro ⟨⟩
      exact ⟨rfl, grown⟩
    · rintro ⟨rfl, _⟩
      rfl
  | cons c digits ih =>
    rw [List.foldlM_cons, bind_eq_ok, extend?_cons]
    cases found : digitValue? c with
    | none =>
      have stopped : appendDigit bounds negative (sided negative n) c = .error .invalidDigit := by
        rw [appendDigit, found]
      simp [stopped]
    | some digit =>
      simp only [appendDigit_eq_ok found, Option.bind_some]
      constructor
      · rintro ⟨next, ⟨rfl, held⟩, rest⟩
        exact (ih held).mp rest
      · rintro ⟨last, extended, rfl, held⟩
        -- What the digits lead to is no nearer to zero than what comes before.
        have before := le_of_extend? extended
        have held' : Grown bounds negative (sided negative (10 * n + digit)) := by
          cases negative <;> simp only [Grown, sided, Bool.false_eq_true, if_false, if_true] at held ⊢ <;>
            omega
        exact ⟨_, ⟨rfl, held'⟩, (ih held').mpr ⟨last, extended, rfl, held⟩⟩

/-- Digits are read exactly if the bounds hold the number that they stand for on its side of zero. -/
theorem readMagnitude_eq_ok (zero : bounds.holds 0 = true) :
    readMagnitude bounds negative digits = .ok value ↔
      ∃ n, Numeral digits n ∧ value = sided negative n ∧ bounds.holds value = true := by
  have start : Grown bounds negative (sided negative 0) :=
    (grown_sided zero).mpr (by cases negative <;> exact zero)
  have origin : sided negative 0 = 0 := by cases negative <;> rfl
  rw [readMagnitude]
  cases digits with
  | nil => simp [numeral_iff]
  | cons c digits =>
    simp only [List.isEmpty_cons, Bool.false_eq_true, if_false, ← origin, appendDigits_eq_ok start,
      numeral_iff]
    -- Reading starts from zero, which is in bounds and of either sign.
    constructor
    · rintro ⟨n, extended, rfl, held⟩
      exact ⟨n, ⟨List.cons_ne_nil _ _, extended⟩, rfl, (grown_sided zero).mp held⟩
    · rintro ⟨n, ⟨_, extended⟩, rfl, held⟩
      exact ⟨n, extended, rfl, (grown_sided zero).mpr held⟩

/-- A number is read exactly from a text that stands for it, if the bounds hold it and reach below zero. -/
theorem readInt_eq_ok_iff (zero : bounds.holds 0 = true) (below : bounds.least < 0) :
    readInt bounds text = .ok value ↔ Signed text value ∧ bounds.holds value = true := by
  constructor
  · intro read
    unfold readInt at read
    split at read
    · cases read
    · obtain ⟨n, numeral, rfl, held⟩ := (readMagnitude_eq_ok zero).mp read
      exact ⟨.plus numeral, held⟩
    · rw [if_pos below] at read
      obtain ⟨n, numeral, rfl, held⟩ := (readMagnitude_eq_ok zero).mp read
      exact ⟨.minus numeral, held⟩
    · obtain ⟨n, numeral, rfl, held⟩ := (readMagnitude_eq_ok zero).mp read
      exact ⟨.plain numeral, held⟩
  · rintro ⟨signed, held⟩
    cases signed with
    | @plain _ n numeral =>
      -- A digit is no sign, so that the text is read as it is.
      have same : readInt bounds text = readMagnitude bounds false text := by
        unfold readInt
        split
        · exact absurd rfl numeral.nonempty
        · exact absurd (numeral.all_digits '+' List.mem_cons_self) (by decide)
        · exact absurd (numeral.all_digits '-' List.mem_cons_self) (by decide)
        · rfl
      rw [same, readMagnitude_eq_ok zero]
      exact ⟨n, numeral, rfl, held⟩
    | @plus _ n numeral => exact (readMagnitude_eq_ok zero).mpr ⟨n, numeral, rfl, held⟩
    | @minus _ n numeral =>
      rw [readInt, if_pos below]
      exact (readMagnitude_eq_ok zero).mpr ⟨n, numeral, rfl, held⟩

end SolverHub.Text
