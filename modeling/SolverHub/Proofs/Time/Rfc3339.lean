import Mathlib.Data.List.Basic
import SolverHub.Proofs.Text.Decimal
import SolverHub.Time.Rfc3339

/-! The text of an instant follows RFC 3339, and the instant is read back from it. -/

namespace SolverHub

namespace Text

variable {digits rest : List Char} {n : Nat}

/-- Nothing is trimmed in front of a digit. -/
theorem Numeral.trimStart (numeral : Numeral digits n) :
    Text.trimStart (digits ++ rest) = digits ++ rest := by
  -- A numeral has a first digit, and a digit is not blank.
  cases digits with
  | nil => exact absurd rfl numeral.nonempty
  | cons c digits =>
    have shown := isBlank_digit (numeral.all_digits c List.mem_cons_self)
    simp [Text.trimStart, shown]

end Text

namespace Instant

open Text

variable {digits rest : List Char} {n most : Nat}

/-- A leap second, if the instant lies in one, follows the last second of its minute. -/
def Timely (instant : Instant) : Prop :=
  1000000000 ≤ instant.nano → instant.second % 60 = 59

instance : DecidablePred Timely := fun instant => by unfold Timely; infer_instance

/-- The instant at the same time whose leap second, if it lies in one, ends a minute.

A leap second after any other second is the second behind it. -/
def settled (instant : Instant) : Instant :=
  if early : 1000000000 ≤ instant.nano ∧ instant.second % 60 ≠ 59 then
    { instant with
      second := instant.second + 1
      nano := instant.nano - 1000000000
      valid :=
        -- The last second of a day is the last one of its minute, so a second is left behind.
        have seconds := instant.valid.second_last
        have nanos := instant.valid.nano_last
        { instant.valid with second_last := by omega, nano_last := by omega } }
  else instant

/-- An instant is settled already exactly if its leap second stands where leap seconds stand. -/
theorem settled_eq_self_iff {instant : Instant} : instant.settled = instant ↔ instant.Timely := by
  unfold settled Timely
  split
  · -- A second that moves on is another one.
    rename_i early
    refine ⟨fun same => ?_, fun timely => absurd (timely early.1) early.2⟩
    have moved : instant.second + 1 = instant.second := congrArg Instant.second same
    omega
  · rename_i settled
    exact ⟨fun _ leap => by_contra fun elsewhere => settled ⟨leap, elsewhere⟩, fun _ => rfl⟩

/-- A settled instant has its leap second at the end of a minute. -/
theorem timely_settled (instant : Instant) : instant.settled.Timely := by
  unfold settled
  split
  · -- What is left of the fraction is below a second.
    intro leap
    have nanos := instant.valid.nano_last
    dsimp only at leap
    omega
  · rename_i settled
    exact fun leap => by_contra fun elsewhere => settled ⟨leap, elsewhere⟩

/-- A number is scanned where no more digits follow than are allowed. -/
theorem scanDigits_numeral (numeral : Numeral digits n) (short : digits.length ≤ most)
    (free : DigitFree rest) : scanDigits most (digits ++ rest) = some (n, rest) := by
  -- The numeral is no longer than what is scanned, and no digit follows it.
  have stops : (rest.take (most - digits.length)).takeWhile isDigit = [] := by
    cases rest with
    | nil => simp
    | cons c rest =>
      cases most - digits.length with
      | zero => rfl
      | succ => simp [free c rfl]
  have taken : ((digits ++ rest).take most).takeWhile isDigit = digits := by
    rw [List.take_append, List.take_of_length_le short, List.takeWhile_append_of_pos numeral.all_digits,
      stops, List.append_nil]
  have nonempty : digits.isEmpty = false := by simpa using numeral.nonempty
  simp [scanDigits, taken, nonempty, numeral.value]

/-- Two digits stand for a number. -/
def TwoDigits (digits : List Char) (n : Nat) : Prop :=
  Numeral digits n ∧ digits.length = 2

/-- A part of a date or time is scanned from two digits. -/
theorem TwoDigits.scanPart {least : Nat} (two : TwoDigits digits n) (free : DigitFree rest)
    (within : least ≤ n ∧ n ≤ most) :
    Instant.scanPart least most (digits ++ rest) = some (n, rest) := by
  -- A part is two digits with a value within its bounds.
  rw [Instant.scanPart, two.1.trimStart, scanDigits_numeral two.1 (Nat.le_of_eq two.2) free]
  simp [within]

/-- A mark is scanned where it stands. -/
theorem scanMark_cons (mark : Char) (shown : isBlank mark = false) :
    scanMark mark (mark :: rest) = some rest := by
  -- A mark is scanned behind blanks, of which there are none.
  simp [scanMark, trimStart, shown]

/-- The parts of a text that names an instant in UTC. -/
structure Stamp where
  sign : List Char
  year : List Char
  month : List Char
  day : List Char
  hour : List Char
  minute : List Char
  second : List Char
  fraction : List Char

/-- The text of some parts, with the marks between them. -/
def Stamp.text (stamp : Stamp) : List Char :=
  stamp.sign ++ (stamp.year ++ '-' :: (stamp.month ++ '-' :: (stamp.day ++ 'T' ::
    (stamp.hour ++ ':' :: (stamp.minute ++ ':' :: (stamp.second ++ (stamp.fraction ++ ['Z'])))))))

/-- A fraction has three, six or nine digits, or it is left out where it is zero. -/
def IsFraction (fraction : List Char) (nano : Nat) : Prop :=
  fraction = [] ∧ nano = 0 ∨
    ∃ digits value, fraction = '.' :: digits ∧ Numeral digits value ∧
      (digits.length = 3 ∨ digits.length = 6 ∨ digits.length = 9) ∧
        value * 10 ^ (9 - digits.length) = nano

/-- Parts name an instant, with a sign only where the year needs other than four digits.

A leap second is the sixtieth second of its minute. -/
structure Stamp.Names (stamp : Stamp) (instant : Instant) : Prop where
  sign : stamp.sign = if 0 ≤ instant.year ∧ instant.year ≤ 9999 then []
    else if instant.year < 0 then ['-'] else ['+']
  year : Numeral stamp.year instant.year.natAbs
  year_length : 4 ≤ stamp.year.length ∧ (stamp.sign = [] → stamp.year.length = 4)
  month : TwoDigits stamp.month instant.month
  day : TwoDigits stamp.day instant.day
  hour : TwoDigits stamp.hour (instant.second / 3600)
  minute : TwoDigits stamp.minute (instant.second / 60 % 60)
  second : TwoDigits stamp.second (instant.second % 60 + instant.nano / 1000000000)
  fraction : IsFraction stamp.fraction (instant.nano % 1000000000)

/-- The parts of the form of an instant. -/
def stamp (instant : Instant) : Stamp where
  sign := if 0 ≤ instant.year ∧ instant.year ≤ 9999 then []
    else if instant.year < 0 then ['-'] else ['+']
  year := paddedDigits 4 instant.year.natAbs
  month := paddedDigits 2 instant.month
  day := paddedDigits 2 instant.day
  hour := paddedDigits 2 (instant.second / 3600)
  minute := paddedDigits 2 (instant.second / 60 % 60)
  second := paddedDigits 2 (instant.second % 60 + instant.nano / 1000000000)
  fraction := fractionForm (instant.nano % 1000000000)

/-- The form of an instant is the text of its parts. -/
theorem form_eq_text (instant : Instant) : form instant = (stamp instant).text := by
  simp only [form, yearForm, timeForm, Stamp.text, stamp, List.append_assoc, List.cons_append]
  -- The zone follows the time, with or without a fraction.
  split
  · rfl
  · split <;> rfl

/-- A number below a hundred has two padded digits. -/
theorem twoDigits_paddedDigits (small : n < 100) : TwoDigits (paddedDigits 2 n) n :=
  ⟨numeral_paddedDigits 2 n, length_paddedDigits small⟩

/-- The form of a fraction below a second is one. -/
theorem isFraction_fractionForm (small : n < 1000000000) : IsFraction (fractionForm n) n := by
  unfold fractionForm
  split
  · rename_i zero
    exact .inl ⟨rfl, zero⟩
  split
  · -- The last six digits are zeros.
    rename_i thousandths
    have length : (paddedDigits 3 (n / 1000000)).length = 3 := length_paddedDigits (by omega)
    refine .inr ⟨_, _, rfl, numeral_paddedDigits _ _, .inl length, ?_⟩
    rw [length]
    omega
  split
  · -- The last three digits are zeros.
    rename_i millionths
    have length : (paddedDigits 6 (n / 1000)).length = 6 := length_paddedDigits (by omega)
    refine .inr ⟨_, _, rfl, numeral_paddedDigits _ _, .inr (.inl length), ?_⟩
    rw [length]
    omega
  · have length : (paddedDigits 9 n).length = 9 := length_paddedDigits (by omega)
    refine .inr ⟨_, _, rfl, numeral_paddedDigits _ _, .inr (.inr length), ?_⟩
    rw [length]
    omega

/-- The parts of the form of an instant name it. -/
theorem names_stamp (instant : Instant) : (stamp instant).Names instant := by
  obtain ⟨year, month, day, second, nano, valid⟩ := instant
  have days := Nat.le_trans valid.day_last (daysInMonth_le year month)
  have months := valid.month_last
  have seconds := valid.second_last
  have nanos := valid.nano_last
  refine ⟨rfl, numeral_paddedDigits _ _, ⟨le_length_paddedDigits _ _, fun unsigned => ?_⟩,
    twoDigits_paddedDigits (Nat.lt_of_le_of_lt months (by decide)),
    twoDigits_paddedDigits (Nat.lt_of_le_of_lt days (by decide)), twoDigits_paddedDigits ?_,
    twoDigits_paddedDigits ?_, twoDigits_paddedDigits ?_, isFraction_fractionForm ?_⟩
  · -- A year without a sign is below ten thousand.
    have small : year.natAbs < 10 ^ 4 := by
      simp only [stamp] at unsigned
      split at unsigned
      · omega
      · split at unsigned <;> cases unsigned
    exact length_paddedDigits small
  all_goals
    show _ < _
    dsimp only
    omega

/-- A year without a sign is scanned from four digits. -/
theorem scanYear_numeral (numeral : Numeral digits n) (four : digits.length = 4)
    (free : DigitFree rest) : scanYear (digits ++ rest) = some ((n : Int), rest) := by
  have scanned := scanDigits_numeral numeral (Nat.le_of_eq four) free
  rw [scanYear, numeral.trimStart]
  -- The first character is a digit and no sign.
  cases digits with
  | nil => cases four
  | cons c digits =>
    have digit := numeral.all_digits c List.mem_cons_self
    split
    · rename_i same
      cases same
      cases digit
    · rename_i same
      cases same
      cases digit
    · simp only [scanned, Option.bind_eq_bind, Option.bind_some]
      rfl

/-- A year is scanned from its sign and its digits. -/
theorem Stamp.Names.scanYear {instant : Instant} {stamp : Stamp} (names : stamp.Names instant)
    (free : DigitFree rest) :
    Instant.scanYear (stamp.sign ++ (stamp.year ++ rest)) = some (instant.year, rest) := by
  have least : stamp.year.length ≤ (stamp.year ++ rest).length := by simp
  have scanned := scanDigits_numeral names.year least free
  have sign := names.sign
  split at sign
  · -- Four digits stand for the year itself.
    rename_i within
    have same : (instant.year.natAbs : Int) = instant.year := by omega
    rw [sign, List.nil_append, scanYear_numeral names.year (names.year_length.2 sign) free, same]
  · split at sign
    · rename_i negative
      have same : -(instant.year.natAbs : Int) = instant.year := by omega
      have trimmed : trimStart ('-' :: (stamp.year ++ rest)) = '-' :: (stamp.year ++ rest) := rfl
      rw [sign, List.singleton_append, Instant.scanYear, trimmed]
      simp only [scanned, Option.bind_eq_bind, Option.bind_some, same]
      rfl
    · rename_i positive
      have same : (instant.year.natAbs : Int) = instant.year := by omega
      have trimmed : trimStart ('+' :: (stamp.year ++ rest)) = '+' :: (stamp.year ++ rest) := rfl
      rw [sign, List.singleton_append, Instant.scanYear, trimmed]
      simp only [scanned, Option.bind_eq_bind, Option.bind_some, same]
      rfl

/-- A fraction is scanned up to what is no digit. -/
theorem scanFraction_isFraction {fraction : List Char} (is_fraction : IsFraction fraction n) :
    scanFraction (fraction ++ ['Z']) = some (n, ['Z']) := by
  -- A fraction is left out, or it has a point and no more digits than are scanned.
  rcases is_fraction with ⟨rfl, rfl⟩ | ⟨digits, value, rfl, numeral, length, rfl⟩
  · rfl
  · have stops : (digits ++ ['Z']).takeWhile isDigit = digits ∧
        (digits ++ ['Z']).dropWhile isDigit = ['Z'] := by
      have free : DigitFree ['Z'] := digitFree_cons rfl
      have span := spanDigits_append numeral.all_digits free
      exact Prod.mk.inj span
    have short : digits.take 9 = digits := List.take_of_length_le (by omega)
    have nonempty : digits.isEmpty = false := by simpa using numeral.nonempty
    simp [scanFraction, stops, short, nonempty, numeral.value]

/-- An instant is what its own parts show in UTC. -/
theorem ofLocal?_zero (instant : Instant) :
    ofLocal? instant.year instant.month instant.day instant.second instant.nano 0 = some instant := by
  obtain ⟨year, month, day, second, nano, valid⟩ := instant
  have seconds := valid.second_last
  -- Without an offset the day stays the same.
  have after : ¬(second : Int) < 0 := by omega
  have before : ¬86400 ≤ (second : Int) := by omega
  simp [ofLocal?, valid, after, before, ofParts?]

/-- Parts that name an instant name the settled one as well. -/
theorem Stamp.Names.settled {instant : Instant} {stamp : Stamp} (names : stamp.Names instant) :
    stamp.Names instant.settled := by
  unfold Instant.settled
  split
  · -- The next second lies in the same minute, and the text counts the leap second already.
    rename_i early
    obtain ⟨leap, elsewhere⟩ := early
    have nanos := instant.valid.nano_last
    have hour : (instant.second + 1) / 3600 = instant.second / 3600 := by omega
    have minute : (instant.second + 1) / 60 % 60 = instant.second / 60 % 60 := by omega
    have second : (instant.second + 1) % 60 + (instant.nano - 1000000000) / 1000000000 =
        instant.second % 60 + instant.nano / 1000000000 := by omega
    have fraction : (instant.nano - 1000000000) % 1000000000 = instant.nano % 1000000000 := by omega
    exact { names with
      hour := by rw [hour]; exact names.hour
      minute := by rw [minute]; exact names.minute
      second := by rw [second]; exact names.second
      fraction := by rw [fraction]; exact names.fraction }
  · exact names

/-- The instant that some parts name is read from their text where its leap second ends a minute. -/
theorem read?_text_of_timely {instant : Instant} {stamp : Stamp} (names : stamp.Names instant)
    (timely : instant.Timely) : read? (String.ofList stamp.text) = some instant := by
  have valid := instant.valid
  have days := Nat.le_trans valid.day_last (daysInMonth_le instant.year instant.month)
  have seconds := valid.second_last
  have nanos := valid.nano_last
  have behind : DigitFree (stamp.fraction ++ ['Z']) := by
    rcases names.fraction with ⟨none, _⟩ | ⟨digits, _, some, _⟩
    · rw [none]
      exact digitFree_cons rfl
    · rw [some]
      exact digitFree_cons rfl
  have dash {rest : List Char} : DigitFree ('-' :: rest) := digitFree_cons rfl
  have letter {rest : List Char} : DigitFree ('T' :: rest) := digitFree_cons rfl
  have colon {rest : List Char} : DigitFree (':' :: rest) := digitFree_cons rfl
  have months : 1 ≤ instant.month ∧ instant.month ≤ 12 := ⟨valid.month_first, valid.month_last⟩
  have hours : 0 ≤ instant.second / 3600 ∧ instant.second / 3600 ≤ 23 := by omega
  have minutes : 0 ≤ instant.second / 60 % 60 ∧ instant.second / 60 % 60 ≤ 59 := by omega
  have parts : 0 ≤ instant.second % 60 + instant.nano / 1000000000 ∧
      instant.second % 60 + instant.nano / 1000000000 ≤ 60 := by omega
  have zone : scanZone (trimStart ['Z']) = some (0, []) := rfl
  -- The sixtieth second of a minute is a leap second, which only follows the last one.
  have clock : (if instant.second % 60 + instant.nano / 1000000000 = 60 then
      (59, instant.nano % 1000000000 + 1000000000)
      else (instant.second % 60 + instant.nano / 1000000000, instant.nano % 1000000000)) =
        (instant.second % 60, instant.nano) := by
    have leap : 1000000000 ≤ instant.nano → instant.second % 60 = 59 := timely
    split <;> ext <;> dsimp only <;> omega
  have moment : instant.second / 3600 * 3600 + instant.second / 60 % 60 * 60 + instant.second % 60 =
      instant.second := by omega
  rw [read?, String.toList_ofList, Stamp.text]
  -- The parts are scanned one after another, each up to the mark behind it.
  refine Option.bind_eq_some_iff.mpr ⟨_, names.scanYear dash, ?_⟩
  refine Option.bind_eq_some_iff.mpr ⟨_, scanMark_cons '-' rfl, ?_⟩
  refine Option.bind_eq_some_iff.mpr ⟨_, names.month.scanPart dash months, ?_⟩
  refine Option.bind_eq_some_iff.mpr ⟨_, scanMark_cons '-' rfl, ?_⟩
  refine Option.bind_eq_some_iff.mpr ⟨_, names.day.scanPart letter ⟨valid.day_first, days⟩, ?_⟩
  refine Option.bind_eq_some_iff.mpr ⟨_, rfl, ?_⟩
  refine Option.bind_eq_some_iff.mpr ⟨_, names.hour.scanPart colon hours, ?_⟩
  refine Option.bind_eq_some_iff.mpr ⟨_, scanMark_cons ':' rfl, ?_⟩
  refine Option.bind_eq_some_iff.mpr ⟨_, names.minute.scanPart colon minutes, ?_⟩
  refine Option.bind_eq_some_iff.mpr ⟨_, scanMark_cons ':' rfl, ?_⟩
  refine Option.bind_eq_some_iff.mpr ⟨_, names.second.scanPart behind parts, ?_⟩
  refine Option.bind_eq_some_iff.mpr ⟨_, scanFraction_isFraction names.fraction, ?_⟩
  refine Option.bind_eq_some_iff.mpr ⟨_, zone, ?_⟩
  dsimp only
  rw [if_neg (by decide), clock]
  dsimp only
  rw [moment]
  exact ofLocal?_zero instant

/-- What is read from the text of some parts is the settled one of the instants that they name. -/
theorem read?_text {instant : Instant} {stamp : Stamp} (names : stamp.Names instant) :
    read? (String.ofList stamp.text) = some instant.settled :=
  -- The parts name the settled instant too, and that one is read back as it is.
  read?_text_of_timely names.settled instant.timely_settled

/-- An instant is read back from its text up to where its leap second stands. -/
theorem read?_render (instant : Instant) : read? instant.render = some instant.settled := by
  -- The text is that of the parts, and the parts name the instant.
  rw [render, form_eq_text]
  exact read?_text (names_stamp instant)

end Instant

end SolverHub
