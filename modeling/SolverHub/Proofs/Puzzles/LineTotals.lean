import Mathlib
import SolverHub.Proofs.Guard
import SolverHub.Proofs.Text.Signed
import SolverHub.Puzzles.BuiltIn

/-! Lines are summed exactly for as long as every sum of leading lines stays within the words.

The first line that holds no number ends the sum with an error, and the first line whose number leads the sum out
of its word ends it with a crash. Neither tells a number. -/

namespace SolverHub.LineCount

variable {line : List Char} {lines : List (List Char)} {value sum next : Int} {values : List Int} {stop : Stop}

/-- A number lies within the words for the lines and their sum. -/
def InWord (n : Int) : Prop :=
  -9223372036854775808 ≤ n ∧ n < 9223372036854775808

/-- A line between blanks is a number within the words: digits, with a sign or without one. -/
def Reads (line : List Char) (value : Int) : Prop :=
  Text.Signed (Text.trim line) value ∧ InWord value

/-- No sum of leading numbers leaves the words. -/
def Fits (values : List Int) : Prop :=
  ∀ leading, leading <+: values → InWord leading.sum

section Words

/-- The words are those of signed places. -/
theorem holds_word : word.holds value = true ↔ InWord value := Guard.holds_offset

/-- Nothing sums to zero, which the words hold. -/
theorem fits_nil : Fits [] := by
  -- The only sum is zero.
  rintro leading front
  rw [List.prefix_nil.mp front]
  exact ⟨by decide, by decide⟩

/-- One more number fits if its sum with all before it does. -/
theorem fits_concat : Fits (values ++ [value]) ↔ Fits values ∧ InWord (values.sum + value) := by
  -- A leading part leaves the last number out, or it is the whole list.
  simp only [Fits, List.prefix_concat_iff, or_imp, forall_and, forall_eq, List.sum_append,
    List.sum_singleton]
  exact and_comm

/-- A sum is given exactly if it stays within the words. -/
theorem add_eq_ok : (word.add sum value).mapError Stop.ofOverflow = .ok next ↔
    InWord (sum + value) ∧ next = sum + value := by
  -- The check passes exactly those sums on that the words hold.
  rw [← holds_word, Bounds.add, Bounds.check]
  split <;> simp [Except.mapError, *, eq_comm]

/-- A sum outside the words is a crash. -/
theorem add_eq_error : (word.add sum value).mapError Stop.ofOverflow = .error stop ↔
    ¬InWord (sum + value) ∧ stop = .ofOverflow .add := by
  -- The addition stops exactly outside the word.
  rw [← holds_word, Bounds.add, Bounds.check]
  split <;> simp [Except.mapError, *, eq_comm]

end Words

section Steps

/-- A number is read exactly from a line that holds it. -/
theorem lineNumber_eq_ok : lineNumber line = .ok value ↔ Reads line value := by
  -- A number is read exactly from its numerals, within the bounds of the word.
  rw [Reads, ← holds_word, ← Text.readInt_eq_ok_iff (by decide) (by decide), lineNumber]
  cases Text.readInt word (Text.trim line) <;> simp [Except.mapError]

/-- A line without a number fails with the wording of its fault. -/
theorem lineNumber_eq_error : lineNumber line = .error stop ↔
    ∃ fault, Text.readInt word (Text.trim line) = .error fault ∧
      stop = .failed (.msg fault.message) := by
  -- The fault is told as a message.
  rw [lineNumber]
  cases Text.readInt word (Text.trim line) <;> simp [Except.mapError, eq_comm]

/-- A line is added exactly if it holds a number and the sum with it stays within the words. -/
theorem addLine_eq_ok : addLine sum line = .ok next ↔
    ∃ value, Reads line value ∧ InWord (sum + value) ∧ next = sum + value := by
  -- Reading comes first, then adding.
  simp only [addLine, bind_eq_ok, lineNumber_eq_ok, add_eq_ok]

/-- A line stops the sum if it holds no number, or if its number leads the sum out of the words. -/
theorem addLine_eq_error : addLine sum line = .error stop ↔
    (∃ fault, Text.readInt word (Text.trim line) = .error fault ∧
      stop = .failed (.msg fault.message)) ∨
    ∃ value, Reads line value ∧ ¬InWord (sum + value) ∧ stop = .ofOverflow .add := by
  -- Either reading fails, or adding what has been read.
  simp only [addLine, bind_eq_error, lineNumber_eq_error, lineNumber_eq_ok, add_eq_error]

end Steps

section Runs

/-- Numbers and one more stand beside lines and one more, each beside its own. -/
theorem forall₂_concat {numbers : List Int} : List.Forall₂ Reads (lines ++ [line]) numbers ↔
    ∃ values value, List.Forall₂ Reads lines values ∧ Reads line value ∧ numbers = values ++ [value] := by
  -- Turned around, the one more line stands in front of the others.
  rw [← List.forall₂_reverse_iff, List.reverse_append, List.reverse_singleton, List.singleton_append,
    List.forall₂_cons_left_iff]
  constructor
  · rintro ⟨value, values, read, others, turned⟩
    refine ⟨values.reverse, value, ?_, read, ?_⟩
    · rwa [← List.forall₂_reverse_iff, List.reverse_reverse]
    · rw [← List.reverse_cons, ← turned, List.reverse_reverse]
  · rintro ⟨values, value, others, read, rfl⟩
    refine ⟨value, values.reverse, read, List.forall₂_reverse_iff.mpr others, ?_⟩
    rw [List.reverse_append, List.reverse_singleton, List.singleton_append]

/-- Lines are summed exactly if they hold numbers that fit, and to the sum of these. -/
theorem foldlM_addLine_eq_ok : lines.foldlM addLine 0 = .ok sum ↔
    ∃ values, List.Forall₂ Reads lines values ∧ Fits values ∧ sum = values.sum := by
  -- The induction adds a line at the end, whose number meets the sum of all numbers before it.
  induction lines using List.reverseRecOn generalizing sum with
  | nil =>
    simp only [List.foldlM_nil, List.forall₂_nil_left_iff, exists_eq_left, fits_nil, true_and, List.sum_nil]
    exact ⟨fun same => (Except.ok.inj same).symm, fun same => congrArg Except.ok same.symm⟩
  | append_singleton lines line ih =>
    simp only [List.foldlM_append, List.foldlM_cons, List.foldlM_nil, bind_pure, bind_eq_ok, ih,
      addLine_eq_ok, forall₂_concat]
    constructor
    · rintro ⟨_, ⟨values, read, fits, rfl⟩, value, held, within, rfl⟩
      refine ⟨_, ⟨values, value, read, held, rfl⟩, fits_concat.mpr ⟨fits, within⟩, ?_⟩
      rw [List.sum_append, List.sum_singleton]
    · rintro ⟨_, ⟨values, value, read, held, rfl⟩, fits, rfl⟩
      obtain ⟨fits, within⟩ := fits_concat.mp fits
      refine ⟨_, ⟨values, read, fits, rfl⟩, value, held, within, ?_⟩
      rw [List.sum_append, List.sum_singleton]

/-- The sum stops at the first line that cannot be added to the sum of the numbers on the lines before it. -/
theorem foldlM_addLine_eq_error : lines.foldlM addLine 0 = .error stop ↔
    ∃ before line behind values, lines = before ++ line :: behind ∧
      List.Forall₂ Reads before values ∧ Fits values ∧ addLine values.sum line = .error stop := by
  -- What the lines before it were summed to is the sum of the numbers that they hold.
  simp only [foldlM_eq_error, foldlM_addLine_eq_ok]
  constructor
  · rintro ⟨before, line, behind, _, split, ⟨values, read, fits, rfl⟩, stopped⟩
    exact ⟨before, line, behind, values, split, read, fits, stopped⟩
  · rintro ⟨before, line, behind, values, split, read, fits, stopped⟩
    exact ⟨before, line, behind, _, split, ⟨values, read, fits, rfl⟩, stopped⟩

/-- A line with a fault holds no number. -/
theorem not_reads_of_fault {fault : Text.NumberFault}
    (found : Text.readInt word (Text.trim line) = .error fault) : ¬Reads line value := by
  -- A line cannot be read and fail to be read.
  intro read
  have stopped := lineNumber_eq_error.mpr ⟨fault, found, rfl⟩
  cases stopped.symm.trans (lineNumber_eq_ok.mpr read)

/-- The sum fails exactly at the first line that holds no number, if the numbers before that line fit. -/
theorem foldlM_addLine_eq_failed {error : ProblemError} :
    lines.foldlM addLine 0 = .error (.failed error) ↔
      ∃ before line behind values fault, lines = before ++ line :: behind ∧
        List.Forall₂ Reads before values ∧ Fits values ∧ (∀ value, ¬Reads line value) ∧
        Text.readInt word (Text.trim line) = .error fault ∧ error = .msg fault.message := by
  rw [foldlM_addLine_eq_error]
  constructor
  · rintro ⟨before, line, behind, values, split, read, fits, failed⟩
    -- An overflow is no error that is returned.
    obtain ⟨fault, found, ⟨⟩⟩ | ⟨_, _, _, ⟨⟩⟩ := addLine_eq_error.mp failed
    exact ⟨before, line, behind, values, fault, split, read, fits,
      fun _ => not_reads_of_fault found, found, rfl⟩
  · rintro ⟨before, line, behind, values, fault, split, read, fits, _, found, rfl⟩
    refine ⟨before, line, behind, values, split, read, fits, addLine_eq_error.mpr ?_⟩
    exact .inl ⟨fault, found, rfl⟩

/-- The sum crashes exactly at the first number that leads the sum of those before it out of the words. -/
theorem foldlM_addLine_eq_crashed {payload : Payload} :
    lines.foldlM addLine 0 = .error (.crashed payload) ↔
      ∃ before line behind values value, lines = before ++ line :: behind ∧
        List.Forall₂ Reads before values ∧ Fits values ∧ Reads line value ∧
        ¬InWord (values.sum + value) ∧ payload = .text "attempt to add with overflow" := by
  rw [foldlM_addLine_eq_error]
  constructor
  · rintro ⟨before, line, behind, values, split, read, fits, crashed⟩
    -- A line that holds no number does not crash the sum.
    obtain ⟨_, _, ⟨⟩⟩ | ⟨value, held, beyond, ⟨⟩⟩ := addLine_eq_error.mp crashed
    exact ⟨before, line, behind, values, value, split, read, fits, held, beyond, rfl⟩
  · rintro ⟨before, line, behind, values, value, split, read, fits, held, beyond, rfl⟩
    refine ⟨before, line, behind, values, split, read, fits, addLine_eq_error.mpr ?_⟩
    exact .inr ⟨value, held, beyond, rfl⟩

/-- The run that sums its lines tells their sum, or it tells nothing and stops as the sum does. -/
theorem run_sumLines (revision input : String) (id : Identifier) :
    (sumLines revision input).run id =
      match (Text.lines input.toList).foldlM addLine 0 with
      | .ok sum => ⟨[.solved id (revision ++ ":" ++ Text.intText sum)], .ok ()⟩
      | .error stop => ⟨[], .error stop⟩ := by
  -- Only a sum is reported, and a stop ends the run without a report.
  rw [sumLines]
  cases (Text.lines input.toList).foldlM addLine 0 <;> rfl

/-- The run answers exactly if the lines hold numbers that fit, with the sum of these. -/
theorem run_eq_solved {revision input text : String} {id : Identifier} :
    (sumLines revision input).run id = ⟨[.solved id text], .ok ()⟩ ↔
      ∃ values, List.Forall₂ Reads (Text.lines input.toList) values ∧ Fits values ∧
        text = revision ++ ":" ++ Text.intText values.sum := by
  -- The answer shows the sum, and the sum is that of the numbers on the lines.
  have answered : (sumLines revision input).run id = ⟨[.solved id text], .ok ()⟩ ↔
      ∃ sum, (Text.lines input.toList).foldlM addLine 0 = .ok sum ∧
        text = revision ++ ":" ++ Text.intText sum := by
    rw [run_sumLines]
    cases (Text.lines input.toList).foldlM addLine 0 <;>
      simp [Update.solved, Verdict.solved, eq_comm]
  rw [answered]
  constructor
  · rintro ⟨_, summed, rfl⟩
    obtain ⟨values, read, fits, rfl⟩ := foldlM_addLine_eq_ok.mp summed
    exact ⟨values, read, fits, rfl⟩
  · rintro ⟨values, read, fits, rfl⟩
    exact ⟨_, foldlM_addLine_eq_ok.mpr ⟨values, read, fits, rfl⟩, rfl⟩

/-- The run tells nothing and stops exactly as the sum of its lines does. -/
theorem run_eq_stopped {revision input : String} {id : Identifier} :
    (sumLines revision input).run id = ⟨[], .error stop⟩ ↔
      (Text.lines input.toList).foldlM addLine 0 = .error stop := by
  -- A run that stops has reported nothing, since the report comes last.
  rw [run_sumLines]
  cases (Text.lines input.toList).foldlM addLine 0 <;> simp

end Runs

/-- The part that sums its lines tells their exact sum and nothing else, or it tells nothing and stops.

It tells the sum exactly if every line holds a number and no sum of leading numbers leaves the words. It fails with
the fault of the first line that holds no number, if the numbers before that line fit, and it crashes exactly if a
number leads the sum of those before it out of the words, whatever the sum of all numbers is. -/
theorem sum_told_exactly (revision input : String) (id : Identifier) :
    ∃ counting summing, (BuiltIn.sample revision).problems = [counting, summing] ∧
      summing.name = "Part 2" ∧
      let lines := Text.lines input.toList
      let run := summing.body id input
      ((∃ text, run = ⟨[.solved id text], .ok ()⟩) ∨ ∃ stop, run = ⟨[], .error stop⟩) ∧
      (∀ text, run = ⟨[.solved id text], .ok ()⟩ ↔
        ∃ values, List.Forall₂ Reads lines values ∧ Fits values ∧
          text = revision ++ ":" ++ Text.intText values.sum) ∧
      (∀ error, run = ⟨[], .error (.failed error)⟩ ↔
        ∃ before line behind values fault, lines = before ++ line :: behind ∧
          List.Forall₂ Reads before values ∧ Fits values ∧ (∀ value, ¬Reads line value) ∧
          Text.readInt word (Text.trim line) = .error fault ∧ error = .msg fault.message) ∧
      ∀ payload, run = ⟨[], .error (.crashed payload)⟩ ↔
        ∃ before line behind values value, lines = before ++ line :: behind ∧
          List.Forall₂ Reads before values ∧ Fits values ∧ Reads line value ∧
          ¬InWord (values.sum + value) ∧ payload = .text "attempt to add with overflow" := by
  refine ⟨_, _, rfl, rfl, ?_⟩
  intro lines run
  refine ⟨?_, fun text => run_eq_solved, fun error => run_eq_stopped.trans foldlM_addLine_eq_failed,
    fun payload => run_eq_stopped.trans foldlM_addLine_eq_crashed⟩
  -- The sum of the lines has a value or a stop, and the run follows it.
  have ran : run = _ := run_sumLines revision input id
  rw [ran]
  cases (Text.lines input.toList).foldlM addLine 0 with
  | ok sum => exact .inl ⟨_, rfl⟩
  | error stop => exact .inr ⟨stop, rfl⟩

example : (sumLines "dev" "9223372036854775807\n -9223372036854775808\r\n+01").outcome = .ok "dev:0" := by
  decide +kernel

/-- Three numbers whose sum is the greatest of the words, which the sum of the first two goes beyond. -/
def passing : String := "9223372036854775807\n1\n-1"

/-- A client's problem. -/
def anybody : Identifier := ⟨"Advent of Code", 2024, "alice", "Line Count", "Part 2"⟩

/-- Numbers whose sum is within the words crash the sum that leaves them on the way. -/
theorem not_sum_told_passing :
    List.Forall₂ Reads (Text.lines passing.toList) [9223372036854775807, 1, -1] ∧
      [9223372036854775807, 1, -1].sum = (9223372036854775807 : Int) ∧
      ∃ counting summing, (BuiltIn.sample BuiltIn.defaultRevision).problems = [counting, summing] ∧
        (summing.body anybody passing).updates = [] ∧
        (summing.body anybody passing).ending =
          .error (.crashed (.text "attempt to add with overflow")) ∧
        ¬(summing.body anybody passing =
            ⟨[.solved anybody ("dev:" ++ Text.intText 9223372036854775807)], .ok ()⟩ ∨
          ∃ error, summing.body anybody passing = ⟨[], .error (.failed error)⟩) := by
  -- The sum of the first two lines leaves the word, the sum of all three does not.
  have lines : Text.lines passing.toList =
      ["9223372036854775807".toList, ['1'], ['-', '1']] := by decide +kernel
  have first : Reads "9223372036854775807".toList 9223372036854775807 :=
    lineNumber_eq_ok.mp (by decide +kernel)
  have second : Reads ['1'] 1 := lineNumber_eq_ok.mp (by decide +kernel)
  have third : Reads ['-', '1'] (-1) := lineNumber_eq_ok.mp (by decide +kernel)
  have summed : (Text.lines passing.toList).foldlM addLine 0 = .error (.ofOverflow .add) := by
    decide +kernel
  have crashed : (sumLines BuiltIn.defaultRevision passing).run anybody =
      ⟨[], .error (.ofOverflow .add)⟩ := run_eq_stopped.mpr summed
  refine ⟨lines ▸ .cons first (.cons second (.cons third .nil)), rfl, _, _, rfl,
    congrArg Run.updates crashed, congrArg Run.ending crashed, ?_⟩
  -- A run that has crashed is neither solved nor failed.
  rintro (solved | ⟨error, failed⟩)
  · cases congrArg Run.ending (crashed.symm.trans solved)
  · cases congrArg Run.ending (crashed.symm.trans failed)

end SolverHub.LineCount
