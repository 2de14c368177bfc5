import Mathlib.Data.List.Forall2
import SolverHub.Problem.Basic
import SolverHub.Text.Bytes

/-! A guarded operation crashes where its operands do not allow it, and gives its value elsewhere. -/

namespace SolverHub

/-- Two attempts in turn succeed if the first one does and the second one does with its result. -/
theorem bind_eq_ok {ε α β : Type} {first : Except ε α} {second : α → Except ε β} {result : β} :
    (first >>= second) = .ok result ↔ ∃ value, first = .ok value ∧ second value = .ok result := by
  -- The second runs only on what the first one gives.
  cases first with
  | error _ => exact ⟨nofun, nofun⟩
  | ok value => exact ⟨fun passed => ⟨value, rfl, passed⟩, fun ⟨_, same, passed⟩ => by cases same; exact passed⟩

/-- Two attempts in turn fail if the first one does, or the second one with the result of the first. -/
theorem bind_eq_error {ε α β : Type} {first : Except ε α} {second : α → Except ε β} {fault : ε} :
    (first >>= second) = .error fault ↔
      first = .error fault ∨ ∃ value, first = .ok value ∧ second value = .error fault := by
  -- Either the first fails, or it gives something on which the second fails.
  cases first with
  | error other =>
    constructor
    · rintro ⟨⟩
      exact .inl rfl
    · rintro (⟨⟨⟩⟩ | ⟨_, ⟨⟩, _⟩)
      rfl
  | ok value =>
    constructor
    · exact fun failed => .inr ⟨value, rfl, failed⟩
    · rintro (⟨⟨⟩⟩ | ⟨_, ⟨⟩, failed⟩)
      exact failed

/-- A fold along a list fails exactly if one of its steps does after those before it have succeeded. -/
theorem foldlM_eq_error {ε α β : Type} {step : β → α → Except ε β} {list : List α} {start : β} {fault : ε} :
    list.foldlM step start = .error fault ↔
      ∃ before entry behind reached, list = before ++ entry :: behind ∧
        before.foldlM step start = .ok reached ∧ step reached entry = .error fault := by
  -- The induction cuts entries off the front: the fold fails at the first one or behind it.
  induction list generalizing start with
  | nil => simp [pure, Except.pure]
  | cons first rest ih =>
    rw [List.foldlM_cons, bind_eq_error]
    constructor
    · rintro (failed | ⟨next, passed, failed⟩)
      · exact ⟨[], first, rest, start, rfl, rfl, failed⟩
      · obtain ⟨before, entry, behind, reached, rfl, arrived, failed⟩ := ih.mp failed
        refine ⟨first :: before, entry, behind, reached, rfl, ?_, failed⟩
        rw [List.foldlM_cons, bind_eq_ok]
        exact ⟨next, passed, arrived⟩
    · rintro ⟨before, entry, behind, reached, split, arrived, failed⟩
      cases before with
      | nil =>
        cases split
        cases arrived
        exact .inl failed
      | cons early before =>
        cases split
        rw [List.foldlM_cons, bind_eq_ok] at arrived
        obtain ⟨next, passed, arrived⟩ := arrived
        exact .inr ⟨next, passed, ih.mpr ⟨before, entry, behind, reached, rfl, arrived, failed⟩⟩

/-- A number lies within bounds that it meets on both sides. -/
theorem Bounds.holds_iff {bounds : Bounds} {n : Int} :
    bounds.holds n = true ↔ bounds.least ≤ n ∧ n ≤ bounds.greatest := by
  -- A number is held exactly if neither bound cuts it off.
  simp only [holds, Bool.and_eq_true, decide_eq_true_eq]

/-- A sum that the words hold is given. -/
theorem Bounds.add_of_holds {word : Bounds} {a b : Int} (held : word.holds (a + b) = true) :
    word.add a b = .ok (a + b) := by
  -- The addition checks its result only.
  rw [add, check, if_pos held]

/-- A product that the words hold is given. -/
theorem Bounds.mul_of_holds {word : Bounds} {a b : Int} (held : word.holds (a * b) = true) :
    word.mul a b = .ok (a * b) := by
  -- The multiplication checks its result only.
  rw [mul, check, if_pos held]

/-- A list with an entry of some kind is cut at the first one. -/
theorem exists_cut {α : Type} {list : List α} {kind : α → Prop} (exist : ∃ entry ∈ list, kind entry) :
    ∃ before entry after, list = before ++ entry :: after ∧ kind entry ∧
      ∀ early ∈ before, ¬kind early := by
  classical
  -- The cut lies where a search from the front stops.
  have found : (list.find? (kind ·)).isSome := by simpa using exist
  obtain ⟨entry, first⟩ := Option.isSome_iff_exists.mp found
  obtain ⟨suits, before, after, split, passed⟩ := List.find?_eq_some_iff_append.mp first
  exact ⟨before, entry, after, split, by simpa using suits, by simpa using passed⟩

namespace Guard

variable {α : Type} {word : Bounds} {a b : Int}

/-- The words for sizes and places. -/
def size : Bounds := .unsigned 64

/-- The words for places that may lie before the first one. -/
def offset : Bounds := .signed 64

/-- A crash with its wording. -/
def crash (message : String) : Except Stop α :=
  .error (.crashed (.text message))

/-- The sum of two words. -/
def add (word : Bounds) (a b : Int) : Except Stop Int :=
  (word.add a b).mapError Stop.ofOverflow

/-- The product of two words. -/
def mul (word : Bounds) (a b : Int) : Except Stop Int :=
  (word.mul a b).mapError Stop.ofOverflow

/-- A word with its sign changed. -/
def neg (word : Bounds) (a : Int) : Except Stop Int :=
  (word.check .negate (-a)).mapError Stop.ofOverflow

/-- The difference of two words. -/
def sub (word : Bounds) (a b : Int) : Except Stop Int :=
  if word.holds (a - b) then .ok (a - b) else crash "attempt to subtract with overflow"

/-- The remainder of a division of two sizes. -/
def rem (a b : Int) : Except Stop Int :=
  if b = 0 then .error (.ofOverflow .remainderByZero) else .ok (a % b)

/-- The place that a signed number stands for, which is a very late one below zero. -/
def place (n : Int) : Nat :=
  (n % Int.ofNat (Nat.pow 2 64)).toNat

/-- A size as a signed number, which is below zero from the middle of the sizes on. -/
def signed (n : Nat) : Int :=
  if (n : Int) ≤ offset.greatest then n else n - Int.ofNat (Nat.pow 2 64)

/-- The wording for a place behind the end of a list. -/
def outside (place length : Nat) : String :=
  "index out of bounds: the len is " ++ Text.natText length ++ " but the index is " ++
    Text.natText place

/-- The entry at a place. -/
def read (list : List α) (place : Nat) : Except Stop α :=
  match list[place]? with
  | some entry => .ok entry
  | none => crash (outside place list.length)

/-- A list with another entry at a place. -/
def write (list : List α) (place : Nat) (entry : α) : Except Stop (List α) :=
  if place < list.length then .ok (list.set place entry) else crash (outside place list.length)

/-- The entries from a place on. -/
def after (list : List α) (place : Nat) : Except Stop (List α) :=
  if place ≤ list.length then .ok (list.drop place)
  else crash ("range start index " ++ Text.natText place ++ " out of range for slice of length " ++
    Text.natText list.length)

/-- The characters from a byte on. -/
def textAfter (text : List Char) (byte : Nat) : Except Stop (List Char) :=
  match Text.splitAtByte? byte text with
  | some (_, rest) => .ok rest
  | none => crash ("byte index " ++ Text.natText byte ++ " is not a char boundary")

/-- The chunks of a list that are as long as a width, the last of which may be short. -/
def chunks (width : Nat) (list : List α) : Except Stop (List (List α)) :=
  if width = 0 then crash "chunk size must be non-zero"
  else .ok ((List.range ((list.length + width - 1) / width)).map fun index =>
    (list.drop (width * index)).take width)

/-- Room for a number of bytes, which the machine has if they can be addressed. -/
def room (bytes : Int) : Except Stop Unit :=
  if bytes ≤ offset.greatest then .ok () else crash "capacity overflow"

section Steps

variable {ε β : Type}

/-- A computation goes on with a value. -/
@[simp] theorem ok_bind (value : α) (next : α → Except ε β) :
    (Except.ok value >>= next) = next value := rfl

/-- A computation does not go on after a stop. -/
@[simp] theorem error_bind (stop : ε) (next : α → Except ε β) :
    (Except.error stop >>= next) = .error stop := rfl

/-- A value is given as it is. -/
@[simp] theorem pure_eq (value : α) : (pure value : Except ε α) = .ok value := rfl

/-- What follows both sides of a choice follows the choice. -/
theorem ite_bind {choice : Prop} [Decidable choice] (first second : Except ε α)
    (next : α → Except ε β) : (if choice then first >>= next else second >>= next) =
      (if choice then first else second) >>= next := by
  -- Both ways go on in the same way.
  split <;> rfl

/-- The stops of two computations in turn are told the same way together or each on its own. -/
theorem mapError_bind {δ : Type} (first : Except δ α) (next : α → Except δ β) (told : δ → ε) :
    (first >>= next).mapError told =
      first.mapError told >>= fun value => (next value).mapError told := by
  -- The error is told alike whether it comes from the first or from the second.
  cases first <;> rfl

end Steps

/-- The sizes are the numbers below the power of two. -/
theorem holds_size {n : Int} : size.holds n = true ↔ 0 ≤ n ∧ n < 18446744073709551616 := by
  -- The bounds are powers of two, which are evaluated here once for all proofs.
  have greatest : size.greatest = 18446744073709551615 := rfl
  have least : size.least = 0 := rfl
  rw [Bounds.holds_iff, greatest, least]
  omega

/-- The signed places go half as far in both directions. -/
theorem holds_offset {n : Int} :
    offset.holds n = true ↔ -9223372036854775808 ≤ n ∧ n < 9223372036854775808 := by
  -- The bounds are powers of two, which are evaluated here once for all proofs.
  have greatest : offset.greatest = 9223372036854775807 := rfl
  have least : offset.least = -9223372036854775808 := rfl
  rw [Bounds.holds_iff, greatest, least]
  omega

/-- A sum that the words hold is given. -/
theorem add_eq (held : word.holds (a + b) = true) : add word a b = .ok (a + b) := by
  -- A guarded operation is the checked one with a failure of its own.
  rw [add, Bounds.add_of_holds held]
  rfl

/-- A product that the words hold is given. -/
theorem mul_eq (held : word.holds (a * b) = true) : mul word a b = .ok (a * b) := by
  -- A guarded operation is the checked one with a failure of its own.
  rw [mul, Bounds.mul_of_holds held]
  rfl

/-- A change of sign that the words hold is given. -/
theorem neg_eq (held : word.holds (-a) = true) : neg word a = .ok (-a) := by
  -- A guarded operation is the checked one with a failure of its own.
  rw [neg, Bounds.check, if_pos held]
  rfl

/-- A difference that the words hold is given. -/
theorem sub_eq (held : word.holds (a - b) = true) : sub word a b = .ok (a - b) := by
  simp [sub, held]

/-- A remainder by another number than zero is given. -/
theorem rem_eq (divisor : b ≠ 0) : rem a b = .ok (a % b) := by
  simp [rem, divisor]

/-- A place that is no further than the greatest is what it says. -/
theorem place_natCast {n : Nat} (small : n < 18446744073709551616) : place n = n := by
  -- A cast to a size wraps at the number of words, which is not reached.
  have words : Int.ofNat (Nat.pow 2 64) = 18446744073709551616 := rfl
  rw [place, words]
  omega

/-- A size in the lower half is what it says as a signed number. -/
theorem signed_eq {n : Nat} (small : n < 9223372036854775808) : signed n = n := by
  -- A cast to an offset keeps what an offset can hold.
  have greatest : offset.greatest = 9223372036854775807 := rfl
  rw [signed, greatest, if_pos (by omega)]

/-- An entry within the list is given. -/
theorem read_eq {list : List α} {place : Nat} {entry : α} (found : list[place]? = some entry) :
    read list place = .ok entry := by
  -- There is an entry at the place, so the place is inside.
  simp [read, found]

/-- An entry within the list can be replaced. -/
theorem write_eq {list : List α} {place : Nat} (inside : place < list.length) (entry : α) :
    write list place entry = .ok (list.set place entry) := by
  -- The place is inside, so the entry there is replaced.
  simp [write, inside]

/-- The entries from a place within the list on are given. -/
theorem after_eq {list : List α} {place : Nat} (inside : place ≤ list.length) :
    after list place = .ok (list.drop place) := by
  -- The place is inside or right at the end, so a slice starts there.
  simp [after, inside]

/-- A text is cut behind its first characters. -/
theorem textAfter_eq (first second : List Char) :
    textAfter (first ++ second) (Text.byteCount first) = .ok second := by
  -- The bytes of the first part end at a character boundary.
  simp [textAfter, Text.splitAtByte?_byteCount]

/-- Room is given for what can be addressed. -/
theorem room_eq {bytes : Int} (small : bytes < 9223372036854775808) : room bytes = .ok () := by
  -- The capacity stays below the greatest one that can be asked for.
  have greatest : offset.greatest = 9223372036854775807 := rfl
  rw [room, greatest, if_pos (by omega)]

/-- A list of equally long rows has as many entries as all rows together. -/
theorem length_flatten_even {rows : List (List α)} {width : Nat}
    (even : ∀ row ∈ rows, row.length = width) : rows.flatten.length = width * rows.length := by
  -- Each row adds the width once.
  induction rows with
  | nil => rfl
  | cons row rows ih =>
    have wide := even row (List.mem_cons_self ..)
    have others := ih fun other member => even other (List.mem_cons_of_mem _ member)
    rw [List.flatten_cons, List.length_append, wide, others, List.length_cons, Nat.mul_succ,
      Nat.add_comm]

/-- Equally long rows are the chunks of their entries. -/
theorem chunks_flatten {rows : List (List α)} {width : Nat} (filled : 0 < width)
    (even : ∀ row ∈ rows, row.length = width) : chunks width rows.flatten = .ok rows := by
  -- Rounding the number of chunks up adds none, since the last row is as long as the others.
  have count : (rows.flatten.length + width - 1) / width = rows.length := by
    rw [length_flatten_even even, Nat.add_sub_assoc filled, Nat.mul_add_div filled,
      Nat.div_eq_of_lt (Nat.sub_lt filled Nat.zero_lt_one), Nat.add_zero]
  rw [chunks, if_neg (Nat.ne_of_gt filled), count]
  congr 1
  clear count
  -- The first chunk is the first row, and the others are those of the rows behind it.
  induction rows with
  | nil => rfl
  | cons row rows ih =>
    have wide := even row (List.mem_cons_self ..)
    have others := ih fun other member => even other (List.mem_cons_of_mem _ member)
    have behind : ∀ index, ((row :: rows).flatten.drop (width * (index + 1))).take width =
        (rows.flatten.drop (width * index)).take width := by
      intro index
      rw [List.flatten_cons, Nat.mul_succ, Nat.add_comm, ← List.drop_drop, ← wide, List.drop_left]
    have first : ((row :: rows).flatten.drop (width * 0)).take width = row := by
      rw [Nat.mul_zero, List.drop_zero, List.flatten_cons, ← wide, List.take_left]
    rw [List.length_cons, List.range_succ_eq_map, List.map_cons, List.map_map, first]
    exact congrArg (row :: ·) ((List.map_congr_left fun index _ => behind index).trans others)

/-- The outcome of a parser that returns its errors. -/
def parsed (result : Except ParseError α) : Except Stop α :=
  result.mapError fun error => .failed (.parse error)

/-- A guarded computation that reports nothing. -/
def quietly (result : Except Stop α) : Reporting α :=
  ⟨[], result⟩

/-- A reporting computation goes on with a value of a guarded one. -/
@[simp] theorem quietly_bind {β : Type} (value : α) (next : α → Reporting β) :
    (quietly (.ok value) >>= next) = next value := rfl

/-- A part of a puzzle whose parser is guarded. -/
def part (number : Nat) (description : Option String) (parse : String → Except Stop α)
    (solve : α → Reporting String) : Problem :=
  .ofReporting ("Part " ++ Text.natText number) description fun input => do
    solve (← quietly (parse input))

/-- A result that is no crash. -/
def Safe (result : Except Stop α) : Prop :=
  ∀ payload, result ≠ .error (.crashed payload)

/-- A value is no crash. -/
theorem safe_ok (value : α) : Safe (.ok value) := fun _ impossible => by cases impossible

/-- A returned error is no crash. -/
theorem safe_failed (error : ProblemError) : Safe (.error (.failed error) : Except Stop α) :=
  fun _ impossible => by cases impossible

/-- A run that did not crash returned an answer or an error. -/
theorem returns_of_safe {result : Except Stop α} (safe : Safe result) :
    (∃ value, result = .ok value) ∨ ∃ error, result = .error (.failed error) := by
  -- There are three ways to end, and one of them is a crash.
  match result with
  | .ok value => exact .inl ⟨value, rfl⟩
  | .error (.failed error) => exact .inr ⟨error, rfl⟩
  | .error (.crashed payload) => exact absurd rfl (safe payload)

/-- An input is shorter than two to the thirty-one bytes. -/
abbrev Short (input : String) : Prop :=
  Text.byteCount input.toList < 2147483648

/-- A guarded problem runs on an input as another problem does, and neither of them crashes. -/
def Agrees (input : String) (guarded problem : Problem) : Prop :=
  ∀ id, guarded.body id input = problem.body id input ∧ Safe (guarded.body id input).ending

/-- Guarded problems run as the problems do that they agree with, one by one. -/
theorem map_body_of_agrees {input : String} {guarded problems : List Problem}
    (agree : List.Forall₂ (Agrees input) guarded problems) (id : Identifier) :
    guarded.map (·.body id input) = problems.map (·.body id input) := by
  -- The induction follows the two lists, which agree problem by problem.
  induction agree with
  | nil => rfl
  | cons first _ ih => rw [List.map_cons, List.map_cons, (first id).1, ih]

section Part

variable {β : Type} {parse : String → Except ParseError α} {solve : α → Reporting String}
  {input : String}

/-- A part does not crash if solving does not. -/
theorem safe_part (solves : ∀ value, parse input = .ok value → Safe (solve value).outcome)
    (number : Nat) (description : Option String) (id : Identifier) :
    Safe ((Problem.part number description parse solve).body id input).ending := by
  -- An error of the parser is returned, and after a value the part ends as solving does.
  show Safe (Reporting.run id ((.parsing (parse input) : Reporting α) >>= solve)).ending
  cases found : parse input with
  | error error => exact safe_failed _
  | ok value =>
    have run : (Reporting.parsing (.ok value) >>= solve) = solve value := rfl
    have safe := solves value found
    rw [run]
    unfold Reporting.run
    cases outcome : (solve value).outcome with
    | ok answer => exact safe_ok ()
    | error stop =>
      rw [outcome] at safe
      intro payload crashed
      exact safe payload (congrArg Except.error (Except.error.inj crashed))

/-- A guarded part agrees with the part whose values its own values stand for. -/
theorem agrees_part {form : α → β} {guardedParse : String → Except Stop β}
    {guardedSolve : β → Reporting String}
    (reads : guardedParse input = parsed ((parse input).map form))
    (solves : ∀ value, parse input = .ok value →
      guardedSolve (form value) = solve value ∧ Safe (solve value).outcome)
    (number : Nat) (description : Option String) :
    Agrees input (part number description guardedParse guardedSolve)
      (.part number description parse solve) := by
  intro id
  -- Both stop at the same error, or both go on to solve the same value.
  have same : (quietly (guardedParse input) >>= guardedSolve) =
      ((.parsing (parse input) : Reporting α) >>= solve) := by
    rw [reads]
    cases found : parse input with
    | error error => rfl
    | ok value =>
      show (⟨[] ++ (guardedSolve (form value)).reports, (guardedSolve (form value)).outcome⟩ :
        Reporting String) = ⟨[] ++ (solve value).reports, (solve value).outcome⟩
      rw [(solves value found).1]
  have run : (part number description guardedParse guardedSolve).body id input =
      (Problem.part number description parse solve).body id input :=
    congrArg (Reporting.run id) same
  rw [run]
  exact ⟨rfl, safe_part (fun value found => (solves value found).2) number description id⟩

end Part

end Guard

end SolverHub
