import Mathlib.Algebra.BigOperators.Ring.Finset
import Mathlib.Data.Nat.Find
import SolverHub.Proofs.Puzzles.LineDigits
import SolverHub.Proofs.Reporting

/-! Chunks of lines that are summed in any order lead to the sum of all lines, or to the error of a line without digits.

The order decides which line the error names: the first one without digits in the first chunk that has one. -/

namespace SolverHub.Calibration

/-- The sum of the values of the lines in a chunk. -/
def subtotalOf (values : List Nat) (index : Nat) : Nat :=
  ((values.drop (64 * index)).take 64).sum

/-- The line at a place of a list lacks digits. -/
def LacksAt (spelled : Bool) (lines : List (List Char)) (place : Nat) : Prop :=
  ∃ line, lines[place]? = some line ∧ Lacks spelled line

/-- The error that names a line without digits by its number. -/
def lackStop (number : Nat) : Stop :=
  .failed (.solve (.noSolution ("line " ++ Text.natText number ++ " has no digits")))

/-- The report on a chunk and its sum. -/
def chunkReport (index sum : Nat) : UpdateKind :=
  .text ("chunk " ++ Text.natText index ++ ": " ++ Text.natText sum)

/-- A line without digits is the first one of its chunk, and its chunk the first one with such lines in an order. -/
structure MetFirst (spelled : Bool) (lines : List (List Char)) (order : List Nat) (place : Nat) :
    Prop where
  lacks : LacksAt spelled lines place
  first_in_chunk : ∀ other, LacksAt spelled lines other → other / 64 = place / 64 → place ≤ other
  first_in_order : ∀ other, LacksAt spelled lines other →
    order.idxOf (place / 64) ≤ order.idxOf (other / 64)

section Lines

variable {spelled : Bool} {line : List Char} {before after lines : List (List Char)}
  {values : List Nat} {place sum : Nat}

/-- A line with a value adds it. -/
theorem lineValue_of_some {value : Nat} (found : valueOf? (ruleOf spelled) line = some value)
    (place : Nat) : lineValue (ruleOf spelled) place line = .ok (value : Int) := by
  have small := (hasValue_iff.mpr found).le
  obtain ⟨tens, head, rest⟩ := Option.bind_eq_some_iff.mp found
  obtain ⟨ones, last, same⟩ := Option.bind_eq_some_iff.mp rest
  -- Two digits make at most 99, so neither operation leaves the word.
  have total : 10 * tens + ones = value := Option.some.inj same
  have product : word.mul tens 10 = .ok ((tens : Int) * 10) :=
    Bounds.mul_of_holds (holds_word.mpr (by omega))
  have added : word.add ((tens : Int) * 10) ones = .ok ((tens : Int) * 10 + ones) :=
    Bounds.add_of_holds (holds_word.mpr (by omega))
  have shape : (tens : Int) * 10 + ones = (value : Nat) := by omega
  simp only [lineValue, head, last, product, Guard.ok_bind, added, shape]
  rfl

/-- A line without a value stops with its number. -/
theorem lineValue_of_none (found : valueOf? (ruleOf spelled) line = none)
    (counted : place + 1 < 2 ^ 64) :
    lineValue (ruleOf spelled) place line = .error (lackStop (place + 1)) := by
  -- The number of the line is one more than its place, and still a size.
  have number : longWord.add place 1 = .ok ((place + 1 : Nat) : Int) :=
    Bounds.add_of_holds (Guard.holds_size.mpr (by omega))
  simp only [lineValue, valueOf?_eq_none.mp found, number]
  rfl

/-- Lines with values add them to the sum, and the lines after them go on from there. -/
theorem valuesFrom_append (found : before.map (valueOf? (ruleOf spelled)) = values.map some)
    (room : sum + 99 * before.length < 2 ^ 32) :
    valuesFrom (ruleOf spelled) place sum (before ++ after) =
      valuesFrom (ruleOf spelled) (place + before.length) ((sum + values.sum : Nat) : Int) after := by
  -- The values are taken from the list as the lines are.
  induction before generalizing values place sum with
  | nil =>
    have none : values = [] := by simpa using found.symm
    simp [none]
  | cons line rest ih =>
    cases values with
    | nil => simp at found
    | cons value others =>
      rw [List.map_cons, List.map_cons, List.cons.injEq] at found
      have small := (hasValue_iff.mpr found.1).le
      rw [List.length_cons] at room
      have added : word.add sum value = .ok ((sum + value : Nat) : Int) :=
        Bounds.add_of_holds (holds_word.mpr (by omega))
      rw [List.cons_append, valuesFrom, lineValue_of_some found.1, Guard.ok_bind, added]
      show valuesFrom (ruleOf spelled) (place + 1) ((sum + value : Nat) : Int) (rest ++ after) = _
      rw [ih found.2 (by omega), List.length_cons, List.sum_cons, Nat.add_assoc, Nat.add_assoc,
        Nat.add_comm 1]

end Lines

section Subtotals

variable {spelled : Bool} {lines : List (List Char)} {values : List Nat} {index place : Nat}

/-- The line at an offset in a chunk is the line at that distance from the start of the chunk. -/
theorem getElem?_chunk (lines : List (List Char)) (index offset : Nat) :
    (chunk lines index)[offset]? = if offset < 64 then lines[64 * index + offset]? else none := by
  -- A chunk is cut out of the lines at a multiple of 64.
  rw [chunk, List.getElem?_take, List.getElem?_drop]
  rfl

/-- A chunk of lines with values has their sum. -/
theorem subtotal_of_values (found : lines.map (valueOf? (ruleOf spelled)) = values.map some)
    (index : Nat) : subtotal (ruleOf spelled) lines index = .ok (subtotalOf values index : Int) := by
  have few : (chunk lines index).length ≤ 64 := List.length_take_le ..
  -- The chunk of the lines has the chunk of the values.
  have valued : (chunk lines index).map (valueOf? (ruleOf spelled)) =
      ((values.drop (64 * index)).take 64).map some := by
    rw [chunk, List.map_take, List.map_drop, found, List.map_take, List.map_drop]
    rfl
  have sum := @valuesFrom_append spelled (chunk lines index) [] _ (chunkSize * index) 0 valued
    (by omega)
  rw [List.append_nil, Nat.zero_add] at sum
  exact sum

/-- Lines that lack no digits have values. -/
theorem exists_values (whole : ∀ line ∈ lines, ¬Lacks spelled line) :
    ∃ values : List Nat, lines.map (valueOf? (ruleOf spelled)) = values.map some := by
  -- Any value would do for a line that lacks digits, and there is none.
  refine ⟨lines.map fun line => (valueOf? (ruleOf spelled) line).getD 0, ?_⟩
  rw [List.map_map]
  apply List.map_congr_left
  intro line member
  obtain ⟨value, found⟩ := exists_hasValue_iff.mpr (whole line member)
  simp [hasValue_iff.mp found]

/-- A line in a chunk is a line of the list, at a place that belongs to the chunk. -/
theorem exists_place {offset : Nat} {line : List Char}
    (found : (chunk lines index)[offset]? = some line) :
    (64 * index + offset) / 64 = index ∧ lines[64 * index + offset]? = some line := by
  rw [getElem?_chunk] at found
  -- An offset in a chunk is below 64, so division gives the chunk back.
  split at found
  · exact ⟨by omega, found⟩
  · cases found

/-- A chunk without a line that lacks digits has some sum. -/
theorem exists_subtotal (whole : ∀ place, LacksAt spelled lines place → place / 64 ≠ index) :
    ∃ sum, subtotal (ruleOf spelled) lines index = .ok sum := by
  have few : (chunk lines index).length ≤ 64 := List.length_take_le ..
  -- A line of the chunk that lacked digits would have its place there.
  have valued : ∀ line ∈ chunk lines index, ¬Lacks spelled line := by
    intro line member lacks
    obtain ⟨offset, found⟩ := List.mem_iff_getElem?.mp member
    obtain ⟨belongs, read⟩ := exists_place found
    exact whole _ ⟨line, read, lacks⟩ belongs
  obtain ⟨values, found⟩ := exists_values valued
  have sum := @valuesFrom_append spelled (chunk lines index) [] _ (chunkSize * index) 0 found
    (by omega)
  rw [List.append_nil] at sum
  exact ⟨_, sum⟩

/-- A chunk with a line that lacks digits has a first one. -/
theorem exists_first (lacks : LacksAt spelled lines place) :
    ∃ first, LacksAt spelled lines first ∧ first / 64 = place / 64 ∧
      ∀ other, LacksAt spelled lines other → other / 64 = first / 64 → first ≤ other := by
  classical
  -- The least place is found among those of the same chunk.
  have exist : ∃ first, LacksAt spelled lines first ∧ first / 64 = place / 64 := ⟨place, lacks, rfl⟩
  obtain ⟨found, belongs⟩ := Nat.find_spec exist
  refine ⟨Nat.find exist, found, belongs, ?_⟩
  intro other other_lacks same
  exact Nat.find_min' exist ⟨other_lacks, same.trans belongs⟩

/-- A chunk with a line that lacks digits stops with the number of the first such line. -/
theorem subtotal_of_first (lacks : LacksAt spelled lines place)
    (first : ∀ other, LacksAt spelled lines other → other / 64 = place / 64 → place ≤ other)
    (counted : lines.length < 2 ^ 64) :
    subtotal (ruleOf spelled) lines (place / 64) = .error (lackStop (place + 1)) := by
  obtain ⟨line, read, lacking⟩ := lacks
  have within : place < lines.length := (List.getElem?_eq_some_iff.mp read).1
  have shape : 64 * (place / 64) + place % 64 = place := Nat.div_add_mod place 64
  have found : (chunk lines (place / 64))[place % 64]? = some line := by
    rw [getElem?_chunk, if_pos (Nat.mod_lt place (by decide)), shape, read]
  obtain ⟨inside, same⟩ := List.getElem?_eq_some_iff.mp found
  -- The chunk is cut at the line, and every line in front of it has a value.
  have cut : (chunk lines (place / 64)).take (place % 64) ++
      line :: (chunk lines (place / 64)).drop (place % 64 + 1) = chunk lines (place / 64) := by
    rw [← same, ← List.drop_eq_getElem_cons inside, List.take_append_drop]
  have valued : ∀ early ∈ (chunk lines (place / 64)).take (place % 64), ¬Lacks spelled early := by
    intro early member early_lacks
    obtain ⟨offset, early_read⟩ := List.mem_iff_getElem?.mp member
    rw [List.getElem?_take] at early_read
    split at early_read
    · rename_i before
      obtain ⟨belongs, at_place⟩ := exists_place early_read
      have late := first _ ⟨early, at_place, early_lacks⟩ belongs
      omega
    · cases early_read
  obtain ⟨values, taken⟩ := exists_values valued
  have length : ((chunk lines (place / 64)).take (place % 64)).length = place % 64 :=
    List.length_take_of_le (Nat.le_of_lt inside)
  have small : place % 64 < 64 := Nat.mod_lt place (by decide)
  have ended := @valuesFrom_append spelled _ (line :: (chunk lines (place / 64)).drop
    (place % 64 + 1)) values (64 * (place / 64)) 0 taken (by omega)
  rw [cut, length, shape, valuesFrom, lineValue_of_none (lacks_iff.mp lacking) (by omega)] at ended
  exact ended

end Subtotals

section Orders

variable {spelled : Bool} {lines : List (List Char)} {values : List Nat} {order : List Nat}
  {index place : Nat}

/-- A chunk with a sum reports it and gives it. -/
theorem runChunk_of_ok {rule : DigitRule} {sum : Int}
    (found : subtotal rule lines index = .ok sum) : runChunk rule lines index =
      ⟨[.text ("chunk " ++ Text.natText index ++ ": " ++ Text.intText sum)], .ok (index, sum)⟩ := by
  -- A chunk is reported once it is summed.
  simp only [runChunk, found]
  rfl

/-- A chunk that stops keeps its report back. -/
theorem outcome_runChunk_of_stop {rule : DigitRule} {stop : Stop}
    (stopped : subtotal rule lines index = .error stop) :
    (runChunk rule lines index).outcome = .error stop := by
  -- A chunk that stops reports nothing.
  simp only [runChunk, stopped]
  rfl

/-- A line without digits is in one of the chunks. -/
theorem LacksAt.in_chunks (lacks : LacksAt spelled lines place) :
    place / 64 < (lines.length + 63) / 64 := by
  -- A line that is read is one of the lines, and the chunks hold all of them.
  obtain ⟨line, read, _⟩ := lacks
  have inside := (List.getElem?_eq_some_iff.mp read).1
  omega

/-- Among the chunks with lines that lack digits one comes first in the order. -/
theorem exists_metFirst (complete : order.Perm (List.range ((lines.length + 63) / 64)))
    (lacks : LacksAt spelled lines place) :
    ∃ first before after, order = before ++ first / 64 :: after ∧
      MetFirst spelled lines order first ∧
      ∀ index ∈ before, ∀ other, LacksAt spelled lines other → other / 64 ≠ index := by
  have within : place / 64 ∈ order := complete.mem_iff.mpr (List.mem_range.mpr lacks.in_chunks)
  obtain ⟨before, index, after, split, ⟨other, other_lacks, belongs⟩, passed⟩ :=
    exists_cut (⟨place / 64, within, place, lacks, rfl⟩ :
      ∃ index ∈ order, ∃ other, LacksAt spelled lines other ∧ other / 64 = index)
  obtain ⟨first, first_lacks, same, least⟩ := exists_first other_lacks
  have apart : ∀ index ∈ before, ∀ other, LacksAt spelled lines other → other / 64 ≠ index :=
    fun index member other lacks belongs => passed index member ⟨other, lacks, belongs⟩
  -- No chunk before the cut has such lines, so all that have some come at the cut or behind it.
  have behind : ∀ other, LacksAt spelled lines other →
      order.idxOf (other / 64) = before.length + (index :: after).idxOf (other / 64) := by
    intro other lacks
    have absent : other / 64 ∉ before := fun member => apart _ member other lacks rfl
    rw [split, List.idxOf_append_of_notMem absent]
  have at_cut : first / 64 = index := same.trans belongs
  refine ⟨first, before, after, by rw [at_cut, split], ⟨first_lacks, least, ?_⟩, apart⟩
  intro other lacks
  rw [behind first first_lacks, behind other lacks, at_cut, List.idxOf_cons_self, Nat.add_zero]
  exact Nat.le_add_right _ _

/-- The run of the chunks in an order ends with the line that is met first. -/
theorem outcome_of_lacks (counted : lines.length < 2 ^ 64)
    (complete : order.Perm (List.range ((lines.length + 63) / 64)))
    (lacks : LacksAt spelled lines place) :
    ∃ first, MetFirst spelled lines order first ∧
      (calibrateAlong (ruleOf spelled) lines order).outcome = .error (lackStop (first + 1)) := by
  obtain ⟨first, before, after, split, met, apart⟩ := exists_metFirst complete lacks
  have stopped := outcome_runChunk_of_stop (subtotal_of_first met.lacks met.first_in_chunk counted)
  -- The chunks before the failing one have no line that lacks digits.
  have arrived : ∀ index ∈ before,
      ∃ value, (runChunk (ruleOf spelled) lines index).outcome = .ok value := by
    intro index member
    obtain ⟨sum, found⟩ := exists_subtotal (apart index member)
    exact ⟨(index, sum), by rw [runChunk_of_ok found]⟩
  refine ⟨first, met, ?_⟩
  have ended : (order.mapM (runChunk (ruleOf spelled) lines)).outcome =
      .error (lackStop (first + 1)) := by
    rw [split]
    exact Reporting.outcome_mapM_of_stop arrived stopped
  rw [calibrateAlong, Reporting.bind_of_stop ended]

/-- The sums of the first chunks are the sum of the first values. -/
theorem sum_subtotalOf (values : List Nat) (count : Nat) :
    ((List.range count).map (subtotalOf values)).sum = (values.take (64 * count)).sum := by
  -- The induction counts chunks; one more of them takes 64 values more.
  induction count with
  | zero => rfl
  | succ count ih =>
    rw [List.range_succ, List.map_append, List.sum_append, ih, Nat.mul_succ, List.take_add,
      List.sum_append]
    simp [subtotalOf]

/-- The sums of all chunks are the sum of all values. -/
theorem sum_subtotals {values : List Nat} {count : Nat} (enough : values.length ≤ 64 * count) :
    ((List.range count).map (subtotalOf values)).sum = values.sum := by
  -- Enough chunks take all values.
  rw [sum_subtotalOf, List.take_of_length_le enough]

/-- The sums of chunks in any order are added up to the sum of all values, if the words hold it. -/
theorem sum_sorted (complete : order.Perm (List.range ((lines.length + 63) / 64)))
    (count : values.length = lines.length) :
    longWord.sum (((order.map fun index => (index, (subtotalOf values index : Int))).mergeSort
      fun first second => first.1 ≤ second.1).map (·.2)) =
      if values.sum < 2 ^ 64 then .ok (values.sum : Int) else .error .add := by
  generalize sorted : ((order.map fun index => (index, (subtotalOf values index : Int))).mergeSort
    fun first second => first.1 ≤ second.1).map (·.2) = numbers
  -- Sorting leaves the sums the same but for their order.
  have sums : numbers.Perm (((List.range ((lines.length + 63) / 64)).map
      (subtotalOf values)).map Nat.cast) := by
    rw [← sorted]
    refine ((List.mergeSort_perm _ _).map _).trans ?_
    rw [List.map_map, List.map_map]
    exact complete.map _
  have total : numbers.sum = (values.sum : Int) := by
    rw [sums.sum_eq, ← Nat.cast_list_sum, sum_subtotals (by omega)]
  have nonneg : ∀ number ∈ numbers, 0 ≤ number := by
    intro number member
    obtain ⟨sum, _, rfl⟩ := List.mem_map.mp (sums.mem_iff.mp member)
    exact Int.natCast_nonneg sum
  have added := sum_of_nonneg (Int.le_refl 0) (by decide) nonneg
  rw [total, Int.zero_add] at added
  have same : (values.sum : Int) < 2 ^ 64 ↔ values.sum < 2 ^ 64 := by omega
  simp only [same] at added
  exact added

/-- Chunks of lines with values report their sums in their order, and the sums of all of them make the answer. -/
theorem calibrateAlong_of_values
    (complete : order.Perm (List.range ((lines.length + 63) / 64)))
    (found : lines.map (valueOf? (ruleOf spelled)) = values.map some) :
    calibrateAlong (ruleOf spelled) lines order =
      ⟨order.map fun index => chunkReport index (subtotalOf values index),
        if values.sum < 2 ^ 64 then .ok (Text.natText values.sum) else .error (.ofOverflow .add)⟩ := by
  have count : values.length = lines.length := by simpa using (congrArg List.length found).symm
  -- Every chunk of the order is summed and reported, so no error is met.
  have ran : order.mapM (runChunk (ruleOf spelled) lines) =
      ⟨order.map fun index => chunkReport index (subtotalOf values index),
        .ok (order.map fun index => (index, (subtotalOf values index : Int)))⟩ := by
    have chunks : ∀ index ∈ order, runChunk (ruleOf spelled) lines index =
        ⟨[chunkReport index (subtotalOf values index)],
          .ok (index, (subtotalOf values index : Int))⟩ := by
      intro index _
      rw [runChunk_of_ok (subtotal_of_values found index), Text.intText_natCast]
      rfl
    rw [Reporting.mapM_congr chunks, Reporting.mapM_of_ok fun _ _ => rfl]
    simp [List.map_eq_flatMap]
  rw [calibrateAlong, ran, Reporting.bind_of_ok rfl]
  simp only [sum_sorted complete count]
  -- The sum of all chunks is the only number that may leave its word.
  split
  · rw [← Text.intText_natCast values.sum]
    simp [Reporting.checked, Except.mapError, Reporting.bind_of_ok, pure, Reporting.done]
  · rw [Reporting.bind_of_stop rfl]
    simp [Reporting.checked]

/-- Errors that name lines by different numbers are different. -/
theorem lackStop_inj {first second : Nat} : lackStop first = lackStop second ↔ first = second := by
  simp [lackStop, Text.natText_inj]

/-- A line without digits stands somewhere in its list. -/
theorem exists_lacksAt (lacking : ∃ line ∈ lines, Lacks spelled line) :
    ∃ place, LacksAt spelled lines place := by
  -- A line in the list has a place there.
  obtain ⟨line, member, lacks⟩ := lacking
  obtain ⟨place, read⟩ := List.mem_iff_getElem?.mp member
  exact ⟨place, line, read, lacks⟩

/-- In the order of the chunks themselves the line that is met first is the first one of the list. -/
theorem MetFirst.le_of_range {other : Nat}
    (met : MetFirst spelled lines (List.range ((lines.length + 63) / 64)) place)
    (lacks : LacksAt spelled lines other) : place ≤ other := by
  have at_index : ∀ place, LacksAt spelled lines place →
      (List.range ((lines.length + 63) / 64)).idxOf (place / 64) = place / 64 := by
    intro place lacks
    have inside : place / 64 < (List.range ((lines.length + 63) / 64)).length := by
      rw [List.length_range]
      exact lacks.in_chunks
    have found := List.nodup_range.idxOf_getElem (place / 64) inside
    rwa [List.getElem_range] at found
  have earlier := met.first_in_order other lacks
  rw [at_index place met.lacks, at_index other lacks] at earlier
  -- A chunk with the line is either the same one or begins behind it.
  by_cases same : other / 64 = place / 64
  · exact met.first_in_chunk other lacks same
  · omega

/-- A chunk that comes first has the line that is met first, if it has any without digits. -/
theorem MetFirst.belongs {rest : List Nat} {other : Nat}
    (met : MetFirst spelled lines (other / 64 :: rest) place) (lacks : LacksAt spelled lines other) :
    place / 64 = other / 64 := by
  have earlier := met.first_in_order other lacks
  rw [List.idxOf_cons_self] at earlier
  -- In another chunk the place would come later in the order than the head.
  by_contra apart
  rw [List.idxOf_cons_ne rest (Ne.symm apart)] at earlier
  omega

/-- Lines have some values exactly if the rule finds these in them. -/
theorem forall₂_hasValue_iff : List.Forall₂ (HasValue spelled) lines values ↔
    lines.map (valueOf? (ruleOf spelled)) = values.map some := by
  -- Having a value is the same as being given one.
  have same : HasValue spelled = fun line value => valueOf? (ruleOf spelled) line = some value := by
    funext line value
    exact propext hasValue_iff
  rw [← List.forall₂_eq_eq_eq, List.forall₂_map_left_iff, List.forall₂_map_right_iff, same]

/-- The values of lines add up to less than a hundred for each line. -/
theorem sum_le_of_forall₂ (valued : List.Forall₂ (HasValue spelled) lines values) :
    values.sum ≤ 99 * lines.length := by
  -- The induction follows lines and values, each value being at most 99.
  induction valued with
  | nil => exact Nat.zero_le _
  | cons first _ ih =>
    have small := first.le
    rw [List.sum_cons, List.length_cons]
    omega

end Orders

/-- Chunks that are summed in any order report the sums of their lines and add up to the sum of all lines.

A line without digits ends the run with an error that names such a line. -/
theorem chunks_sum_values (spelled : Bool) {lines : List (List Char)} {order : List Nat}
    (counted : lines.length < 2 ^ 64)
    (complete : order.Perm (List.range ((lines.length + 63) / 64))) :
    let run := calibrateAlong (ruleOf spelled) lines order
    ((∀ line ∈ lines, ∃ place digit, DigitAt spelled line place digit) →
      ∃ values, List.Forall₂ (HasValue spelled) lines values ∧
        run.reports = order.map (fun index => chunkReport index (subtotalOf values index)) ∧
        ((List.range ((lines.length + 63) / 64)).map (subtotalOf values)).sum = values.sum ∧
        (∀ text, run.outcome = .ok text ↔
          values.sum < 2 ^ 64 ∧ text = Text.natText values.sum) ∧
        (lines.length ≤ 2 ^ 57 → values.sum < 2 ^ 64)) ∧
    ((∃ line ∈ lines, Lacks spelled line) → ∃ place, LacksAt spelled lines place ∧
      run.outcome = .error (lackStop (place + 1))) := by
  intro run
  constructor
  · -- With digits in every line all chunks are summed, and only the total may overflow.
    intro digits
    have whole : ∀ line ∈ lines, ¬Lacks spelled line :=
      fun line member => not_lacks_iff.mpr (digits line member)
    obtain ⟨values, found⟩ := exists_values whole
    have valued := forall₂_hasValue_iff.mpr found
    have most := sum_le_of_forall₂ valued
    have ran := calibrateAlong_of_values complete found
    refine ⟨values, valued, congrArg Reporting.reports ran, sum_subtotals ?_, ?_, fun few => by omega⟩
    · rw [← valued.length_eq]
      omega
    · intro text
      have ended : run.outcome = _ := congrArg Reporting.outcome ran
      -- The outcome is the total where it fits, and nothing else then.
      rw [ended]
      split
      · rename_i fits
        simp only [fits, true_and, Except.ok.injEq]
        exact eq_comm
      · rename_i large
        simp only [large, false_and, reduceCtorEq]
  · -- A line without digits makes the chunk fail that is met first in the order.
    intro lacking
    obtain ⟨place, lacks⟩ := exists_lacksAt lacking
    obtain ⟨first, met, ended⟩ := outcome_of_lacks counted complete lacks
    exact ⟨first, met.lacks, ended⟩

/-- Spelled digits that overlap, and one line more than a chunk has, with wide characters in front of its digits. -/
def overlapping : List (List Char) :=
  List.replicate 64 ['t', 'w', 'o', 'n', 'e'] ++ [['¼', 'e', 'i', 'g', 'h', 't', 'w', 'o', '½']]

/-- The short chunk is summed first, and both sums are of the digits at the ends of the lines. -/
theorem chunks_sum_values_overlapping :
    overlapping.length < 2 ^ 64 ∧ [1, 0].Perm (List.range ((overlapping.length + 63) / 64)) ∧
      (∀ line ∈ overlapping, ∃ place digit, DigitAt true line place digit) ∧
      (calibrateAlong (ruleOf true) overlapping [1, 0]).reports =
        [chunkReport 1 82, chunkReport 0 1344] ∧
      (calibrateAlong (ruleOf true) overlapping [1, 0]).outcome = .ok "1426" := by
  have counted : overlapping.length < 2 ^ 64 := by decide
  have complete : [1, 0].Perm (List.range ((overlapping.length + 63) / 64)) := by decide
  -- Each line has its digits overlapping, and the last one is alone in the second chunk.
  have found : overlapping.map (valueOf? (ruleOf true)) =
      (List.replicate 64 21 ++ [82]).map some := by decide +kernel
  have digits : ∀ line ∈ overlapping, ∃ place digit, DigitAt true line place digit := by
    intro line member
    obtain ⟨value, _, valued⟩ : ∃ value ∈ List.replicate 64 21 ++ [82], some value =
        valueOf? (ruleOf true) line := by
      rw [← List.mem_map, ← found]
      exact List.mem_map_of_mem member
    rw [← not_lacks_iff, lacks_iff, ← valued]
    exact Option.some_ne_none value
  obtain ⟨values, valued, reports, _, answers, _⟩ :=
    (chunks_sum_values true counted complete).1 digits
  -- Values are determined by the lines, so they are the ones that were computed.
  have same : values = List.replicate 64 21 ++ [82] := by
    rw [forall₂_hasValue_iff, found] at valued
    exact (List.map_injective_iff.mpr (Option.some_injective Nat) valued).symm
  subst same
  exact ⟨counted, complete, digits, reports, (answers "1426").mpr (by decide +kernel)⟩

/-- The error of a run names the line without digits that the order of the chunks meets first.

In the order of the list that is the first such line, and it is the same line in all orders exactly if all such
lines are in one chunk. -/
theorem error_follows_order (spelled : Bool) {lines : List (List Char)}
    (counted : lines.length < 2 ^ 64) (lacking : ∃ line ∈ lines, Lacks spelled line) :
    let chunks := List.range ((lines.length + 63) / 64)
    let outcome := fun order => (calibrateAlong (ruleOf spelled) lines order).outcome
    (∀ order, order.Perm chunks → ∃ place, MetFirst spelled lines order place ∧
      outcome order = .error (lackStop (place + 1))) ∧
    (∃ place, LacksAt spelled lines place ∧ (∀ other, LacksAt spelled lines other → place ≤ other) ∧
      outcome chunks = .error (lackStop (place + 1))) ∧
    ((∀ first second, first.Perm chunks → second.Perm chunks → outcome first = outcome second) ↔
      ∀ place other, LacksAt spelled lines place → LacksAt spelled lines other →
        place / 64 = other / 64) := by
  intro chunks outcome
  obtain ⟨place, lacks⟩ := exists_lacksAt lacking
  have ends : ∀ order, order.Perm chunks → ∃ place, MetFirst spelled lines order place ∧
      outcome order = .error (lackStop (place + 1)) :=
    fun order complete => outcome_of_lacks counted complete lacks
  refine ⟨ends, ?_, ?_, ?_⟩
  · obtain ⟨first, met, ended⟩ := ends chunks (List.Perm.refl _)
    exact ⟨first, met.lacks, fun other => met.le_of_range, ended⟩
  · -- Each chunk with such lines can come first, and then the error names one of its lines.
    intro always place other lacks lacks'
    have leads : ∀ place, LacksAt spelled lines place → ∃ order, order.Perm chunks ∧
        ∃ first, first / 64 = place / 64 ∧ outcome order = .error (lackStop (first + 1)) := by
      intro place lacks
      have inside : place / 64 ∈ chunks := List.mem_range.mpr lacks.in_chunks
      have complete := (List.perm_cons_erase inside).symm
      obtain ⟨first, met, ended⟩ := ends _ complete
      exact ⟨_, complete, first, met.belongs lacks, ended⟩
    obtain ⟨order, complete, first, belongs, ended⟩ := leads place lacks
    obtain ⟨order', complete', first', belongs', ended'⟩ := leads other lacks'
    have same := always order order' complete complete'
    rw [ended, ended', Except.error.injEq, lackStop_inj, Nat.add_right_cancel_iff] at same
    rw [← belongs, ← belongs', same]
  · intro together first second complete complete'
    obtain ⟨place, met, ended⟩ := ends first complete
    obtain ⟨other, met', ended'⟩ := ends second complete'
    have same := together place other met.lacks met'.lacks
    have equal : place = other := Nat.le_antisymm (met.first_in_chunk other met'.lacks same.symm)
      (met'.first_in_chunk place met.lacks same)
    rw [ended, ended', equal]

/-- The first line of a chunk lacks digits, and so does the only line of the next chunk. -/
def gappy : List (List Char) := ['x'] :: List.replicate 63 ['1'] ++ [['y']]

/-- In the order of the list the first line is named, and not all orders agree. -/
theorem error_follows_order_gappy :
    gappy.length < 2 ^ 64 ∧ (∃ line ∈ gappy, Lacks false line) ∧
      (calibrateAlong (ruleOf false) gappy [0, 1]).outcome = .error (lackStop 1) ∧
      ¬∀ first second, first.Perm [0, 1] → second.Perm [0, 1] →
        (calibrateAlong (ruleOf false) gappy first).outcome =
          (calibrateAlong (ruleOf false) gappy second).outcome := by
  have counted : gappy.length < 2 ^ 64 := by decide
  -- The first line and the last one lack digits, and they are in different chunks.
  have first : LacksAt false gappy 0 := ⟨['x'], rfl, lacks_iff.mpr (by decide)⟩
  have last : LacksAt false gappy 64 := ⟨['y'], rfl, lacks_iff.mpr (by decide)⟩
  have lacking : ∃ line ∈ gappy, Lacks false line := ⟨['x'], by decide, lacks_iff.mpr (by decide)⟩
  obtain ⟨_, ⟨place, _, least, ended⟩, same⟩ := error_follows_order false counted lacking
  have front : place = 0 := Nat.le_zero.mp (least 0 first)
  subst front
  exact ⟨counted, lacking, ended, fun always => absurd (same.mp always 0 64 first last) (by decide)⟩

/-- The second chunk comes first, and its line is named though the first line of the list lacks digits too. -/
theorem not_error_of_first_line :
    [1, 0].Perm (List.range ((gappy.length + 63) / 64)) ∧ LacksAt false gappy 0 ∧
      (calibrateAlong (ruleOf false) gappy [0, 1]).outcome = .error (lackStop 1) ∧
      (calibrateAlong (ruleOf false) gappy [1, 0]).outcome = .error (lackStop 65) ∧
      lackStop 1 ≠ lackStop 65 := by
  -- The chunk of the last line is met first in the second order.
  have first : LacksAt false gappy 0 := ⟨['x'], rfl, lacks_iff.mpr (by decide)⟩
  exact ⟨by decide, first, by decide +kernel, by decide +kernel, by decide +kernel⟩

end SolverHub.Calibration
