import SolverHub.Proofs.Puzzles.Packing
import SolverHub.Proofs.Puzzles.RowLines
import SolverHub.Proofs.Puzzles.SpinCycle
import SolverHub.Proofs.Text.Decimal

/-! A platform in one list of cells is read, tilted and weighed without a crash. -/

namespace SolverHub.Platform

namespace Flat

/-- The cells of the rows of the lines from an index on, up to the first fault. -/
def cellsFrom (width : Nat) : Int → List (List Char) → Except Stop (List Cell)
  | _, [] => .ok []
  | index, line :: rest => do
    let bytes := lineBytes line
    if bytes.length ≠ width then do
      let number ← Guard.add Guard.size index 1
      Guard.parsed <| .error <| .invalidFormat <| "row " ++ Text.intText number ++ " has width " ++
        Text.natText bytes.length ++ ", expected " ++ Text.natText width
    else match bytes.find? fun byte => (Cell.ofByte? byte).isNone with
      | some byte => do
        let number ← Guard.add Guard.size index 1
        Guard.parsed <| .error <| .invalidFormat <| "unexpected " ++
          Text.quotedChar (Char.ofNat byte.toNat) ++ " in row " ++ Text.intText number
      | none => do
        let cells ← cellsFrom width (index + 1) rest
        return bytes.filterMap Cell.ofByte? ++ cells

/-- A platform is as wide as its first row, and has room for as many rows of that width as there are lines. -/
def parse (input : String) : Except Stop Flat :=
  match rowLines input with
  | [] => Guard.parsed (.error (.missingData "empty platform"))
  | first :: rest => do
    let width := (lineBytes first).length
    let count ← Guard.mul Guard.size width (first :: rest).length
    Guard.room count
    let cells ← cellsFrom width 0 (first :: rest)
    return ⟨width, (first :: rest).length, cells⟩

/-- The rows of the cells. -/
def rows (flat : Flat) : Except Stop (List (List Cell)) :=
  Guard.chunks flat.width flat.cells

/-- The rows as texts. -/
def render (flat : Flat) : Except Stop (List String) := do
  return (← flat.rows).map fun row => String.ofList (row.map Cell.toChar)

/-- The rows in colour. -/
def glyphs (flat : Flat) : Except Stop (List (List Glyph)) := do
  return (← flat.rows).map fun row => row.map Cell.toGlyph

/-- One cycle tilts the platform north, west, south and east. -/
def spin (flat : Flat) : Except Stop Flat :=
  [Direction.north, .west, .south, .east].foldlM tilt flat

/-- A number of cycles one after another. -/
def spinTimes : Nat → Flat → Except Stop Flat
  | 0, flat => .ok flat
  | cycles + 1, flat => do spinTimes cycles (← flat.spin)

/-- The load of the rows from a row on, each round rock weighing its distance from the south edge. -/
def loadFrom (height : Nat) : Nat → Int → List (List Cell) → Except Stop Int
  | _, sum, [] => .ok sum
  | y, sum, row :: rest => do
    let distance ← Guard.sub Guard.size height y
    let weight ← Guard.mul Guard.size (row.count .round) distance
    let sum ← Guard.add Guard.size sum weight
    loadFrom height (y + 1) sum rest

/-- The load on the north edge. -/
def northLoad (flat : Flat) : Except Stop Int := do
  loadFrom flat.height 0 0 (← flat.rows)

/-- The cycles that are left are run until the cells are as after an earlier one, whose number they had. -/
def spinRest (cycles : Int) : Nat → List (List Cell × Int) → Int → Flat → Reporting Flat
  | 0, _, _, flat => return flat
  | left + 1, seen, cycle, flat =>
    match seen.lookup flat.cells with
    | some first => do
      let period ← Guard.quietly (Guard.sub Guard.size cycle first)
      .report (.text ("cycle " ++ Text.intText cycle ++ " repeats cycle " ++ Text.intText first ++
        " (period " ++ Text.intText period ++ ")"))
      let rest ← Guard.quietly do Guard.rem (← Guard.sub Guard.size cycles cycle) period
      Guard.quietly (spinTimes rest.toNat flat)
    | none => do
      let spun ← Guard.quietly flat.spin
      let next ← Guard.quietly (Guard.add Guard.size cycle 1)
      spinRest cycles left ((flat.cells, cycle) :: seen) next spun

/-- The load after the platform has been tilted north once. -/
def solveTilt (flat : Flat) : Reporting String := do
  .report (.grid (← Guard.quietly flat.render))
  let tilted ← Guard.quietly (flat.tilt .north)
  .report (.glyphGrid (← Guard.quietly tilted.glyphs))
  return Text.intText (← Guard.quietly tilted.northLoad)

/-- The load after a number of cycles. -/
def solveSpin (cycles : Nat) (flat : Flat) : Reporting String := do
  let spun ← spinRest cycles cycles [] 0 flat
  .report (.glyphGrid (← Guard.quietly spun.glyphs))
  return Text.intText (← Guard.quietly spun.northLoad)

end Flat

/-- The two parts of the puzzle on one list of cells. -/
def guardedProblems : List Problem :=
  [Guard.part 1 (some "Load on the north beams after tilting north") Flat.parse Flat.solveTilt,
    Guard.part 2 (some "Load after a billion spin cycles") Flat.parse (Flat.solveSpin spinCycles)]

variable {platform : Platform}

/-- The rows of a platform in one list are found without a crash. -/
theorem rows_flat (formed : platform.WellFormed) : platform.flat.rows = .ok platform.rows :=
  Guard.chunks_flatten formed.width_pos formed.row_width

/-- So are their texts. -/
theorem render_flat (formed : platform.WellFormed) :
    platform.flat.render = .ok platform.render := by
  -- Both render the same rows.
  rw [Flat.render, rows_flat formed]
  rfl

/-- So are their coloured forms. -/
theorem glyphs_flat (formed : platform.WellFormed) :
    platform.flat.glyphs = .ok platform.glyphs := by
  -- Both show the same rows.
  rw [Flat.glyphs, rows_flat formed]
  rfl

/-- A platform that a text of less than two to the thirty-one bytes can hold. -/
structure Held (platform : Platform) : Prop extends platform.WellFormed where
  few : platform.width * platform.height < 2147483648

/-- Its cells are few enough to have places. -/
theorem Held.addressable (held : platform.Held) :
    platform.width * platform.height < 9223372036854775808 :=
  -- The bound for what is held leaves room up to what an offset can count.
  Nat.lt_trans held.few (by decide)

/-- A tilt leaves a platform of the same size. -/
theorem Held.tilt (held : platform.Held) (direction : Direction) :
    (platform.tilt direction).Held := by
  -- A tilt keeps the sides.
  refine ⟨held.toWellFormed.tilt direction, ?_⟩
  rw [width_tilt, height_tilt]
  exact held.few

/-- A cycle leaves a platform of the same size. -/
theorem Held.spin (held : platform.Held) : platform.spin.Held :=
  (((held.tilt .north).tilt .west).tilt .south).tilt .east

/-- A cycle runs on one list as it runs on the rows. -/
theorem spin_flat (held : platform.Held) : platform.flat.spin = .ok platform.spin.flat := by
  -- The induction follows the directions, from the platform that the first tilt leaves.
  have tilts : ∀ (directions : List Direction) (start : Platform), start.Held →
      directions.foldlM Flat.tilt start.flat = .ok (directions.foldl Platform.tilt start).flat := by
    intro directions
    induction directions with
    | nil => exact fun _ _ => rfl
    | cons direction directions ih =>
      intro start held
      rw [List.foldlM_cons, tilt_flat held.toWellFormed held.addressable, Guard.ok_bind, List.foldl_cons]
      exact ih _ (held.tilt direction)
  exact tilts _ platform held

/-- Any number of cycles run so. -/
theorem spinTimes_flat (cycles : Nat) (held : platform.Held) :
    platform.flat.spinTimes cycles = .ok (spinTimes cycles platform).flat := by
  -- The induction counts cycles, each of which keeps the platform held.
  induction cycles generalizing platform with
  | zero => rfl
  | succ cycles ih =>
    rw [Flat.spinTimes, spin_flat held, Guard.ok_bind, spinTimes]
    exact ih held.spin

/-- Rows weigh as much from any row on as they do by themselves. -/
theorem loadFrom_eq {height y : Nat} {rows : List (List Cell)} {sum : Int}
    (rest : y + rows.length = height) (small : height < 18446744073709551616) :
    Flat.loadFrom height y sum rows = (loadOf rows sum).mapError Stop.ofOverflow := by
  induction rows generalizing y sum with
  | nil => rfl
  | cons row rows ih =>
    rw [List.length_cons] at rest
    -- The height minus the row is the distance from the south edge, which is at least one.
    have same : (height : Int) - y = ((rows.length + 1 : Nat) : Int) := by omega
    have distance : Guard.sub Guard.size height y = .ok ((rows.length + 1 : Nat) : Int) := by
      rw [Guard.sub_eq, same]
      rw [same, Guard.holds_size]
      omega
    have others : ∀ sum, Flat.loadFrom height (y + 1) sum rows =
        (loadOf rows sum).mapError Stop.ofOverflow := fun sum => ih (by omega)
    rw [Flat.loadFrom, distance, Guard.ok_bind, loadOf]
    simp only [others, Guard.mapError_bind]
    rfl

/-- A platform that a text can hold has a load within the words. -/
theorem Held.exists_northLoad (held : platform.Held) :
    ∃ load, platform.northLoad = .ok load := by
  -- The sides are small enough for the load to fit a word.
  have load := northLoad_eq platform
  rw [if_pos (sum_rockDistances_lt held.toWellFormed (Nat.lt_trans held.few (by decide)))] at load
  exact ⟨_, load⟩

/-- The load of a platform in one list is its load, and is found without a crash. -/
theorem northLoad_flat (held : platform.Held) {load : Int} (found : platform.northLoad = .ok load) :
    platform.flat.northLoad = .ok load := by
  have high : platform.rows.length ≤ platform.width * platform.rows.length :=
    Nat.le_mul_of_pos_left _ held.width_pos
  have few : platform.width * platform.rows.length < 2147483648 := held.few
  -- The rows are numbered from the top, and no number reaches the bound of a word.
  have rows : Flat.loadFrom platform.height 0 0 platform.rows =
      (loadOf platform.rows 0).mapError Stop.ofOverflow :=
    loadFrom_eq (Nat.zero_add _) (by
      show platform.rows.length < _
      omega)
  have load : loadOf platform.rows 0 = .ok load := found
  rw [load] at rows
  rw [Flat.northLoad, rows_flat held.toWellFormed, Guard.ok_bind]
  exact rows

/-- Rows that are read are as many as the lines. -/
theorem length_of_parseRows {width number : Nat} {lines : List (List Char)}
    {rows : List (List Cell)} (read : parseRows width number lines = .ok rows) :
    rows.length = lines.length := by
  -- The induction follows the lines, each of which gives one row.
  induction lines generalizing number rows with
  | nil =>
    cases read
    rfl
  | cons line lines ih =>
    obtain ⟨row, _, others⟩ := bind_eq_ok.mp read
    obtain ⟨later, behind, same⟩ := bind_eq_ok.mp others
    cases same
    exact congrArg (· + 1) (ih behind)

/-- A platform that is read has the form of one and no more cells than its text has bytes. -/
theorem held_of_parse {input : String} (short : Guard.Short input)
    (read : parse input = .ok platform) : platform.Held := by
  obtain ⟨formed, lines⟩ := parse_eq_ok_iff.mp read
  -- The lines have all bytes of the rows between them.
  have total := Text.sum_byteCount_filledLines input.toList
  have filled : Text.filledLines input.toList = rowChars platform.rows := lines
  have bytes : ∀ row : List Cell, Text.byteCount (row.map Cell.toChar) = row.length := by
    intro row
    calc Text.byteCount (row.map Cell.toChar)
      _ = (lineBytes (row.map Cell.toChar)).length := (Text.length_bytes _).symm
      _ = row.length := by rw [lineBytes_toChar, List.length_map]
  have sums : ((rowChars platform.rows).map Text.byteCount).sum =
      platform.width * platform.height := by
    rw [rowChars, List.map_map, Function.comp_def, List.map_congr_left fun row _ => bytes row,
      ← List.length_flatten, Guard.length_flatten_even formed.row_width]
    rfl
  rw [filled, sums] at total
  exact ⟨formed, Nat.lt_of_le_of_lt total short⟩

/-- The rows of lines are read into one list without a crash where the lines can be numbered. -/
theorem cellsFrom_eq {width index : Nat} {lines : List (List Char)}
    (few : index + lines.length < 18446744073709551616) : Flat.cellsFrom width index lines =
      Guard.parsed ((parseRows width (index + 1) lines).map List.flatten) := by
  -- Each row is read before the rows below it, and an error tells the same number.
  induction lines generalizing index with
  | nil => rfl
  | cons line lines ih =>
    rw [List.length_cons] at few
    have number : Guard.add Guard.size index 1 = .ok ((index + 1 : Nat) : Int) :=
      Guard.add_eq (Guard.holds_size.mpr (by omega))
    have others : Flat.cellsFrom width ((index : Int) + 1) lines =
        Guard.parsed ((parseRows width (index + 1 + 1) lines).map List.flatten) :=
      @ih (index + 1) (by omega)
    rw [Flat.cellsFrom, parseRows, parseRow]
    by_cases other : (lineBytes line).length ≠ width
    · simp only [if_pos other, number, Guard.ok_bind, Text.intText_natCast]
      rfl
    · simp only [if_neg other]
      cases (lineBytes line).find? fun byte => (Cell.ofByte? byte).isNone with
      | some byte =>
        simp only [number, Guard.ok_bind, Text.intText_natCast]
        rfl
      | none =>
        simp only [others, Guard.ok_bind]
        cases parseRows width (index + 1 + 1) lines <;> rfl

/-- A short input is read into one list as it is read into rows. -/
theorem parse_flat {input : String} (short : Guard.Short input) :
    Flat.parse input = Guard.parsed ((parse input).map flat) := by
  have filled : rowLines input = Text.filledLines input.toList := rfl
  unfold Flat.parse parse
  cases lines : rowLines input with
  | nil => rfl
  | cons first rest =>
    have total := Text.sum_byteCount_filledLines input.toList
    have few := Text.length_filledLines_le input.toList
    rw [← filled, lines] at total few
    have bytes : (lineBytes first).length = Text.byteCount first := Text.length_bytes first
    have wide : (lineBytes first).length < 2147483648 := by
      rw [List.map_cons, List.sum_cons] at total
      omega
    have product : ((lineBytes first).length : Int) * ((first :: rest).length : Nat) =
        (((lineBytes first).length * (first :: rest).length : Nat) : Int) := by push_cast; rfl
    have area : (lineBytes first).length * (first :: rest).length ≤ 2147483648 * 2147483648 :=
      Nat.mul_le_mul (Nat.le_of_lt wide) (by omega)
    -- The room is asked for before the lines are known to be equally long.
    have count : Guard.mul Guard.size (lineBytes first).length ((first :: rest).length : Nat) =
        .ok (((lineBytes first).length * (first :: rest).length : Nat) : Int) := by
      rw [← product]
      exact Guard.mul_eq (Guard.holds_size.mpr (by omega))
    have room : Guard.room (((lineBytes first).length * (first :: rest).length : Nat) : Int) =
        .ok () := Guard.room_eq (by omega)
    have cells : Flat.cellsFrom (lineBytes first).length 0 (first :: rest) =
        Guard.parsed ((parseRows (lineBytes first).length 1 (first :: rest)).map List.flatten) :=
      @cellsFrom_eq _ 0 _ (by omega)
    simp only [count, room, cells, Guard.ok_bind]
    cases read : parseRows (lineBytes first).length 1 (first :: rest) with
    | error error => rfl
    | ok rows =>
      have height : (first :: rest).length = rows.length := (length_of_parseRows read).symm
      rw [height]
      rfl

/-- Cells in one list with the numbers of the cycles that they lay so before, the latest first. -/
def numbered : List (List (List Cell)) → List (List Cell × Int)
  | [] => []
  | rows :: older => (rows.flatten, older.length) :: numbered older

/-- The number found for cells is the place of the earlier cycle. -/
theorem lookup_numbered {width : Nat} {seen : List (List (List Cell))} {rows : List (List Cell)}
    (positive : 0 < width) (even : ∀ row ∈ rows, row.length = width)
    (seen_even : ∀ older ∈ seen, ∀ row ∈ older, row.length = width) :
    (numbered seen).lookup rows.flatten = (earlier? seen rows).map Int.ofNat := by
  -- The induction follows the cycles from the latest one back.
  induction seen with
  | nil => rfl
  | cons older seen ih =>
    have others := ih fun other member => seen_even other (List.mem_cons_of_mem older member)
    have older_even := seen_even older (List.mem_cons_self ..)
    rw [numbered, List.lookup_cons, earlier?_cons, others]
    by_cases same : older = rows
    · simp [same]
    · have apart : rows.flatten ≠ older.flatten := fun equal =>
        same (eq_of_flatten positive older_even even equal.symm)
      rw [if_neg same, beq_eq_false_iff_ne.mpr apart]

/-- A cycle that is found lies before those that were seen come to their end. -/
theorem earlier?_lt {seen : List (List (List Cell))} {rows : List (List Cell)} {first : Nat}
    (found : earlier? seen rows = some first) : first < seen.length := by
  -- The induction follows the history, whose length numbers the latest entry.
  induction seen with
  | nil => cases found
  | cons older seen ih =>
    rw [earlier?_cons] at found
    split at found
    · cases found
      exact Nat.lt_succ_self _
    · exact Nat.lt_succ_of_lt (ih found)

/-- The cycles that are left run on one list as they run on the rows, with the same reports. -/
theorem spinRest_flat {cycles left : Nat} {seen : List (List (List Cell))} (held : platform.Held)
    (seen_even : ∀ older ∈ seen, ∀ row ∈ older, row.length = platform.width)
    (count : seen.length + left = cycles) (small : cycles < 18446744073709551616) :
    Flat.spinRest cycles left (numbered seen) seen.length platform.flat =
      spinRest left seen platform >>= fun spun => return spun.flat := by
  -- The induction follows the cycles that are left, and each adds its cells to those seen.
  induction left generalizing platform seen with
  | zero => rfl
  | succ left ih =>
    have lookup : (numbered seen).lookup platform.flat.cells =
        (earlier? seen platform.rows).map Int.ofNat :=
      lookup_numbered held.width_pos held.row_width seen_even
    rw [Flat.spinRest, spinRest, lookup]
    cases found : earlier? seen platform.rows with
    | some first =>
      have before := earlier?_lt found
      -- The period is the positive number of cycles since the earlier one.
      have period_ne : seen.length - first ≠ 0 := Nat.sub_ne_zero_of_lt before
      have difference : (seen.length : Int) - first = ((seen.length - first : Nat) : Int) := by
        omega
      have period : Guard.sub Guard.size seen.length first =
          .ok ((seen.length - first : Nat) : Int) := by
        rw [Guard.sub_eq, difference]
        rw [difference, Guard.holds_size]
        omega
      have rest_eq : (cycles : Int) - seen.length = ((left + 1 : Nat) : Int) := by omega
      have rest : Guard.sub Guard.size cycles seen.length = .ok ((left + 1 : Nat) : Int) := by
        rw [Guard.sub_eq, rest_eq]
        rw [rest_eq, Guard.holds_size]
        omega
      have remainder : Guard.rem ((left + 1 : Nat) : Int) ((seen.length - first : Nat) : Int) =
          .ok (((left + 1) % (seen.length - first) : Nat) : Int) := by
        rw [Guard.rem_eq (by omega)]
        rfl
      have times := spinTimes_flat ((left + 1) % (seen.length - first)) held
      simp only [Option.map_some, period, rest, remainder, Guard.quietly_bind, Guard.ok_bind,
        Int.toNat_natCast, times, Text.intText_natCast, Int.ofNat_eq_natCast, if_neg period_ne]
      rfl
    | none =>
      have next : Guard.add Guard.size seen.length 1 = .ok ((seen.length + 1 : Nat) : Int) :=
        Guard.add_eq (Guard.holds_size.mpr (by omega))
      have spun_even : ∀ older ∈ platform.rows :: seen, ∀ row ∈ older,
          row.length = platform.spin.width := by
        intro older member
        rcases List.mem_cons.mp member with rfl | earlier
        · exact held.row_width
        · exact seen_even older earlier
      have others := ih held.spin spun_even (by rw [List.length_cons]; omega)
      simp only [Option.map_none, spin_flat held, next, Guard.quietly_bind]
      exact others

/-- A platform keeps its size over any number of cycles. -/
theorem Held.iterate (held : platform.Held) (cycles : Nat) :
    (Platform.spin^[cycles] platform).Held := by
  -- The induction counts cycles, from the platform behind the first one.
  induction cycles generalizing platform with
  | zero => exact held
  | succ cycles ih => exact ih held.spin

/-- The first part runs on one list as it runs on the rows, to its answer. -/
theorem solveTilt_flat (held : platform.Held) :
    platform.flat.solveTilt = platform.solveTilt ∧ Guard.Safe platform.solveTilt.outcome := by
  have tilted := held.tilt .north
  -- The tilted platform is held as well, so its load is found.
  obtain ⟨load, weighed⟩ := tilted.exists_northLoad
  rw [Flat.solveTilt, solveTilt, render_flat held.toWellFormed, Guard.quietly_bind,
    tilt_flat held.toWellFormed held.addressable]
  simp only [Guard.quietly_bind, glyphs_flat tilted.toWellFormed, northLoad_flat tilted weighed,
    weighed]
  exact ⟨rfl, Guard.safe_ok _⟩

/-- The second part runs on one list as it runs on the rows, to its answer. -/
theorem solveSpin_flat (held : platform.Held) {cycles : Nat}
    (small : cycles < 18446744073709551616) :
    platform.flat.solveSpin cycles = platform.solveSpin cycles ∧
      Guard.Safe (platform.solveSpin cycles).outcome := by
  have last := held.iterate cycles
  obtain ⟨load, weighed⟩ := last.exists_northLoad
  obtain ⟨arrived, _⟩ := spinMany_exact cycles platform
  -- The flat loop starts with an empty history and the whole number of cycles.
  have run : Flat.spinRest cycles cycles [] 0 platform.flat =
      spinMany cycles platform >>= fun spun => return spun.flat :=
    @spinRest_flat platform cycles cycles [] held nofun (Nat.zero_add cycles) small
  -- Whatever the loop skips, it arrives at the platform after all cycles.
  have outcome : (spinMany cycles platform >>= fun spun => return spun.flat :
      Reporting Flat).outcome = .ok (Platform.spin^[cycles] platform).flat := by
    rw [Reporting.bind_of_ok arrived]
    rfl
  rw [Flat.solveSpin, solveSpin, run, Reporting.bind_of_ok outcome, Reporting.bind_of_ok arrived,
    Reporting.bind_of_ok arrived]
  simp only [Guard.quietly_bind, glyphs_flat last.toWellFormed, northLoad_flat last weighed,
    weighed]
  refine ⟨?_, Guard.safe_ok _⟩
  show (⟨(spinMany cycles platform).reports ++ [] ++ _, _⟩ : Reporting String) = _
  rw [List.append_nil]
  rfl

/-- Both parts are guarded without a difference, and no short input crashes them. -/
theorem guardedProblems_agree {input : String}
    (short : Guard.Short input) :
    List.Forall₂ (Guard.Agrees input) guardedProblems problems := by
  have reads := parse_flat short
  -- There are two parts, which read the same input.
  refine .cons ?_ (.cons ?_ .nil)
  · apply Guard.agrees_part reads
    intro platform read
    exact solveTilt_flat (held_of_parse short read)
  · apply Guard.agrees_part reads
    intro platform read
    exact solveSpin_flat (held_of_parse short read) (by decide)

end SolverHub.Platform
