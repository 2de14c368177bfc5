import Mathlib.Algebra.Ring.Nat
import SolverHub.Proofs.Puzzles.FlatTilt
import SolverHub.Proofs.Text.Decimal

/-! A tilt packs every run of cells between cubes, and the north load is the sum over the rocks of their distances. -/

namespace SolverHub.Platform

/-- A run that is packed towards its front holds the round rocks that it had, and behind them nothing. -/
def pack (run : List Cell) : List Cell :=
  List.replicate (run.count .round) .round ++ List.replicate (run.length - run.count .round) .free

/-- A part of a line is a run as long as it can be: it has no cubes, and ends at cubes or borders. -/
structure IsRun (front run back : List Cell) : Prop where
  cubeless : Cell.cube ∉ run
  front_ends : front = [] ∨ front.getLast? = some .cube
  back_begins : back = [] ∨ back.head? = some .cube

/-- One line is another one with its cubes in place and all its runs packed towards the front. -/
structure Packs (cells packed : List Cell) : Prop where
  length_eq : packed.length = cells.length
  cube_iff : ∀ place : Nat, packed[place]? = some .cube ↔ cells[place]? = some .cube
  run_packed : ∀ front run back, cells = front ++ run ++ back → IsRun front run back →
    (packed.drop front.length).take run.length = pack run

section Lines

/-- What lies behind a cube makes no difference to what settles in front of it. -/
theorem settle_append_cube (settled far : List Cell) (cell : Cell) :
    settle (settled ++ .cube :: far) cell = settle settled cell ++ .cube :: far := by
  cases cell with
  | cube => rfl
  | free => rfl
  | round =>
    -- The free cells that a rock rolls over come to an end at the cube.
    have parts : (settled ++ .cube :: far).takeWhile (· = .free) = settled.takeWhile (· = .free) ∧
        (settled ++ .cube :: far).dropWhile (· = .free) =
          settled.dropWhile (· = .free) ++ .cube :: far := by
      induction settled with
      | nil => exact ⟨rfl, rfl⟩
      | cons first rest ih => by_cases free : first = .free <;> simp [free, ih]
    rw [settle, settle, parts.1, parts.2, List.append_assoc, List.cons_append]

/-- So all cells behind a cube settle by themselves. -/
theorem foldl_settle_append_cube (line settled far : List Cell) :
    line.foldl settle (settled ++ .cube :: far) = line.foldl settle settled ++ .cube :: far := by
  -- The induction is on the line for any settled cells, since each cell adds one to them.
  induction line generalizing settled with
  | nil => rfl
  | cons cell line ih => rw [List.foldl_cons, settle_append_cube, ih, List.foldl_cons]

/-- A cube divides a line into two that roll on their own. -/
theorem rollForward_append_cube (front back : List Cell) :
    rollForward (front ++ .cube :: back) = rollForward front ++ .cube :: rollForward back := by
  -- The cube settles on top of the front, which the cells of the back do not reach any more.
  have behind := foldl_settle_append_cube back [] (front.foldl settle [])
  rw [List.nil_append] at behind
  have cube : settle (front.foldl settle []) .cube = .cube :: front.foldl settle [] := rfl
  simp only [rollForward, List.foldl_append, List.foldl_cons, cube, behind, List.reverse_append,
    List.reverse_cons, List.append_assoc, List.singleton_append]

/-- Cells without a cube settle with the free ones in front, the nearest of which comes first. -/
theorem foldl_settle_of_cubeless {run : List Cell} (cubeless : Cell.cube ∉ run) (free rocks : Nat) :
    run.foldl settle (List.replicate free .free ++ List.replicate rocks .round) =
      List.replicate (free + (run.length - run.count .round)) .free ++
        List.replicate (rocks + run.count .round) .round := by
  -- The invariant of the fold is this shape: free cells in front of the rocks that came to rest.
  induction run generalizing free rocks with
  | nil => rfl
  | cons cell run ih =>
    obtain ⟨first, others⟩ := not_or.mp fun either => cubeless (List.mem_cons.mpr either)
    have fewer : run.count .round ≤ run.length := List.count_le_length
    rw [List.foldl_cons, List.length_cons]
    cases cell with
    | cube => exact absurd rfl first
    | free =>
      -- A free cell lies in front of the others.
      have settled : settle (List.replicate free .free ++ List.replicate rocks .round) .free =
          List.replicate (free + 1) .free ++ List.replicate rocks .round := rfl
      have count : (Cell.free :: run).count .round = run.count .round := List.count_cons_of_ne (by decide)
      rw [settled, ih others, count]
      congr 2
      omega
    | round =>
      -- A rock rolls over all free cells, up to the other rocks.
      have settled : settle (List.replicate free .free ++ List.replicate rocks .round) .round =
          List.replicate free .free ++ List.replicate (rocks + 1) .round := by
        have stop : (List.replicate rocks Cell.round).takeWhile (· = .free) = [] := by
          cases rocks <;> rfl
        have rest : (List.replicate rocks Cell.round).dropWhile (· = .free) =
            List.replicate rocks .round := by
          cases rocks <;> rfl
        have front : ∀ cell ∈ List.replicate free Cell.free, decide (cell = .free) = true :=
          fun cell member => decide_eq_true (List.eq_of_mem_replicate member)
        rw [settle, List.takeWhile_append_of_pos front, List.dropWhile_append_of_pos front, stop,
          rest, List.append_nil, List.replicate_succ]
      have count : (Cell.round :: run).count .round = run.count .round + 1 := List.count_cons_self
      rw [settled, ih others, count]
      congr 2 <;> omega

/-- A line without cubes is a run that is packed as a whole. -/
theorem rollForward_of_cubeless {run : List Cell} (cubeless : Cell.cube ∉ run) :
    rollForward run = pack run := by
  -- Without cubes the rocks come to one pile with all free cells behind it.
  have settled := foldl_settle_of_cubeless cubeless 0 0
  simp only [List.replicate_zero, List.append_nil, Nat.zero_add] at settled
  rw [rollForward, settled, List.reverse_append, List.reverse_replicate, List.reverse_replicate, pack]

/-- A packed run has no cubes. -/
theorem cube_not_mem_pack (run : List Cell) : Cell.cube ∉ pack run := by
  simp [pack]

/-- A packed run is as long as before. -/
theorem length_pack (run : List Cell) : (pack run).length = run.length := by
  -- There are no more rocks than cells, so the free cells make up the rest.
  have fewer : run.count .round ≤ run.length := List.count_le_length
  rw [pack, List.length_append, List.length_replicate, List.length_replicate]
  omega

/-- A packed run has as many round rocks as before. -/
theorem count_pack (run : List Cell) : (pack run).count .round = run.count .round := by
  simp [pack, List.count_replicate]

/-- Packing a packed run changes nothing. -/
theorem pack_pack (run : List Cell) : pack (pack run) = pack run := by
  rw [pack, count_pack, length_pack, ← pack]

/-- What holds of runs, and behind a run and a cube, holds of every line. -/
theorem line_induction {motive : List Cell → Prop}
    (run : ∀ run, Cell.cube ∉ run → motive run)
    (cube : ∀ run back, Cell.cube ∉ run → motive back → motive (run ++ .cube :: back)) (line) :
    motive line := by
  -- The induction is on the length, since what lies behind the first cube is shorter.
  induction length : line.length using Nat.strong_induction_on generalizing line with
  | _ n ih =>
    by_cases member : Cell.cube ∈ line
    · obtain ⟨first, back, rfl, cubeless⟩ := List.eq_append_cons_of_mem member
      rw [List.length_append, List.length_cons] at length
      exact cube first back cubeless (ih back.length (by omega) back rfl)
    · exact run line member

/-- A line that has rolled stays as it is when it rolls again. -/
theorem rollForward_rollForward (line : List Cell) :
    rollForward (rollForward line) = rollForward line := by
  -- Rolling packs one run after another, and a packed run stays.
  induction line using line_induction with
  | run run cubeless =>
    rw [rollForward_of_cubeless cubeless, rollForward_of_cubeless (cube_not_mem_pack run), pack_pack]
  | cube run back cubeless ih =>
    rw [rollForward_append_cube, rollForward_append_cube, ih, rollForward_of_cubeless cubeless,
      rollForward_of_cubeless (cube_not_mem_pack run), pack_pack]

/-- The cubes of a line are where they were after it has rolled. -/
theorem map_cube_rollForward (line : List Cell) :
    (rollForward line).map (· = .cube) = line.map (· = .cube) := by
  -- A run has no cubes before and after, and is as long.
  have none : ∀ {run : List Cell}, Cell.cube ∉ run →
      run.map (· = .cube) = List.replicate run.length False := by
    intro run cubeless
    refine List.eq_replicate_iff.mpr ⟨List.length_map _, fun other member => ?_⟩
    obtain ⟨cell, inside, rfl⟩ := List.mem_map.mp member
    exact eq_false fun same => cubeless (same ▸ inside)
  induction line using line_induction with
  | run run cubeless =>
    rw [rollForward_of_cubeless cubeless, none cubeless, none (cube_not_mem_pack run), length_pack]
  | cube run back cubeless ih =>
    rw [rollForward_append_cube, List.map_append, List.map_cons, ih, rollForward_of_cubeless cubeless,
      none (cube_not_mem_pack run), length_pack, ← none cubeless, List.map_append, List.map_cons]

/-- What follows a part that ends at a cube or border rolls on its own. -/
theorem rollForward_append_of_ends {front : List Cell} (rest : List Cell)
    (ends : front = [] ∨ front.getLast? = some .cube) :
    rollForward (front ++ rest) = rollForward front ++ rollForward rest := by
  -- A cube at the end keeps what is behind it from rolling further.
  rcases ends with rfl | last
  · rfl
  · obtain ⟨before, rfl⟩ := List.getLast?_eq_some_iff.mp last
    rw [List.append_assoc, List.singleton_append, rollForward_append_cube, rollForward_append_cube]
    simp [rollForward]

/-- So does what comes in front of a part that begins at a cube or border. -/
theorem rollForward_append_of_begins {back : List Cell} (rest : List Cell)
    (begins : back = [] ∨ back.head? = some .cube) :
    rollForward (rest ++ back) = rollForward rest ++ rollForward back := by
  -- A cube in front keeps what is behind it from rolling further.
  rcases begins with rfl | first
  · rw [List.append_nil]
    exact (List.append_nil _).symm
  · obtain ⟨after, rfl⟩ := List.head?_eq_some_iff.mp first
    have alone := rollForward_append_cube [] after
    rw [List.nil_append] at alone
    rw [rollForward_append_cube, alone]
    rfl

/-- Rolling a line packs it. -/
theorem packs_rollForward (line : List Cell) : Packs line (rollForward line) := by
  refine ⟨length_rollForward line, fun place => ?_, ?_⟩
  · have same := congrArg (·[place]?) (map_cube_rollForward line)
    simp only [List.getElem?_map] at same
    have found : ∀ cell? : Option Cell, cell? = some .cube ↔ cell?.map (· = .cube) = some True := by
      intro cell?
      cases cell? <;> simp
    rw [found, same, ← found]
  · rintro front run back rfl ⟨cubeless, ends, begins⟩
    -- The run rolls on its own, as do the parts in front of it and behind it.
    rw [rollForward_append_of_begins _ begins, rollForward_append_of_ends _ ends,
      rollForward_of_cubeless cubeless, List.append_assoc, List.drop_left' (length_rollForward front),
      List.take_left' (length_pack run)]

end Lines

variable {platform : Platform}

/-- The cells of a line are those of the platform at their places. -/
theorem getElem?_lineOf (formed : platform.WellFormed) {direction : Direction} {l i : Nat}
    (line : l < lineCount platform.width platform.height direction)
    (within : i < lineLength platform.width platform.height direction) :
    (lineOf platform.rows direction l)[i]? =
      platform.rows.flatten[placeOf platform.width platform.height direction l i]? := by
  -- The line is cut from the joined rows at its places.
  have full : platform.rows.flatten.length = platform.width * platform.height :=
    Guard.length_flatten_even formed.row_width
  rw [← lineIn_flatten formed line, getElem?_lineIn full line within]

/-- The cells of a tilted platform at a place are those of a line that has rolled. -/
theorem getElem?_lineOf_tilt (formed : platform.WellFormed) {direction : Direction} {l i : Nat}
    (line : l < lineCount platform.width platform.height direction)
    (within : i < lineLength platform.width platform.height direction) :
    (platform.tilt direction).rows.flatten[placeOf platform.width platform.height direction l i]? =
      (rollForward (lineOf platform.rows direction l))[i]? := by
  -- The tilted platform has the same lines, and each of them has rolled.
  have there := @getElem?_lineOf _ (formed.tilt direction) direction l i
  rw [width_tilt, height_tilt] at there
  rw [← there line within, lineOf_tilt formed line]

/-- Cubes stay in their places when a platform is tilted. -/
theorem cube_iff_tilt (formed : platform.WellFormed) (direction : Direction) (place : Nat) :
    (platform.tilt direction).rows.flatten[place]? = some .cube ↔
      platform.rows.flatten[place]? = some .cube := by
  have full : platform.rows.flatten.length = platform.width * platform.height :=
    Guard.length_flatten_even formed.row_width
  by_cases inside : place < platform.width * platform.height
  · -- Every place is that of a cell in a line.
    obtain ⟨l, line, i, within, rfl⟩ := exists_placeOf direction inside
    rw [getElem?_lineOf_tilt formed line within, ← getElem?_lineOf formed line within]
    exact (packs_rollForward _).cube_iff i
  · have other_full := length_flatten_tilt formed direction
    rw [List.getElem?_eq_none (by omega), List.getElem?_eq_none (by omega)]

/-- Tilting again in the same direction changes nothing. -/
theorem tilt_tilt (formed : platform.WellFormed) (direction : Direction) :
    (platform.tilt direction).tilt direction = platform.tilt direction := by
  have tilted := formed.tilt direction
  have cells : ((platform.tilt direction).tilt direction).rows.flatten =
      (platform.tilt direction).rows.flatten := by
    -- The platforms agree place by place, and each place lies in a line that has rolled.
    refine List.ext_getElem? fun place => ?_
    by_cases inside : place < platform.width * platform.height
    · obtain ⟨l, line, i, within, rfl⟩ := exists_placeOf direction inside
      have again := @getElem?_lineOf_tilt _ tilted direction l i
      rw [width_tilt, height_tilt] at again
      rw [again line within, lineOf_tilt formed line, rollForward_rollForward,
        getElem?_lineOf_tilt formed line within]
    · have full := length_flatten_tilt formed direction
      have again := length_flatten_tilt tilted direction
      rw [width_tilt, height_tilt] at again
      rw [List.getElem?_eq_none (by omega), List.getElem?_eq_none (by omega)]
  have width : ((platform.tilt direction).tilt direction).width = (platform.tilt direction).width :=
    width_tilt _ direction
  have rows := eq_of_flatten tilted.width_pos
    (fun row member => ((tilted.tilt direction).row_width row member).trans width)
    tilted.row_width cells
  exact congrArg₂ Platform.mk width rows

section Loads

/-- The rows in which the round rocks of a platform lie, counted from the north, one for each rock. -/
def rockRows (platform : Platform) : List Nat :=
  platform.rows.zipIdx.flatMap fun (row, y) => List.replicate (row.count .round) y

/-- The distances of the round rocks of a platform from behind its last row. -/
def rockDistances (platform : Platform) : List Nat :=
  platform.rockRows.map (platform.height - ·)

/-- What rows weigh, each round rock its distance from behind the last one. -/
def weightOf : List (List Cell) → Nat
  | [] => 0
  | row :: rest => row.count .round * (rest.length + 1) + weightOf rest

/-- The weight of rows from a number on is the sum over their rocks. -/
theorem weightOf_eq (rows : List (List Cell)) (first : Nat) :
    weightOf rows = (((rows.zipIdx first).flatMap fun (row, y) =>
      List.replicate (row.count .round) y).map (first + rows.length - ·)).sum := by
  -- All rocks of the first row have the same distance, and the other rows count on from the next number.
  induction rows generalizing first with
  | nil => rfl
  | cons row rest ih =>
    have distance : first + (rest.length + 1) - first = rest.length + 1 := Nat.add_sub_cancel_left ..
    have shift : first + (rest.length + 1) = first + 1 + rest.length := by omega
    rw [weightOf, ih (first + 1), List.zipIdx_cons, List.flatMap_cons, List.map_append,
      List.sum_append, List.map_replicate, List.length_cons, distance, List.sum_replicate_nat, shift]

/-- The words hold a number below the power of two, and another one overflows. -/
theorem check_natCast (overflow : Overflow) (n : Nat) :
    word.check overflow n = if n < 2 ^ 64 then .ok (n : Int) else .error overflow := by
  -- A number from counting has no sign, so only the upper bound matters.
  have held : word.holds n = true ↔ n < 2 ^ 64 := Guard.holds_size.trans (by omega)
  simp only [Bounds.check, held]

/-- The load of rows is what came before and what they weigh, if the words hold it, and overflows otherwise. -/
theorem loadOf_eq (rows : List (List Cell)) {sum : Nat} (held : sum < 2 ^ 64) :
    if sum + weightOf rows < 2 ^ 64 then loadOf rows sum = .ok ((sum + weightOf rows : Nat) : Int)
    else ∃ overflow, loadOf rows sum = .error overflow := by
  induction rows generalizing sum with
  | nil => simpa [weightOf, loadOf] using held
  | cons row rest ih =>
    rw [weightOf, loadOf, Bounds.mul]
    generalize weighed : row.count .round * (rest.length + 1) = weight
    have product : ((row.count .round : Nat) : Int) * ((rest.length + 1 : Nat) : Int) =
        (weight : Nat) := by rw [← weighed, Int.natCast_mul]
    have total : (sum : Int) + (weight : Nat) = ((sum + weight : Nat) : Int) :=
      (Int.natCast_add ..).symm
    -- The row overflows by itself, or with what came before, or the others go on from both.
    rw [product, check_natCast]
    by_cases heavy : weight < 2 ^ 64
    · simp only [if_pos heavy, Guard.ok_bind, Bounds.add, total, check_natCast]
      by_cases fits : sum + weight < 2 ^ 64
      · simp only [if_pos fits, Guard.ok_bind, ← Nat.add_assoc]
        exact ih fits
      · rw [if_neg (by omega), if_neg fits]
        exact ⟨.add, rfl⟩
    · rw [if_neg (by omega), if_neg heavy]
      exact ⟨.multiply, rfl⟩

/-- Rows weigh at most as much as if all their rocks lay in the first one. -/
theorem weightOf_le {width : Nat} {rows : List (List Cell)}
    (even : ∀ row ∈ rows, row.length = width) :
    weightOf rows ≤ width * rows.length * rows.length := by
  -- The induction follows the rows: the first one weighs at most the width for each row.
  induction rows with
  | nil => exact Nat.zero_le _
  | cons row rest ih =>
    have others := ih fun other member => even other (List.mem_cons_of_mem row member)
    have wide := even row (List.mem_cons_self ..)
    have rocks : row.count .round ≤ width := wide ▸ List.count_le_length
    calc weightOf (row :: rest)
      _ = row.count .round * (rest.length + 1) + weightOf rest := rfl
      _ ≤ width * (rest.length + 1) + width * rest.length * rest.length :=
        Nat.add_le_add (Nat.mul_le_mul_right _ rocks) others
      _ ≤ width * (rest.length + 1) + width * (rest.length + 1) * rest.length :=
        Nat.add_le_add_left (Nat.mul_le_mul_right _ (Nat.mul_le_mul_left _ (Nat.le_succ _))) _
      _ = width * (rest.length + 1) * (rest.length + 1) := by
        rw [Nat.mul_succ (width * (rest.length + 1)), Nat.add_comm]

/-- The rows of a platform weigh as much as the distances of its rocks are in sum. -/
theorem weightOf_rows (platform : Platform) : weightOf platform.rows = platform.rockDistances.sum := by
  -- The sum starts at zero.
  have weighed := weightOf_eq platform.rows 0
  rwa [Nat.zero_add] at weighed

/-- The load of a platform is the sum of the distances of its rocks, if the words hold it. -/
theorem northLoad_eq (platform : Platform) :
    if platform.rockDistances.sum < 2 ^ 64
    then platform.northLoad = .ok (platform.rockDistances.sum : Nat)
    else ∃ overflow, platform.northLoad = .error overflow := by
  -- The sum starts at zero.
  have load := @loadOf_eq platform.rows 0 (by decide)
  rwa [Nat.zero_add, weightOf_rows] at load

/-- The words hold the load of a platform without very many cells. -/
theorem sum_rockDistances_lt (formed : platform.WellFormed)
    (few : platform.width * platform.height < 2 ^ 32) : platform.rockDistances.sum < 2 ^ 64 := by
  -- The height is at most the number of cells, so the load is less than that number squared.
  have high : platform.height ≤ platform.width * platform.height :=
    Nat.le_mul_of_pos_left _ formed.width_pos
  calc platform.rockDistances.sum
    _ ≤ platform.width * platform.height * platform.height :=
      weightOf_rows platform ▸ weightOf_le formed.row_width
    _ ≤ platform.width * platform.height * (platform.width * platform.height) :=
      Nat.mul_le_mul_left _ high
    _ < 2 ^ 32 * 2 ^ 32 := Nat.mul_self_lt_mul_self few

/-- The first part answers with the sum of the distances after the tilt, if the words hold it, and only then. -/
theorem outcome_solveTilt (platform : Platform) (text : String) :
    (solveTilt platform).outcome = .ok text ↔
      (platform.tilt .north).rockDistances.sum < 2 ^ 64 ∧
        text = Text.natText (platform.tilt .north).rockDistances.sum := by
  -- Only the load can fail, at the end.
  have last : (solveTilt platform).outcome =
      ((platform.tilt .north).northLoad.mapError Stop.ofOverflow).map Text.intText := by
    simp only [solveTilt]
    cases (platform.tilt .north).northLoad <;> rfl
  have load := northLoad_eq (platform.tilt .north)
  rw [last]
  -- The load is told where it fits a word, and nothing else is told then.
  split at load
  · rename_i fits
    rw [load]
    simp only [Except.mapError, Except.map, Text.intText_natCast, Except.ok.injEq, fits, true_and]
    exact eq_comm
  · rename_i large
    obtain ⟨overflow, stopped⟩ := load
    simp only [stopped, Except.mapError, Except.map, large, false_and, reduceCtorEq]

end Loads

/-- A tilt packs all runs of its lines and does nothing else, so that a second one changes nothing.

Rolling the rocks one by one in a list, which never has two to the sixty-three cells or more, leads to the same.
The first part answers with the sum of the distances of the rocks that a tilt to the north has packed. -/
theorem tilt_packs (formed : platform.WellFormed) (direction : Direction) :
    let tilted := platform.tilt direction
    let load := (platform.tilt .north).rockDistances.sum
    (platform.width * platform.height < 2 ^ 63 →
      platform.flat.tilt direction = .ok tilted.flat) ∧
    (tilted.WellFormed ∧ tilted.width = platform.width ∧ tilted.height = platform.height) ∧
    (∀ place : Nat,
      tilted.flat.cells[place]? = some .cube ↔ platform.flat.cells[place]? = some .cube) ∧
    (∀ l < lineCount platform.width platform.height direction,
      Packs (lineOf platform.rows direction l) (lineOf tilted.rows direction l)) ∧
    tilted.tilt direction = tilted ∧
    (∀ text, (solveTilt platform).outcome = .ok text ↔ load < 2 ^ 64 ∧ text = Text.natText load) ∧
    (platform.width * platform.height < 2 ^ 32 → load < 2 ^ 64) := by
  -- The parts are lemmas of their own; what is left are one line and the bound for the load.
  intro tilted load
  refine ⟨fun few => tilt_flat formed few direction,
    ⟨formed.tilt direction, width_tilt platform direction, height_tilt platform direction⟩,
    cube_iff_tilt formed direction, fun l line => ?_, tilt_tilt formed direction,
    outcome_solveTilt platform, fun few => ?_⟩
  · rw [lineOf_tilt formed line]
    exact packs_rollForward _
  · refine sum_rockDistances_lt (formed.tilt .north) ?_
    rwa [width_tilt, height_tilt]

/-- Three rows with a cube between two rocks of the middle column. -/
def ledge : Platform :=
  ⟨3, [[.free, .round, .round], [.round, .cube, .free], [.round, .round, .round]]⟩

/-- The rocks of the outer columns roll north and those of the middle one stay. -/
theorem tilt_packs_ledge :
    ledge.WellFormed ∧
      ledge.flat.tilt .north =
        .ok ⟨3, 3, [.round, .round, .round, .round, .cube, .round, .free, .round, .free]⟩ ∧
      (solveTilt ledge).outcome = .ok "14" := by
  have formed : ledge.WellFormed := ⟨by decide, by decide, by decide⟩
  -- The flat tilt and the answer follow from the general statement by evaluation.
  obtain ⟨flat, _, _, _, _, answer, _⟩ := tilt_packs formed .north
  exact ⟨formed, flat (by decide), (answer "14").mpr ⟨by decide, by decide +kernel⟩⟩

end SolverHub.Platform
