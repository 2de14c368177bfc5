import SolverHub.Proofs.Puzzles.Flat

/-! A tilt of a flat list of cells stays within the list and moves each rock as its line moves it. -/

namespace SolverHub

namespace Direction

/-- The step to the east that a rock makes. -/
def dx : Direction → Int
  | north => 0
  | west => -1
  | south => 0
  | east => 1

/-- The step to the south that a rock makes. -/
def dy : Direction → Int
  | north => -1
  | west => 0
  | south => 1
  | east => 0

end Direction

namespace Platform

namespace Flat

/-- The place of a square among all cells. -/
def place (width x y : Int) : Except Stop Nat := do
  let start ← Guard.mul Guard.offset y width
  let place ← Guard.add Guard.offset start x
  return Guard.place place

/-- The square on which a rock ends that rolls from a square on, if it takes no more than a number of steps. -/
def slide (direction : Direction) (width height : Int) (cells : List Cell) :
    Nat → Int → Int → Except Stop (Int × Int)
  | 0, _, _ => Guard.crash "a rock rolls on and on"
  | steps + 1, x, y => do
    let nextX ← Guard.add Guard.offset x direction.dx
    if 0 ≤ nextX ∧ nextX < width then do
      let nextY ← Guard.add Guard.offset y direction.dy
      if 0 ≤ nextY ∧ nextY < height then do
        let start ← Guard.mul Guard.offset nextY width
        let beside ← Guard.add Guard.offset start x
        let next ← Guard.add Guard.offset beside direction.dx
        let cell ← Guard.read cells (Guard.place next)
        if cell = .free then slide direction width height cells steps nextX nextY
        else return (x, y)
      else return (x, y)
    else return (x, y)

/-- The cells after the rock on a square rolled, if there is one. -/
def roll (direction : Direction) (width height y : Int) (cells : List Cell) (x : Int) :
    Except Stop (List Cell) := do
  let cell ← Guard.read cells (← place width x y)
  if cell = .round then do
    let (restX, restY) ← slide direction width height cells (width + height).toNat x y
    let cleared ← Guard.write cells (← place width x y) .free
    Guard.write cleared (← place width restX restY) .round
  else return cells

/-- The numbers below a count, from the greatest down if the step goes up. -/
def along (step count : Int) : List Int :=
  let forward := (List.range count.toNat).map Int.ofNat
  if 0 < step then forward.reverse else forward

/-- Every round rock rolls as far as it goes in a direction, row by row and square by square. -/
def tilt (flat : Flat) (direction : Direction) : Except Stop Flat := do
  let width := Guard.signed flat.width
  let height := Guard.signed flat.height
  let cells ← (along direction.dy height).foldlM (fun cells y =>
    (along direction.dx width).foldlM (roll direction width height y) cells) flat.cells
  return ⟨flat.width, flat.height, cells⟩

end Flat

section Rolls

variable {width height l i : Nat} {direction : Direction} {cells : List Cell}

/-- The first cell of a line has no square in front of it. -/
theorem no_step (line : l < lineCount width height direction)
    (within : 0 < lineLength width height direction) :
    ¬ ((0 ≤ (square width height direction l 0).1 + direction.dx ∧
        (square width height direction l 0).1 + direction.dx < width) ∧
      0 ≤ (square width height direction l 0).2 + direction.dy ∧
        (square width height direction l 0).2 + direction.dy < height) := by
  -- The first cell of a line lies at the edge that the direction points to.
  cases direction <;>
    simp only [lineCount, lineLength, square, Direction.dx, Direction.dy] at * <;> omega

/-- The square in front of another cell is the one of the cell before it. -/
theorem step_eq (within : i + 1 < lineLength width height direction) :
    (square width height direction l (i + 1)).1 + direction.dx =
        (square width height direction l i).1 ∧
      (square width height direction l (i + 1)).2 + direction.dy =
        (square width height direction l i).2 := by
  -- A step against the order of the line goes in the direction of the tilt.
  cases direction <;>
    simp only [lineLength, square, Direction.dx, Direction.dy] at * <;> omega

/-- A step in a direction is at most one square long. -/
theorem step_bounds (direction : Direction) :
    (-1 ≤ direction.dx ∧ direction.dx ≤ 1) ∧ -1 ≤ direction.dy ∧ direction.dy ≤ 1 := by
  -- A direction moves by one column or one row.
  cases direction <;> decide

/-- The next column and the next row of a square fit into the words. -/
theorem add_step_eq {x y : Nat} (few : width * height < 9223372036854775808) (column : x < width)
    (row : y < height) (direction : Direction) :
    Guard.add Guard.offset x direction.dx = .ok (x + direction.dx) ∧
      Guard.add Guard.offset y direction.dy = .ok (y + direction.dy) := by
  -- Neither side is longer than the whole grid, which an offset can count.
  have wide : width ≤ width * height := Nat.le_mul_of_pos_right _ (Nat.zero_lt_of_lt row)
  have high : height ≤ width * height := Nat.le_mul_of_pos_left _ (Nat.zero_lt_of_lt column)
  obtain ⟨⟨west, east⟩, north, south⟩ := step_bounds direction
  exact ⟨Guard.add_eq (Guard.holds_offset.mpr (by omega)),
    Guard.add_eq (Guard.holds_offset.mpr (by omega))⟩

/-- The product of a row and the width fits into the words. -/
theorem mul_width_eq {x y : Nat} (few : width * height < 9223372036854775808) (column : x < width)
    (row : y < height) : Guard.mul Guard.offset y width = .ok ((y * width : Nat) : Int) := by
  -- The start of a row is a place of the grid.
  have inside := mul_add_lt column row
  have product : (y : Int) * width = ((y * width : Nat) : Int) := by push_cast; rfl
  rw [Guard.mul_eq (Guard.holds_offset.mpr (by omega)), product]

/-- The place of a square on the platform is computed without a crash. -/
theorem place_eq {x y : Nat} (few : width * height < 9223372036854775808) (column : x < width)
    (row : y < height) : Flat.place width x y = .ok (y * width + x) := by
  have inside := mul_add_lt column row
  -- Rows and columns lead to a place of the grid, which an offset can count.
  have sum : Guard.add Guard.offset ((y * width : Nat) : Int) x =
      .ok ((y * width + x : Nat) : Int) := Guard.add_eq (Guard.holds_offset.mpr (by omega))
  rw [Flat.place, mul_width_eq few column row, Guard.ok_bind, sum, Guard.ok_bind,
    Guard.place_natCast (by omega)]
  rfl

/-- The cell in front of another one is read without a crash. -/
theorem read_next_eq (full : cells.length = width * height) (few : width * height < 9223372036854775808)
    (line : l < lineCount width height direction)
    (within : i + 1 < lineLength width height direction) {α : Type}
    (next : Cell → Except Stop α) : (do
      let start ← Guard.mul Guard.offset (square width height direction l i).2 width
      let beside ← Guard.add Guard.offset start (square width height direction l (i + 1)).1
      let place ← Guard.add Guard.offset beside direction.dx
      let cell ← Guard.read cells (Guard.place place)
      next cell) = next ((lineIn width height direction cells l).getD i .free) := by
  -- The step is added last, behind the row in front and the column of the rock itself.
  have near : i < lineLength width height direction := Nat.lt_of_succ_lt within
  obtain ⟨column, _⟩ := square_lt line within
  obtain ⟨nextColumn, nextRow⟩ := square_lt line near
  have beside := mul_add_lt column nextRow
  have inside := placeOf_lt line near
  have step := (step_eq within (l := l)).1
  have same : ((placeOf width height direction l i : Nat) : Int) =
      ((square width height direction l i).2 * width +
        (square width height direction l (i + 1)).1 : Nat) + direction.dx := by
    rw [placeOf]
    push_cast
    omega
  have sum : Guard.add Guard.offset
      (((square width height direction l i).2 * width : Nat) : Int)
      (square width height direction l (i + 1)).1 =
      .ok (((square width height direction l i).2 * width +
        (square width height direction l (i + 1)).1 : Nat) : Int) :=
    Guard.add_eq (Guard.holds_offset.mpr (by omega))
  have further : Guard.add Guard.offset (((square width height direction l i).2 * width +
      (square width height direction l (i + 1)).1 : Nat) : Int) direction.dx =
      .ok ((placeOf width height direction l i : Nat) : Int) := by
    rw [same]
    exact Guard.add_eq (Guard.holds_offset.mpr (by omega))
  have found : cells[placeOf width height direction l i]? =
      some ((lineIn width height direction cells l).getD i .free) := by
    have there : i < (lineIn width height direction cells l).length := by rwa [length_lineIn]
    rw [← getElem?_lineIn full line near, List.getD_eq_getElem?_getD,
      List.getElem?_eq_getElem there]
    rfl
  rw [mul_width_eq few nextColumn nextRow, Guard.ok_bind, sum, Guard.ok_bind, further,
    Guard.ok_bind, Guard.place_natCast (by omega), Guard.read_eq found, Guard.ok_bind]

/-- A rock slides without a crash over the free cells in front of it. -/
theorem slide_eq (full : cells.length = width * height) (few : width * height < 9223372036854775808)
    (line : l < lineCount width height direction)
    (within : i < lineLength width height direction) {steps : Nat} (enough : i < steps) :
    let before := i - freeBefore (lineIn width height direction cells l) i
    Flat.slide direction width height cells steps (square width height direction l i).1
        (square width height direction l i).2 =
      .ok (((square width height direction l before).1 : Int),
        ((square width height direction l before).2 : Int)) := by
  -- The induction follows the rock, which comes one cell closer to the edge with each step.
  induction i generalizing steps with
  | zero =>
    intro before
    obtain ⟨steps, rfl⟩ := Nat.exists_eq_add_one.mpr enough
    obtain ⟨column, row⟩ := square_lt line within
    obtain ⟨stepX, stepY⟩ := add_step_eq few column row direction
    have edge := no_step line within
    have stays : before = 0 := Nat.zero_sub _
    rw [Flat.slide, stepX, Guard.ok_bind, stays]
    by_cases inside : 0 ≤ ((square width height direction l 0).1 : Int) + direction.dx ∧
        ((square width height direction l 0).1 : Int) + direction.dx < width
    · rw [if_pos inside, stepY, Guard.ok_bind, if_neg fun also => edge ⟨inside, also⟩]
      rfl
    · rw [if_neg inside]
      rfl
  | succ i ih =>
    intro before
    obtain ⟨steps, rfl⟩ := Nat.exists_eq_add_one.mpr (Nat.zero_lt_of_lt enough)
    have near : i < lineLength width height direction := Nat.lt_of_succ_lt within
    obtain ⟨column, row⟩ := square_lt line within
    obtain ⟨nextColumn, nextRow⟩ := square_lt line near
    obtain ⟨stepX, stepY⟩ := add_step_eq few column row direction
    obtain ⟨nextX, nextY⟩ := step_eq within (l := l)
    rw [nextX] at stepX
    rw [nextY] at stepY
    have there : i < (lineIn width height direction cells l).length := by rwa [length_lineIn]
    have cell : (lineIn width height direction cells l).getD i .free =
        (lineIn width height direction cells l)[i] := by
      rw [List.getD_eq_getElem?_getD, List.getElem?_eq_getElem there]
      rfl
    rw [Flat.slide, stepX, Guard.ok_bind, if_pos (by omega), stepY, Guard.ok_bind,
      if_pos (by omega), read_next_eq full few line within, cell]
    have count := freeBefore_succ there
    by_cases free : (lineIn width height direction cells l)[i] = .free
    · rw [if_pos free] at count
      have moves : before = i - freeBefore (lineIn width height direction cells l) i := by
        show i + 1 - freeBefore (lineIn width height direction cells l) (i + 1) = _
        rw [count, Nat.add_sub_add_right]
      rw [if_pos free, moves]
      exact ih near (Nat.lt_of_succ_lt_succ enough)
    · rw [if_neg free] at count
      have stays : before = i + 1 := by
        show i + 1 - freeBefore (lineIn width height direction cells l) (i + 1) = _
        rw [count, Nat.sub_zero]
      rw [if_neg free, stays]
      rfl

/-- A flat list of cells shows a platform that has certain lines. -/
structure Shows (width height : Nat) (direction : Direction) (cells : List Cell)
    (lines : Nat → List Cell) : Prop where
  full : cells.length = width * height
  line : ∀ l < lineCount width height direction, lineIn width height direction cells l = lines l

/-- A rock rolls without a crash, and only its own line changes. -/
theorem roll_shows {lines : Nat → List Cell} (few : width * height < 9223372036854775808)
    (shows_lines : Shows width height direction cells lines)
    (line : l < lineCount width height direction)
    (within : i < lineLength width height direction) :
    ∃ moved, Flat.roll direction width height (square width height direction l i).2 cells
        (square width height direction l i).1 = .ok moved ∧
      Shows width height direction moved fun k =>
        if k = l then rollAt (lines l) i else lines k := by
  have full := shows_lines.full
  have inside := placeOf_lt line within
  have there : i < (lineIn width height direction cells l).length := by rwa [length_lineIn]
  obtain ⟨column, row⟩ := square_lt line within
  have place : Flat.place width (square width height direction l i).1
      (square width height direction l i).2 = .ok (placeOf width height direction l i) :=
    place_eq few column row
  have found : cells[placeOf width height direction l i]? =
      some (lineIn width height direction cells l)[i] := by
    rw [← getElem?_lineIn full line within, List.getElem?_eq_getElem there]
  rw [Flat.roll, place, Guard.ok_bind, Guard.read_eq found, Guard.ok_bind]
  by_cases round : (lineIn width height direction cells l)[i] = .round
  · -- The square is cleared before the rock lies on its new one, which may be the same.
    generalize stop : i - freeBefore (lineIn width height direction cells l) i = before
    have near : before < lineLength width height direction := by omega
    have enough : i < ((width : Int) + height).toNat := by
      have shorter : lineLength width height direction ≤ width + height := by
        cases direction <;> simp only [lineLength] <;> omega
      omega
    have slid := slide_eq full few line within enough
    simp only [stop] at slid
    obtain ⟨restColumn, restRow⟩ := square_lt line near
    have rest : Flat.place width (square width height direction l before).1
        (square width height direction l before).2 =
          .ok (placeOf width height direction l before) :=
      place_eq few restColumn restRow
    have cleared_full : (cells.set (placeOf width height direction l i) .free).length =
        width * height := by rw [List.length_set, full]
    have rest_inside := placeOf_lt line near
    refine ⟨(cells.set (placeOf width height direction l i) .free).set
      (placeOf width height direction l before) .round, ?_, ?_, ?_⟩
    · rw [if_pos round, slid, Guard.ok_bind]
      simp only [rest, Guard.ok_bind]
      rw [Guard.write_eq (by omega), Guard.ok_bind, Guard.write_eq (by omega)]
    · rw [List.length_set, cleared_full]
    · intro k other
      rw [lineIn_set cleared_full line near other, lineIn_set full line within line,
        lineIn_set full line within other]
      by_cases same : k = l
      · have rolled : rollAt (lines l) i = (((lines l).set i .free).set before .round) := by
          rw [← shows_lines.line l line, rollAt, List.getElem?_eq_getElem there, round,
            if_pos rfl, stop]
        rw [if_pos same, if_pos rfl, if_pos same, rolled, shows_lines.line l line]
      · rw [if_neg same, if_neg same, if_neg same, shows_lines.line k other]
  · refine ⟨cells, by rw [if_neg round]; rfl, full, ?_⟩
    intro k other
    by_cases same : k = l
    · subst same
      have stays : rollAt (lines k) i = lines k := by
        rw [← shows_lines.line k line, rollAt, List.getElem?_eq_getElem there,
          if_neg fun found => round (Option.some.inj found)]
      rw [if_pos rfl, stays, shows_lines.line k line]
    · rw [if_neg same, shows_lines.line k other]

/-- The rocks of a list of cells roll without a crash, and each line changes by its own cells. -/
theorem rolls_show {visits : List (Nat × Nat)} {lines : Nat → List Cell}
    (few : width * height < 9223372036854775808) (shows_lines : Shows width height direction cells lines)
    (inside : ∀ visit ∈ visits, visit.1 < lineCount width height direction ∧
      visit.2 < lineLength width height direction) :
    ∃ moved, visits.foldlM (fun cells visit =>
        Flat.roll direction width height (square width height direction visit.1 visit.2).2 cells
          (square width height direction visit.1 visit.2).1) cells = .ok moved ∧
      Shows width height direction moved fun l =>
        ((visits.filter (·.1 = l)).map (·.2)).foldl rollAt (lines l) := by
  -- The induction follows the list, and each rock leaves the list of cells full.
  induction visits generalizing cells lines with
  | nil => exact ⟨cells, rfl, shows_lines⟩
  | cons visit visits ih =>
    obtain ⟨line, within⟩ := inside visit (List.mem_cons_self ..)
    obtain ⟨moved, rolled, shows_moved⟩ := roll_shows few shows_lines line within
    obtain ⟨last, others, shows_last⟩ :=
      ih shows_moved fun other member => inside other (List.mem_cons_of_mem visit member)
    refine ⟨last, ?_, shows_last.full, ?_⟩
    · rw [List.foldlM_cons, rolled, Guard.ok_bind, others]
    · intro l near
      rw [shows_last.line l near]
      by_cases same : visit.1 = l
      · simp [same]
      · simp [same, Ne.symm same]

/-- The cells of lines in the order in which a tilt comes to their squares. -/
def visits (width height : Nat) : Direction → List (Nat × Nat)
  | .north | .south => (List.range height).flatMap fun i => (List.range width).map fun l => (l, i)
  | .west | .east => (List.range height).flatMap fun l => (List.range width).map fun i => (l, i)

/-- Every visit is to a cell of a line. -/
theorem visits_inside (width height : Nat) (direction : Direction) :
    ∀ visit ∈ visits width height direction, visit.1 < lineCount width height direction ∧
      visit.2 < lineLength width height direction := by
  intro visit member
  -- The loops run over columns and rows, in another order for each direction.
  cases direction <;>
    simp only [visits, List.mem_flatMap, List.mem_map, List.mem_range] at member <;>
    obtain ⟨first, row, second, column, rfl⟩ := member
  · exact ⟨column, row⟩
  · exact ⟨row, column⟩
  · exact ⟨column, row⟩
  · exact ⟨row, column⟩

/-- Only one of the numbers below a count is a given one of them. -/
theorem filter_range_eq {count n : Nat} (inside : n < count) :
    (List.range count).filter (· = n) = [n] := by
  -- The induction counts numbers, of which the last one is met at the end.
  induction count with
  | zero => omega
  | succ count ih =>
    rw [List.range_succ, List.filter_append]
    by_cases last : n = count
    · have none : (List.range count).filter (· = n) = [] := by
        rw [List.filter_eq_nil_iff]
        intro m member
        have := List.mem_range.mp member
        simp only [decide_eq_true_eq]
        omega
      rw [none, last]
      simp
    · rw [ih (by omega)]
      simp [Ne.symm last]

/-- A tilt comes to the cells of each line from its edge on. -/
theorem visits_line (line : l < lineCount width height direction) :
    ((visits width height direction).filter (·.1 = l)).map (·.2) =
      List.range (lineLength width height direction) := by
  -- North and south, each row of squares has one cell of the line.
  have across : ∀ {outer inner : Nat}, l < inner →
      (((List.range outer).flatMap fun i => (List.range inner).map fun k => (k, i)).filter
        (·.1 = l)).map (·.2) = List.range outer := by
    intro outer inner inside
    have single : ∀ i : Nat, (((List.range inner).map fun k => (k, i)).filter (·.1 = l)).map (·.2) =
        [i] := by
      intro i
      have picked : ((List.range inner).map fun k => (k, i)).filter (·.1 = l) =
          ((List.range inner).filter (· = l)).map fun k => (k, i) := List.filter_map
      rw [picked, filter_range_eq inside]
      rfl
    rw [List.filter_flatMap, List.map_flatMap]
    simp only [single]
    exact List.flatMap_singleton' _
  -- West and east, one row of squares is the whole line.
  have lengthwise : ∀ {outer inner : Nat}, l < outer →
      (((List.range outer).flatMap fun k => (List.range inner).map fun i => (k, i)).filter
        (·.1 = l)).map (·.2) = List.range inner := by
    intro outer inner inside
    have whole : ∀ k : Nat, (((List.range inner).map fun i => (k, i)).filter (·.1 = l)).map (·.2) =
        if k = l then List.range inner else [] := by
      intro k
      by_cases same : k = l
      · simp [same, List.filter_map, Function.comp_def]
      · simp [same, List.filter_map, Function.comp_def]
    have picked : ∀ numbers : List Nat, (numbers.flatMap fun k =>
        if k = l then List.range inner else []) =
        (numbers.filter (· = l)).flatMap fun _ => List.range inner := by
      intro numbers
      induction numbers with
      | nil => rfl
      | cons k numbers ih =>
        rw [List.flatMap_cons, ih]
        by_cases same : k = l <;> simp [same]
    rw [List.filter_flatMap, List.map_flatMap]
    simp only [whole]
    rw [picked, filter_range_eq inside, List.flatMap_singleton]
  cases direction with
  | north => exact across line
  | west => exact lengthwise line
  | south => exact across line
  | east => exact lengthwise line

/-- The numbers below a count are as far from its end in reverse. -/
theorem reverse_range (count : Nat) :
    (List.range count).reverse = (List.range count).map (count - 1 - ·) := by
  -- The two lists are compared place by place.
  apply List.ext_getElem
  · simp
  · intro place _ _
    simp

/-- A run over lists of entries goes through all entries in turn. -/
theorem foldlM_flatMap {α β γ : Type} {step : γ → β → Except Stop γ} {entries : α → List β}
    (list : List α) (start : γ) : (list.flatMap entries).foldlM step start =
      list.foldlM (fun state a => (entries a).foldlM step state) start := by
  -- The induction follows the outer list, each entry of which has a list of its own.
  induction list generalizing start with
  | nil => rfl
  | cons a list ih => simp only [List.flatMap_cons, List.foldlM_append, List.foldlM_cons, ih]

/-- The loops of a tilt come to the squares of the visits in turn. -/
theorem loops_eq (width height : Nat) (direction : Direction) (cells : List Cell) :
    (Flat.along direction.dy height).foldlM (fun cells y =>
      (Flat.along direction.dx width).foldlM (Flat.roll direction width height y) cells) cells =
    (visits width height direction).foldlM (fun cells visit =>
      Flat.roll direction width height (square width height direction visit.1 visit.2).2 cells
        (square width height direction visit.1 visit.2).1) cells := by
  -- Numbers that come in reverse are those of the squares counted from the other edge.
  have forward : ∀ (step : Int) (count : Nat), ¬ 0 < step →
      Flat.along step count = (List.range count).map Int.ofNat := by
    intro step count still
    rw [Flat.along, if_neg still]
    rfl
  have backward : ∀ count : Nat,
      Flat.along 1 count = (List.range count).map fun i => Int.ofNat (count - 1 - i) := by
    intro count
    rw [Flat.along, if_pos (by decide), ← List.map_reverse]
    show (List.range count).reverse.map Int.ofNat = _
    rw [reverse_range, List.map_map]
    rfl
  have still : ∀ count : Nat, Flat.along 0 count = (List.range count).map Int.ofNat :=
    fun count => forward 0 count (by decide)
  have down : ∀ count : Nat, Flat.along (-1) count = (List.range count).map Int.ofNat :=
    fun count => forward (-1) count (by decide)
  cases direction with
  | north =>
    simp only [Direction.dx, Direction.dy, visits, down, still, foldlM_flatMap, List.foldlM_map]
    rfl
  | west =>
    simp only [Direction.dx, Direction.dy, visits, down, still, foldlM_flatMap, List.foldlM_map]
    rfl
  | south =>
    simp only [Direction.dx, Direction.dy, visits, backward, still, foldlM_flatMap, List.foldlM_map]
    rfl
  | east =>
    simp only [Direction.dx, Direction.dy, visits, backward, still, foldlM_flatMap, List.foldlM_map]
    rfl

end Rolls

/-- A tilted platform has as many cells as before. -/
theorem length_flatten_tilt {platform : Platform} (formed : platform.WellFormed)
    (direction : Direction) :
    (platform.tilt direction).rows.flatten.length = platform.width * platform.height := by
  -- A tilt keeps the sides, so as many cells are left.
  have full := Guard.length_flatten_even (formed.tilt direction).row_width
  rw [width_tilt] at full
  exact full.trans (congrArg _ (height_tilt platform direction))

/-- A tilt of a flat list gives the cells of the tilted platform, without a crash. -/
theorem tilt_flat {platform : Platform} (formed : platform.WellFormed)
    (few : platform.width * platform.height < 9223372036854775808) (direction : Direction) :
    platform.flat.tilt direction = .ok (platform.tilt direction).flat := by
  have height_pos : 0 < platform.height := List.length_pos_iff.mpr formed.rows_ne_nil
  have wide : platform.width ≤ platform.width * platform.height :=
    Nat.le_mul_of_pos_right _ height_pos
  have high : platform.height ≤ platform.width * platform.height :=
    Nat.le_mul_of_pos_left _ formed.width_pos
  have full : platform.rows.flatten.length = platform.width * platform.height :=
    Guard.length_flatten_even formed.row_width
  have start : Shows platform.width platform.height direction platform.rows.flatten
      (lineOf platform.rows direction) :=
    ⟨full, fun l line => lineIn_flatten formed line⟩
  obtain ⟨moved, rolled, shows_moved⟩ :=
    rolls_show few start (visits_inside platform.width platform.height direction)
  -- The rocks of each line rolled one by one from its edge on, so the whole line has rolled.
  have tilted := formed.tilt direction
  have cells : moved = (platform.tilt direction).rows.flatten := by
    have other_full := length_flatten_tilt formed direction
    apply eq_of_lineIn shows_moved.full other_full direction
    intro l line
    have lines : l < lineCount (platform.tilt direction).width (platform.tilt direction).height
        direction → _ := lineIn_flatten tilted
    rw [width_tilt, height_tilt] at lines
    rw [shows_moved.line l line, visits_line line, lines line, lineOf_tilt formed line,
      ← formed.length_lineOf line, foldl_rollAt]
  unfold Flat.tilt
  simp only [flat]
  rw [Guard.signed_eq (by omega), Guard.signed_eq (by omega), loops_eq, rolled, Guard.ok_bind,
    cells]
  have width := width_tilt platform direction
  have height := height_tilt platform direction
  rw [width, height]
  rfl

end Platform

end SolverHub
