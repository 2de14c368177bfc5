import SolverHub.Proofs.Guard
import SolverHub.Proofs.Puzzles.Rolling

/-! The cells of a platform in one list have places, and along every direction they make up lines. -/

namespace SolverHub.Platform

/-- The cells of a platform in one list, row by row. -/
structure Flat where
  /-- The number of cells in each row. -/
  width : Nat
  /-- The number of rows. -/
  height : Nat
  /-- The cells. -/
  cells : List Cell
deriving DecidableEq, Repr

/-- The platform in one list. -/
def flat (platform : Platform) : Flat :=
  ⟨platform.width, platform.height, platform.rows.flatten⟩

/-- The column and the row of a cell in a line, both from zero. -/
def square (width height : Nat) : Direction → Nat → Nat → Nat × Nat
  | .north, l, i => (l, i)
  | .west, l, i => (i, l)
  | .south, l, i => (l, height - 1 - i)
  | .east, l, i => (width - 1 - i, l)

/-- The place of a cell in a line among all cells. -/
def placeOf (width height : Nat) (direction : Direction) (l i : Nat) : Nat :=
  (square width height direction l i).2 * width + (square width height direction l i).1

/-- The cells of a line in a flat list. -/
def lineIn (width height : Nat) (direction : Direction) (cells : List Cell) (l : Nat) : List Cell :=
  (List.range (lineLength width height direction)).map fun i =>
    cells.getD (placeOf width height direction l i) .free

section Places

variable {width height l i : Nat} {direction : Direction} {cells : List Cell}

/-- A square on the platform has its place among the cells. -/
theorem mul_add_lt {x y : Nat} (column : x < width) (row : y < height) :
    y * width + x < width * height := by
  -- The row ends before the next one begins, and that is at most the end of the last row.
  calc y * width + x
    _ < y * width + width := Nat.add_lt_add_left column _
    _ = (y + 1) * width := (Nat.succ_mul y width).symm
    _ ≤ height * width := Nat.mul_le_mul_right width row
    _ = width * height := Nat.mul_comm _ _

/-- Different squares on the platform have different places. -/
theorem square_of_mul_add {x y otherX otherY : Nat} (column : x < width) (other : otherX < width)
    (same : y * width + x = otherY * width + otherX) : x = otherX ∧ y = otherY := by
  -- The column is the remainder by the width, and without it the rows are left.
  have columns : (y * width + x) % width = (otherY * width + otherX) % width := by rw [same]
  rw [Nat.mul_add_mod', Nat.mul_add_mod', Nat.mod_eq_of_lt column,
    Nat.mod_eq_of_lt other] at columns
  subst columns
  refine ⟨rfl, ?_⟩
  exact Nat.eq_of_mul_eq_mul_right (Nat.zero_lt_of_lt column) (Nat.add_right_cancel same)

/-- The squares of a line are on the platform. -/
theorem square_lt (line : l < lineCount width height direction)
    (within : i < lineLength width height direction) :
    (square width height direction l i).1 < width ∧
      (square width height direction l i).2 < height := by
  -- Lines and squares swap their parts between columns and rows, so each direction is checked.
  cases direction <;> simp only [lineCount, lineLength, square] at * <;> omega

/-- The places of a line are among the cells. -/
theorem placeOf_lt (line : l < lineCount width height direction)
    (within : i < lineLength width height direction) :
    placeOf width height direction l i < width * height :=
  -- The place counts full rows first and then the columns of the last one.
  mul_add_lt (square_lt line within).1 (square_lt line within).2

/-- Different cells of lines have different places. -/
theorem placeOf_inj {k j : Nat} (line : l < lineCount width height direction)
    (within : i < lineLength width height direction) (other : k < lineCount width height direction)
    (inside : j < lineLength width height direction)
    (same : placeOf width height direction l i = placeOf width height direction k j) :
    l = k ∧ i = j := by
  -- A place has one square, and a square has one line and one step along it.
  have squares := square_of_mul_add (square_lt line within).1 (square_lt other inside).1 same
  cases direction <;> simp only [lineCount, lineLength, square] at * <;> omega

/-- Every place among the cells is the place of a cell in a line. -/
theorem exists_placeOf {place : Nat} (direction : Direction) (inside : place < width * height) :
    ∃ l < lineCount width height direction, ∃ i < lineLength width height direction,
      placeOf width height direction l i = place := by
  -- The quotient and the remainder by the width are the row and the column of the place.
  have width_pos : 0 < width := Nat.pos_of_mul_pos_right (Nat.zero_lt_of_lt inside)
  have column : place % width < width := Nat.mod_lt _ width_pos
  have row : place / width < height := Nat.div_lt_of_lt_mul inside
  have whole : place / width * width + place % width = place := Nat.div_add_mod' place width
  generalize place % width = x at column whole
  generalize place / width = y at row whole
  cases direction with
  | north => exact ⟨x, column, y, row, whole⟩
  | west => exact ⟨y, row, x, column, whole⟩
  | south =>
    have back : height - 1 - (height - 1 - y) = y := by omega
    refine ⟨x, column, height - 1 - y, ?_, ?_⟩
    · show height - 1 - y < height
      omega
    · simp only [placeOf, square, back, whole]
  | east =>
    have back : width - 1 - (width - 1 - x) = x := by omega
    refine ⟨y, row, width - 1 - x, ?_, ?_⟩
    · show width - 1 - x < width
      omega
    · simp only [placeOf, square, back, whole]

/-- A line in a flat list has as many cells as every line along its direction. -/
@[simp] theorem length_lineIn : (lineIn width height direction cells l).length =
    lineLength width height direction := by
  -- A line is read step by step.
  rw [lineIn, List.length_map, List.length_range]

/-- A cell of a line is the cell at its place. -/
theorem getElem?_lineIn (full : cells.length = width * height)
    (line : l < lineCount width height direction)
    (within : i < lineLength width height direction) :
    (lineIn width height direction cells l)[i]? = cells[placeOf width height direction l i]? := by
  -- Every place of a line lies in a full list of cells, so no default is read.
  have inside := placeOf_lt line within
  rw [← full] at inside
  rw [lineIn, List.getElem?_map, List.getElem?_range within, Option.map_some,
    List.getD_eq_getElem?_getD, List.getElem?_eq_getElem inside]
  rfl

/-- Flat lists with the same lines along a direction are the same. -/
theorem eq_of_lineIn {others : List Cell} (full : cells.length = width * height)
    (other_full : others.length = width * height) (direction : Direction)
    (same : ∀ l < lineCount width height direction,
      lineIn width height direction cells l = lineIn width height direction others l) :
    cells = others := by
  apply List.ext_getElem?
  intro place
  -- Every place of the grid is on some line, and behind the grid there is nothing.
  by_cases inside : place < width * height
  · obtain ⟨l, line, i, within, rfl⟩ := exists_placeOf direction inside
    rw [← getElem?_lineIn full line within, ← getElem?_lineIn other_full line within, same l line]
  · rw [List.getElem?_eq_none (by omega), List.getElem?_eq_none (by omega)]

/-- Another cell at a place changes its own line and no other. -/
theorem lineIn_set (full : cells.length = width * height) {k : Nat}
    (line : l < lineCount width height direction)
    (within : i < lineLength width height direction)
    (other : k < lineCount width height direction) (cell : Cell) :
    lineIn width height direction (cells.set (placeOf width height direction l i) cell) k =
      if k = l then (lineIn width height direction cells l).set i cell
      else lineIn width height direction cells k := by
  have inside := placeOf_lt line within
  -- Another place is not the one that changed, whether it is in the same line or not.
  have still_full : (cells.set (placeOf width height direction l i) cell).length =
      width * height := by rw [List.length_set, full]
  apply List.ext_getElem?
  intro j
  by_cases near : j < lineLength width height direction
  · rw [getElem?_lineIn still_full other near, List.getElem?_set]
    by_cases same : k = l
    · subst same
      rw [if_pos rfl, List.getElem?_set, length_lineIn]
      by_cases here : i = j
      · subst here
        simp [full, inside, within]
      · have apart : placeOf width height direction k i ≠ placeOf width height direction k j :=
          fun equal => here (placeOf_inj line within other near equal).2
        rw [if_neg apart, if_neg here, getElem?_lineIn full other near]
    · have apart : placeOf width height direction l i ≠ placeOf width height direction k j :=
        fun equal => same (placeOf_inj line within other near equal).1.symm
      rw [if_neg apart, if_neg same, getElem?_lineIn full other near]
  · rw [List.getElem?_eq_none (by simpa using near)]
    split
    · rw [List.getElem?_eq_none (by simpa using near)]
    · rw [List.getElem?_eq_none (by simpa using near)]

/-- The cell at a place of even rows is the cell of its row at its column. -/
theorem getElem?_flatten_even {rows : List (List Cell)} (even : ∀ row ∈ rows, row.length = width)
    {x : Nat} (column : x < width) (y : Nat) :
    rows.flatten[y * width + x]? = rows[y]?.bind (·[x]?) := by
  -- Each row in front takes as many places as the rows are wide.
  induction rows generalizing y with
  | nil => simp
  | cons row rows ih =>
    have wide := even row (List.mem_cons_self ..)
    have others := ih fun other member => even other (List.mem_cons_of_mem row member)
    rw [List.flatten_cons]
    cases y with
    | zero =>
      rw [Nat.zero_mul, Nat.zero_add, List.getElem?_append_left (by omega)]
      rfl
    | succ y =>
      have behind : (y + 1) * width + x - row.length = y * width + x := by
        rw [wide, Nat.succ_mul]
        omega
      have far : row.length ≤ (y + 1) * width + x := by
        rw [wide, Nat.succ_mul]
        omega
      rw [List.getElem?_append_right far, behind, others]
      rfl

/-- Equally wide rows are the same if their cells in one list are. -/
theorem eq_of_flatten {first second : List (List Cell)} (positive : 0 < width)
    (even : ∀ row ∈ first, row.length = width) (other : ∀ row ∈ second, row.length = width)
    (same : first.flatten = second.flatten) : first = second := by
  -- Cutting the joined rows into chunks gives the rows back.
  have chunks := Guard.chunks_flatten positive even
  rw [same, Guard.chunks_flatten positive other] at chunks
  exact (Except.ok.inj chunks).symm

/-- The lines of a platform are those of its cells in one list. -/
theorem lineIn_flatten {platform : Platform} (formed : platform.WellFormed)
    (line : l < lineCount platform.width platform.height direction) :
    lineIn platform.width platform.height direction platform.rows.flatten l =
      lineOf platform.rows direction l := by
  have full : platform.rows.flatten.length = platform.width * platform.height :=
    Guard.length_flatten_even formed.row_width
  have length := formed.length_lineOf line
  -- A cell of the line is the cell of a row at a column, in one list and in the rows.
  apply List.ext_getElem?
  intro i
  by_cases near : i < lineLength platform.width platform.height direction
  · have squares := square_lt line near
    rw [getElem?_lineIn full line near, placeOf,
      getElem?_flatten_even formed.row_width squares.1]
    cases direction with
    | north => exact (getElem?_filterMap_even formed.row_width line i).symm
    | west =>
      have row : l < platform.rows.length := line
      simp [lineOf, square, List.getD_eq_getElem?_getD, List.getElem?_eq_getElem row]
    | south =>
      have column := length_filterMap_even formed.row_width line
      have inside : i < (platform.rows.filterMap (·[l]?)).length := by
        rw [column]
        exact near
      rw [lineOf, List.getElem?_reverse inside, column,
        getElem?_filterMap_even formed.row_width line]
      rfl
    | east =>
      have within : l < platform.rows.length := line
      have row := List.getElem?_eq_getElem within
      have wide := formed.row_width _ (List.getElem_mem within)
      have inside : i < (platform.rows.getD l []).length := by
        simpa [lineLength, List.getD_eq_getElem?_getD, row, wide] using near
      rw [lineOf, List.getElem?_reverse inside]
      simp [square, List.getD_eq_getElem?_getD, row, wide]
  · rw [List.getElem?_eq_none (by simpa using near), List.getElem?_eq_none (by omega)]

end Places

end SolverHub.Platform
