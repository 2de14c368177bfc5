import Mathlib.Data.List.TakeWhile
import SolverHub.Puzzles.Platform

/-! Rocks that roll one by one, the nearest first, end where they settle when a whole line rolls. -/

namespace SolverHub.Platform

/-- The number of free cells right in front of a place of a line. -/
def freeBefore (cells : List Cell) (i : Nat) : Nat :=
  ((cells.take i).reverse.takeWhile (· = .free)).length

/-- A round rock at a place of a line rolls over the free cells in front of it. -/
def rollAt (cells : List Cell) (i : Nat) : List Cell :=
  if cells[i]? = some .round then (cells.set i .free).set (i - freeBefore cells i) .round else cells

/-- The free cells in front of the next place are those in front of this one if this one is free. -/
theorem freeBefore_succ {cells : List Cell} {i : Nat} (inside : i < cells.length) :
    freeBefore cells (i + 1) = if cells[i] = .free then freeBefore cells i + 1 else 0 := by
  rw [freeBefore, List.take_succ_eq_append_getElem inside, List.reverse_append,
    List.reverse_singleton, List.singleton_append, List.takeWhile_cons]
  -- A run of free cells goes on with a free cell and starts again behind any other one.
  by_cases free : cells[i] = .free <;> simp [free, freeBefore]

/-- One more cell settles behind the others. -/
@[simp] theorem length_settle (settled : List Cell) (cell : Cell) :
    (settle settled cell).length = settled.length + 1 := by
  -- A rock changes places with a free cell, so nothing is added but the cell itself.
  cases cell with
  | round =>
    have parts := congrArg List.length (List.takeWhile_append_dropWhile (p := (· = Cell.free))
      (l := settled))
    rw [List.length_append] at parts
    simp only [settle, List.length_append, List.length_cons]
    omega
  | cube => rfl
  | free => rfl

/-- All cells settle. -/
theorem length_foldl_settle (line settled : List Cell) :
    (line.foldl settle settled).length = settled.length + line.length := by
  -- Each cell of the line makes the settled ones longer by one.
  induction line generalizing settled with
  | nil => rfl
  | cons cell line ih =>
    rw [List.foldl_cons, ih, length_settle, List.length_cons]
    omega

/-- Rolling keeps the length of a line. -/
@[simp] theorem length_rollForward (line : List Cell) :
    (rollForward line).length = line.length := by
  -- Each cell settles once.
  simp [rollForward, length_foldl_settle]

/-- Rolling the other way keeps it too. -/
@[simp] theorem length_rollBackward (line : List Cell) :
    (rollBackward line).length = line.length := by
  -- The line is turned round before and after it rolls.
  simp [rollBackward]

/-- A cell behind settled ones rolls to where it settles. -/
theorem rollAt_append (settled rest : List Cell) (cell : Cell) :
    rollAt (settled.reverse ++ cell :: rest) settled.length =
      (settle settled cell).reverse ++ rest := by
  have here : (settled.reverse ++ cell :: rest)[settled.length]? = some cell := by simp
  rw [rollAt, here]
  cases cell with
  | cube => simp [settle]
  | free => simp [settle]
  | round =>
    -- The free cells in front of the rock are alike, so it trades places with the first of them.
    generalize run : settled.takeWhile (· = .free) = free
    generalize front : settled.dropWhile (· = .free) = stopped
    have parts : settled = free ++ stopped := by
      rw [← run, ← front]
      exact List.takeWhile_append_dropWhile.symm
    obtain ⟨count, alike⟩ : ∃ count, free = List.replicate count .free := by
      refine ⟨free.length, List.eq_replicate_of_mem ?_⟩
      intro cell member
      rw [← run] at member
      simpa using List.mem_takeWhile_imp member
    have before : freeBefore (settled.reverse ++ .round :: rest) settled.length = count := by
      have taken : (settled.reverse ++ .round :: rest).take settled.reverse.length =
          settled.reverse := List.take_left
      rw [List.length_reverse] at taken
      rw [freeBefore, taken, List.reverse_reverse, run, alike, List.length_replicate]
    have far : settled.length = stopped.reverse.length + count := by
      rw [parts, alike, List.length_append, List.length_replicate, List.length_reverse,
        Nat.add_comm]
    have line : settled.reverse = stopped.reverse ++ List.replicate count .free := by
      rw [parts, alike, List.reverse_append, List.reverse_replicate]
    have left : (List.replicate count Cell.free ++ .round :: rest).set count .free =
        .free :: (List.replicate count .free ++ rest) := by
      have cleared : (List.replicate count Cell.free ++ .round :: rest).set count .free =
          List.replicate (count + 1) .free ++ rest := by
        rw [List.replicate_succ', List.append_assoc]
        simp
      rw [cleared, List.replicate_succ, List.cons_append]
    rw [if_pos rfl, before, far, Nat.add_sub_cancel, line, List.append_assoc,
      List.set_append_right _ _ (Nat.le_add_right _ _), Nat.add_sub_cancel_left, left,
      List.set_append_right _ _ (Nat.le_refl _), Nat.sub_self, List.set_cons_zero, settle, run,
      front, alike]
    simp

/-- The cells up to a place settle when the rocks among them roll one by one. -/
theorem foldl_rollAt_range {cells : List Cell} {i : Nat} (inside : i ≤ cells.length) :
    (List.range i).foldl rollAt cells = ((cells.take i).foldl settle []).reverse ++ cells.drop i := by
  -- The induction follows the places, in front of which everything has settled.
  induction i with
  | zero => rfl
  | succ i ih =>
    have here : i < cells.length := inside
    have count : ((cells.take i).foldl settle []).length = i := by
      rw [length_foldl_settle, List.length_nil, List.length_take]
      omega
    -- The rock at the next place has nothing but settled cells in front of it.
    have next := rollAt_append ((cells.take i).foldl settle []) (cells.drop (i + 1)) cells[i]
    rw [count] at next
    rw [List.range_succ, List.foldl_append, ih (Nat.le_of_lt here), List.drop_eq_getElem_cons here,
      List.foldl_cons, List.foldl_nil, next, List.take_succ_eq_append_getElem here,
      List.foldl_append]
    rfl

/-- A line has rolled when all its rocks have, one by one from the front. -/
theorem foldl_rollAt (line : List Cell) :
    (List.range line.length).foldl rollAt line = rollForward line := by
  -- All of the line has rolled when no cell is left behind.
  rw [foldl_rollAt_range (Nat.le_refl _), List.take_length, List.drop_length, List.append_nil]
  rfl

section Columns

variable {α : Type} {width height : Nat} {rows : List (List α)}

/-- There are as many columns as the rows are wide. -/
@[simp] theorem length_columns (width : Nat) (rows : List (List α)) :
    (columns width rows).length = width := by
  -- The induction counts columns, of which the first one is cut off.
  induction width generalizing rows with
  | zero => rfl
  | succ width ih => rw [columns, List.length_cons, ih]

/-- A column holds the entries of all rows at its place. -/
theorem getElem?_columns {x : Nat} (inside : x < width) (rows : List (List α)) :
    (columns width rows)[x]? = some (rows.filterMap (·[x]?)) := by
  -- The column at the next place is the one at this place of the rows without their heads.
  induction width generalizing rows x with
  | zero => omega
  | succ width ih =>
    cases x with
    | zero =>
      rw [columns, List.getElem?_cons_zero]
      congr 2
      funext row
      exact List.head?_eq_getElem?
    | succ x =>
      rw [columns, List.getElem?_cons_succ, ih (Nat.lt_of_succ_lt_succ inside), List.filterMap_map]
      congr 2
      funext row
      simp

/-- The entry of a column in a row is the entry of that row in the column. -/
theorem getElem?_filterMap_even (even : ∀ row ∈ rows, row.length = width) {x : Nat}
    (inside : x < width) (y : Nat) :
    (rows.filterMap (·[x]?))[y]? = rows[y]?.bind (·[x]?) := by
  -- The induction follows the rows, each of which has an entry in the column.
  induction rows generalizing y with
  | nil => simp
  | cons row rows ih =>
    have wide := even row (List.mem_cons_self ..)
    have others := ih fun other member => even other (List.mem_cons_of_mem row member)
    have found : row[x]? = some row[x] := List.getElem?_eq_getElem (by omega)
    rw [List.filterMap_cons, found]
    cases y with
    | zero => simp [found]
    | succ y => simpa using others y

/-- A column of even rows has an entry for each row. -/
theorem length_filterMap_even (even : ∀ row ∈ rows, row.length = width) {x : Nat}
    (inside : x < width) : (rows.filterMap (·[x]?)).length = rows.length := by
  -- The induction follows the rows, each of which has an entry in the column.
  induction rows with
  | nil => rfl
  | cons row rows ih =>
    have wide := even row (List.mem_cons_self ..)
    have others := ih fun other member => even other (List.mem_cons_of_mem row member)
    have found : row[x]? = some row[x] := List.getElem?_eq_getElem (by omega)
    rw [List.filterMap_cons, found, List.length_cons, List.length_cons, others]

/-- The columns of even rows are even themselves. -/
theorem length_of_mem_columns (even : ∀ row ∈ rows, row.length = width) :
    ∀ column ∈ columns width rows, column.length = rows.length := by
  intro column member
  obtain ⟨x, found⟩ := List.getElem?_of_mem member
  -- A column has its place among as many as the rows are wide.
  have inside : x < width := by
    have := (List.getElem?_eq_some_iff.mp found).1
    rwa [length_columns] at this
  rw [getElem?_columns inside] at found
  rw [← Option.some.inj found]
  exact length_filterMap_even even inside

/-- The columns of columns are the rows again. -/
theorem filterMap_columns (even : ∀ row ∈ rows, row.length = width) {x : Nat}
    (inside : x < rows.length) : (columns width rows).filterMap (·[x]?) = rows[x] := by
  -- Columns and rows have the same entries with their places the other way around.
  have columns_even := length_of_mem_columns even
  apply List.ext_getElem?
  intro y
  rw [getElem?_filterMap_even columns_even inside]
  have wide := even rows[x] (List.getElem_mem inside)
  by_cases within : y < width
  · rw [getElem?_columns within, Option.bind_some, getElem?_filterMap_even even within,
      List.getElem?_eq_getElem inside]
    rfl
  · rw [List.getElem?_eq_none (by rw [length_columns]; omega), List.getElem?_eq_none (by omega)]
    rfl

end Columns

/-- The cells of a line from the edge on that rocks roll to. -/
def lineOf (rows : List (List Cell)) : Direction → Nat → List Cell
  | .north, x => rows.filterMap (·[x]?)
  | .west, y => rows.getD y []
  | .south, x => (rows.filterMap (·[x]?)).reverse
  | .east, y => (rows.getD y []).reverse

/-- The number of lines along a direction. -/
def lineCount (width height : Nat) : Direction → Nat
  | .north | .south => width
  | .west | .east => height

/-- The number of cells of each line along a direction. -/
def lineLength (width height : Nat) : Direction → Nat
  | .north | .south => height
  | .west | .east => width

variable {platform : Platform}

/-- Every column of a platform has an entry for each row. -/
theorem WellFormed.length_column (formed : platform.WellFormed) :
    ∀ column ∈ columns platform.width platform.rows, column.length = platform.height :=
  -- The rows of a platform are even.
  length_of_mem_columns formed.row_width

/-- Every line has the same number of cells. -/
theorem WellFormed.length_lineOf (formed : platform.WellFormed) {direction : Direction} {l : Nat}
    (inside : l < lineCount platform.width platform.height direction) :
    (lineOf platform.rows direction l).length =
      lineLength platform.width platform.height direction := by
  -- Lines are columns or rows, and turning a line round keeps its length.
  cases direction with
  | north => exact length_filterMap_even formed.row_width inside
  | south =>
    rw [lineOf, List.length_reverse]
    exact length_filterMap_even formed.row_width inside
  | west =>
    have within : l < platform.rows.length := inside
    have row := List.getElem?_eq_getElem within
    have wide := formed.row_width _ (List.getElem_mem within)
    simpa [lineOf, lineLength, List.getD_eq_getElem?_getD, row] using wide
  | east =>
    have within : l < platform.rows.length := inside
    have row := List.getElem?_eq_getElem within
    have wide := formed.row_width _ (List.getElem_mem within)
    simpa [lineOf, lineLength, List.getD_eq_getElem?_getD, row] using wide

/-- Changed columns still have an entry for each row. -/
theorem WellFormed.length_changed (formed : platform.WellFormed) {change : List Cell → List Cell}
    (keeps : ∀ column, (change column).length = column.length) :
    ∀ column ∈ (columns platform.width platform.rows).map change,
      column.length = platform.height := by
  -- Every changed column comes from a column, whose length it keeps.
  intro column member
  obtain ⟨old, kept, rfl⟩ := List.mem_map.mp member
  rw [keeps]
  exact formed.length_column old kept

/-- The columns after a change that keeps their lengths are the changed columns. -/
theorem filterMap_mapColumns (formed : platform.WellFormed) {change : List Cell → List Cell}
    (keeps : ∀ column, (change column).length = column.length) {x : Nat}
    (inside : x < platform.width) : (platform.mapColumns change).filterMap (·[x]?) =
      change (platform.rows.filterMap (·[x]?)) := by
  -- The changed columns are as even as the columns, so one can be read off again.
  have within : x < ((columns platform.width platform.rows).map change).length := by
    rwa [List.length_map, length_columns]
  have found := getElem?_columns inside platform.rows
  rw [mapColumns, filterMap_columns (formed.length_changed keeps) within, List.getElem_map]
  exact congrArg change (List.getElem?_eq_some_iff.mp found).2

/-- A tilt rolls the rocks of each line along its direction. -/
theorem lineOf_tilt (formed : platform.WellFormed) {direction : Direction} {l : Nat}
    (inside : l < lineCount platform.width platform.height direction) :
    lineOf (platform.tilt direction).rows direction l =
      rollForward (lineOf platform.rows direction l) := by
  -- South and east, where lines are read in reverse, rocks roll towards the end of the list.
  cases direction with
  | north => exact filterMap_mapColumns formed length_rollForward inside
  | south =>
    have column := filterMap_mapColumns formed length_rollBackward inside
    show ((platform.mapColumns rollBackward).filterMap (·[l]?)).reverse = _
    rw [column, rollBackward, List.reverse_reverse]
    rfl
  | west =>
    have within : l < platform.rows.length := inside
    show (platform.rows.map rollForward).getD l [] = rollForward (platform.rows.getD l [])
    simp [List.getD_eq_getElem?_getD, List.getElem?_eq_getElem within]
  | east =>
    have within : l < platform.rows.length := inside
    show ((platform.rows.map rollBackward).getD l []).reverse = _
    simp [lineOf, rollBackward, List.getD_eq_getElem?_getD, List.getElem?_eq_getElem within]

/-- A change of columns that keeps their lengths keeps the form of the platform. -/
theorem WellFormed.mapColumns (formed : platform.WellFormed) {change : List Cell → List Cell}
    (keeps : ∀ column, (change column).length = column.length) :
    WellFormed { platform with rows := platform.mapColumns change } := by
  have height_pos : 0 < platform.height := List.length_pos_iff.mpr formed.rows_ne_nil
  -- The rows are the columns of the changed columns.
  refine ⟨formed.width_pos, ?_, ?_⟩
  · apply List.ne_nil_of_length_pos
    show 0 < (columns platform.height _).length
    rwa [length_columns]
  · intro row member
    rw [length_of_mem_columns (formed.length_changed keeps) row member, List.length_map,
      length_columns]

/-- A change of rows that keeps their lengths keeps the form of the platform. -/
theorem WellFormed.mapRows (formed : platform.WellFormed) {change : List Cell → List Cell}
    (keeps : ∀ row, (change row).length = row.length) :
    WellFormed { platform with rows := platform.rows.map change } := by
  -- A row changes by itself and keeps its length.
  refine ⟨formed.width_pos, ?_, ?_⟩
  · simpa using formed.rows_ne_nil
  · intro row member
    obtain ⟨old, kept, rfl⟩ := List.mem_map.mp member
    rw [keeps]
    exact formed.row_width old kept

/-- A tilted platform has cells, and all its rows are as wide as before. -/
theorem WellFormed.tilt (formed : platform.WellFormed) (direction : Direction) :
    (platform.tilt direction).WellFormed := by
  -- Two directions change columns and two change rows, none of them a length.
  cases direction with
  | north => exact formed.mapColumns length_rollForward
  | west => exact formed.mapRows length_rollForward
  | south => exact formed.mapColumns length_rollBackward
  | east => exact formed.mapRows length_rollBackward

/-- A tilted platform is as wide as before. -/
@[simp] theorem width_tilt (platform : Platform) (direction : Direction) :
    (platform.tilt direction).width = platform.width := by
  -- Tilting changes rows only.
  cases direction <;> rfl

/-- A tilted platform has as many rows as before. -/
@[simp] theorem height_tilt (platform : Platform) (direction : Direction) :
    (platform.tilt direction).height = platform.height := by
  -- Rows come from as many columns as there are rows, or row by row.
  cases direction with
  | north => exact length_columns _ _
  | west => exact List.length_map _
  | south => exact length_columns _ _
  | east => exact List.length_map _

end SolverHub.Platform
