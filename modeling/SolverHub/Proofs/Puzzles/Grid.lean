import Mathlib.Data.List.SplitLengths
import SolverHub.Proofs.Puzzles.PlatformGuard
import SolverHub.Proofs.Puzzles.RowLines
import SolverHub.Proofs.Text.Lines

/-! Reading a platform and writing its rows undo each other, and the lines that are read are the grids. -/

namespace SolverHub.Text

variable {c : Char} {row : List Char} {rows : List (List Char)}

/-- A text has characters, and none of them is blank. -/
structure Solid (text : List Char) : Prop where
  filled : text ≠ []
  unblank : ∀ c ∈ text, isBlank c = false

/-- A row without blanks ends at its line feed. -/
theorem lines_append (solid : ∀ c ∈ row, isBlank c = false) (rest : List Char) :
    lines (row ++ '\n' :: rest) = row :: lines rest := by
  obtain ⟨line, split, same | ends⟩ :=
    exists_lines_append (fun feed => by cases solid '\n' feed) rest
  · rw [split, same]
  · -- The row does not end with a carriage return.
    cases solid '\r' (ends ▸ List.mem_append_right line List.mem_cons_self)

/-- A row without blanks is one line. -/
theorem lines_solid (solid : Solid row) : lines row = [row] :=
  lines_single (fun feed => by cases solid.unblank '\n' feed) solid.filled

/-- Rows without blanks are the lines of the rows joined by line feeds. -/
theorem lines_intercalate (solid : ∀ row ∈ rows, Solid row) :
    lines (['\n'].intercalate rows) = rows := by
  -- The last row ends with the text, and every other row ends at the line feed behind it.
  induction rows with
  | nil => rfl
  | cons row rows ih =>
    have first := solid row (List.mem_cons_self ..)
    have others := ih fun other member => solid other (List.mem_cons_of_mem row member)
    cases rows with
    | nil => rw [List.intercalate_singleton, lines_solid first]
    | cons next rows =>
      rw [List.intercalate_cons_cons, List.append_assoc, List.singleton_append,
        lines_append first.unblank, others]

/-- Rows without blanks are the filled lines of the rows joined by line feeds. -/
theorem filledLines_intercalate (solid : ∀ row ∈ rows, Solid row) :
    filledLines (['\n'].intercalate rows) = rows := by
  -- Solid rows have no blanks around them, and none of them is empty.
  have trimmed : rows.map trim = rows := by
    calc rows.map trim
      _ = rows.map id := List.map_congr_left fun row member => trim_solid (solid row member).unblank
      _ = rows := List.map_id rows
  rw [filledLines, lines_intercalate solid, trimmed, List.filter_eq_self]
  intro row member
  simp [(solid row member).filled]

end SolverHub.Text

namespace SolverHub.Platform

variable {input : String} {platform : Platform} {error : ParseError} {lines : List (List Char)}

/-- Equally long lines, at least one, with no bytes but those of cells. -/
structure Grid (lines : List (List Char)) : Prop where
  filled : lines ≠ []
  even : ∀ first ∈ lines, ∀ second ∈ lines, (lineBytes first).length = (lineBytes second).length
  cells : ∀ line ∈ lines, ∀ byte ∈ lineBytes line, IsCell byte

/-- The first line that is no row as wide as the first line of all, its place and what is wrong with it. -/
def FirstOffence (lines : List (List Char)) (error : ParseError) : Prop :=
  ∃ width before line behind, lines = before ++ line :: behind ∧
    lines.head?.map (fun first => (lineBytes first).length) = some width ∧
    (∀ earlier ∈ before, Fits width earlier) ∧ Offence width (before.length + 1) line error

/-- A platform in one list has cells for as many rows of its width as it is high. -/
structure Flat.WellFormed (flat : Flat) : Prop where
  width_pos : 0 < flat.width
  height_pos : 0 < flat.height
  full : flat.cells.length = flat.width * flat.height

/-- The cells of a platform in one list are as many as it has room for. -/
theorem WellFormed.flat (formed : platform.WellFormed) : platform.flat.WellFormed :=
  -- As many cells are joined as rows and columns make.
  ⟨formed.width_pos, List.length_pos_iff.mpr formed.rows_ne_nil,
    Guard.length_flatten_even formed.row_width⟩

/-- A platform in one list comes from one with rows. -/
theorem Flat.WellFormed.exists_platform {flat : Flat} (formed : flat.WellFormed) :
    ∃ platform : Platform, platform.WellFormed ∧ platform.flat = flat := by
  obtain ⟨width, height, cells⟩ := flat
  have full : cells.length = (List.replicate height width).sum := by
    rw [List.sum_replicate, smul_eq_mul, Nat.mul_comm]
    exact formed.full
  -- The cells are cut into as many rows of the width as the platform is high.
  have rows := List.length_splitLengths cells (List.replicate height width)
  have widths := List.map_splitLengths_length cells (List.replicate height width) full.ge
  rw [List.length_replicate] at rows
  refine ⟨⟨width, (List.replicate height width).splitLengths cells⟩, ⟨formed.width_pos, ?_, ?_⟩, ?_⟩
  · rw [← List.length_pos_iff, rows]
    exact formed.height_pos
  · rw [← List.map_eq_replicate_iff, widths, rows]
  · rw [Platform.flat, Platform.height, rows, List.flatten_splitLengths cells _ full.le]

/-- The lines that the rows of a platform are make up a grid. -/
theorem WellFormed.grid (formed : platform.WellFormed) : Grid (rowChars platform.rows) := by
  -- The lines are the rows in characters, which fit the width of the platform.
  have fits : ∀ line ∈ rowChars platform.rows, Fits platform.width line := by
    intro line member
    obtain ⟨row, present, rfl⟩ := List.mem_map.mp member
    exact fits_iff.mpr ⟨row, formed.row_width row present, rfl⟩
  refine ⟨?_, fun first member second other => ?_, fun line member => (fits line member).cells⟩
  · exact List.map_eq_nil_iff.not.mpr formed.rows_ne_nil
  · rw [(fits first member).wide, (fits second other).wide]

/-- The texts of the rows are the lines that the rows are. -/
theorem render_eq (platform : Platform) :
    platform.render = (rowChars platform.rows).map String.ofList := by
  -- The rows are rendered cell by cell.
  rw [render, rowChars, List.map_map]
  rfl

/-- What is read from a platform's rows, joined by line feeds, is the platform. -/
theorem parse_render (formed : platform.WellFormed) :
    parse ("\n".intercalate platform.render) = .ok platform := by
  -- Rows have cells, and no cell is blank, so each row is a line of its own.
  have solid : ∀ line ∈ rowChars platform.rows, Text.Solid line := by
    intro line member
    obtain ⟨row, present, rfl⟩ := List.mem_map.mp member
    refine ⟨?_, fun c inside => ?_⟩
    · rw [ne_eq, List.map_eq_nil_iff, ← List.length_eq_zero_iff, formed.row_width row present]
      exact formed.width_pos.ne'
    · obtain ⟨cell, _, rfl⟩ := List.mem_map.mp inside
      cases cell <;> decide
  have joined : ("\n".intercalate platform.render).toList =
      ['\n'].intercalate (rowChars platform.rows) := by
    rw [String.toList_intercalate, render_eq, List.map_map]
    congr 1
    simp
  rw [parse_eq_ok_iff]
  refine ⟨formed, ?_⟩
  show Text.filledLines _ = _
  rw [joined, Text.filledLines_intercalate solid]

/-- A parser that does not read a platform tells the first offence, if there is a line at all. -/
theorem parse_cases (input : String) :
    (∃ platform, parse input = .ok platform) ∧ Grid (rowLines input) ∨
      ¬Grid (rowLines input) ∧ ∃ error, parse input = .error error ∧
        (rowLines input = [] ∧ error = .missingData "empty platform" ∨
          FirstOffence (rowLines input) error) := by
  cases found : rowLines input with
  | nil =>
    refine .inr ⟨fun grid => grid.filled rfl, .missingData "empty platform", ?_, .inl ⟨rfl, rfl⟩⟩
    simp only [parse, found]
  | cons first rest =>
    rcases fits_or_first_offence (lineBytes first).length 1 (first :: rest) with
      fits | ⟨before, line, behind, error, split, fits, offence⟩
    · -- What was read has the form of a platform, so its rows make up a grid.
      obtain ⟨rows, even, same⟩ := exists_rows_of_fits fits
      have read : parse input = .ok ⟨(lineBytes first).length, rows⟩ := by
        rw [parse_of_cons found, same, parseRows_rowChars even]
        rfl
      obtain ⟨formed, lines⟩ := parse_eq_ok_iff.mp read
      rw [← found, lines]
      exact .inl ⟨⟨_, read⟩, formed.grid⟩
    · have told : parse input = .error error := by
        rw [parse_of_cons found, split, parseRows_of_offence fits offence]
        rfl
      refine .inr ⟨fun grid => ?_, error, told, .inr ?_⟩
      · -- The offending line of a grid would be as wide as the first one, and would have only cells.
        have member : line ∈ first :: rest := by
          rw [split]
          exact List.mem_append_right _ (List.mem_cons_self ..)
        cases offence with
        | width other => exact other (grid.even line member first (List.mem_cons_self ..))
        | byte _ bytes _ wrong =>
          refine wrong (grid.cells line member _ ?_)
          rw [bytes]
          exact List.mem_append_right _ (List.mem_cons_self ..)
      · refine ⟨_, before, line, behind, split, rfl, fits, ?_⟩
        rwa [Nat.add_comm before.length]

/-- The texts that are read are those whose lines make up a grid, and a platform's rows are these lines.

From its rows, joined by line feeds, every platform is read back, and what is no grid is told of by its
first line that is no row. -/
theorem parse_inverts_rows :
    (∀ input, (∃ platform, parse input = .ok platform) ↔ Grid (rowLines input)) ∧
    (∀ input platform, parse input = .ok platform → platform.flat.WellFormed ∧
      platform.render = (rowLines input).map String.ofList ∧
      platform.flat.render = .ok platform.render) ∧
    (∀ flat : Flat, flat.WellFormed → ∃ platform : Platform, platform.flat = flat ∧
      flat.render = .ok platform.render ∧
      parse ("\n".intercalate platform.render) = .ok platform) ∧
    ∀ input error, parse input = .error error → rowLines input ≠ [] →
      FirstOffence (rowLines input) error := by
  refine ⟨fun input => ?reads, fun input platform read => ?rows, fun flat full => ?inverse,
    fun input error failed filled => ?told⟩
  -- An input is read or has an offence, and a grid has none.
  case reads =>
    rcases parse_cases input with ⟨read, grid⟩ | ⟨none, error, failed, _⟩
    · exact ⟨fun _ => grid, fun _ => read⟩
    · refine ⟨fun ⟨platform, read⟩ => ?_, fun grid => absurd grid none⟩
      rw [failed] at read
      cases read
  case rows =>
    obtain ⟨formed, lines⟩ := parse_eq_ok_iff.mp read
    exact ⟨formed.flat, by rw [render_eq, lines], render_flat formed⟩
  -- A full flat form is that of some platform, whose rows are read back.
  case inverse =>
    obtain ⟨platform, formed, rfl⟩ := full.exists_platform
    exact ⟨platform, rfl, render_flat formed, parse_render formed⟩
  -- Behind a first row the error is that of the first offence.
  case told =>
    rcases parse_cases input with ⟨⟨platform, read⟩, _⟩ | ⟨_, other, told, empty | offence⟩
    · rw [read] at failed
      cases failed
    · exact absurd empty.1 filled
    · rw [failed] at told
      cases told
      exact offence

/-- Blank lines and blanks around rows are left out, and a row is told to be too wide before a wrong byte in it. -/
theorem parse_inverts_rows_ragged :
    (∃ platform, parse " O.#\r\n\r\n\t#.O\n" = .ok platform ∧ platform.render = ["O.#", "#.O"]) ∧
    (∃ platform : Platform, platform.flat = ⟨2, 1, [.round, .cube]⟩ ∧
      parse ("\n".intercalate platform.render) = .ok platform) ∧
    FirstOffence (rowLines "O.\nx.#") (.invalidFormat "row 2 has width 3, expected 2") := by
  obtain ⟨_, rows, inverse, told⟩ := parse_inverts_rows
  -- The three inputs are a grid with blanks, a rendered platform and rows of unlike width.
  refine ⟨?_, ?_, ?_⟩
  · have read : parse " O.#\r\n\r\n\t#.O\n" =
        .ok ⟨3, [[.round, .free, .cube], [.cube, .free, .round]]⟩ := rfl
    obtain ⟨_, lines, _⟩ := rows _ _ read
    exact ⟨_, read, lines.trans rfl⟩
  · obtain ⟨platform, same, _, read⟩ :=
      inverse ⟨2, 1, [.round, .cube]⟩ ⟨by decide, by decide, rfl⟩
    exact ⟨platform, same, read⟩
  · have failed : parse "O.\nx.#" = .error (.invalidFormat "row 2 has width 3, expected 2") := by
      decide +kernel
    exact told _ _ failed (by decide)

end SolverHub.Platform
