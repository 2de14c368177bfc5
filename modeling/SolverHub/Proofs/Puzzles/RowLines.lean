import SolverHub.Proofs.Guard
import SolverHub.Proofs.Text.Encoded
import SolverHub.Puzzles.Platform

/-! Lines are read as rows exactly when all are equally wide and hold no bytes but those of cells. -/

namespace SolverHub.Platform

variable {width number : Nat} {line : List Char} {lines : List (List Char)} {byte : UInt8}
  {input : String} {platform : Platform} {error : ParseError}

/-- A byte is one of the three that stand for cells. -/
def IsCell (byte : UInt8) : Prop :=
  byte = 'O'.toUInt8 ∨ byte = '#'.toUInt8 ∨ byte = '.'.toUInt8

/-- A line is a row of a width. -/
structure Fits (width : Nat) (line : List Char) : Prop where
  wide : (lineBytes line).length = width
  cells : ∀ byte ∈ lineBytes line, IsCell byte

/-- What is wrong with a line that should be a row, and the error that tells it.

A wrong width is told before a wrong byte, and of wrong bytes the first one is told. -/
inductive Offence (width number : Nat) (line : List Char) : ParseError → Prop
  /-- The line has another width. -/
  | width (other : (lineBytes line).length ≠ width) :
    Offence width number line (.invalidFormat ("row " ++ Text.natText number ++ " has width " ++
      Text.natText (lineBytes line).length ++ ", expected " ++ Text.natText width))
  /-- The line has the width but not only cells. -/
  | byte {before : List UInt8} {bad : UInt8} {behind : List UInt8}
    (wide : (lineBytes line).length = width) (bytes : lineBytes line = before ++ bad :: behind)
    (sound : ∀ byte ∈ before, IsCell byte) (wrong : ¬IsCell bad) :
    Offence width number line (.invalidFormat ("unexpected " ++
      Text.quotedChar (Char.ofNat bad.toNat) ++ " in row " ++ Text.natText number))

/-- The lines that rows of cells are. -/
def rowChars (rows : List (List Cell)) : List (List Char) :=
  rows.map fun row => row.map Cell.toChar

/-- The bytes that stand for a cell. -/
theorem ofByte?_eq_some {cell : Cell} :
    Cell.ofByte? byte = some cell ↔ byte = cell.toChar.toUInt8 := by
  constructor
  · -- The bytes are tried one after the other, and each leads to its own cell.
    intro found
    unfold Cell.ofByte? at found
    split at found
    · cases found
      assumption
    · split at found
      · cases found
        assumption
      · split at found
        · cases found
          assumption
        · cases found
  · rintro rfl
    cases cell <;> rfl

/-- The three bytes are those of the cells. -/
theorem isCell_iff : IsCell byte ↔ ∃ cell : Cell, byte = cell.toChar.toUInt8 := by
  -- There are three kinds of cells, one for each of the bytes.
  constructor
  · rintro (round | cube | free)
    · exact ⟨.round, round⟩
    · exact ⟨.cube, cube⟩
    · exact ⟨.free, free⟩
  · rintro ⟨cell, rfl⟩
    cases cell
    · exact .inl rfl
    · exact .inr (.inl rfl)
    · exact .inr (.inr rfl)

/-- No other byte stands for a cell. -/
theorem isNone_ofByte? : (Cell.ofByte? byte).isNone = true ↔ ¬IsCell byte := by
  -- A byte is none exactly if no cell is written as it.
  rw [isCell_iff, ← not_iff_not, not_not, Option.isNone_iff_eq_none, ← ne_eq,
    Option.ne_none_iff_exists']
  simp only [ofByte?_eq_some]

/-- A row of cells has one byte for each of them. -/
theorem lineBytes_toChar (row : List Cell) :
    lineBytes (row.map Cell.toChar) = row.map fun cell => cell.toChar.toUInt8 := by
  -- All cells are written as characters of one byte.
  have single : ∀ cell : Cell, String.utf8EncodeChar cell.toChar = [cell.toChar.toUInt8] := by
    intro cell
    cases cell <;> rfl
  rw [lineBytes, List.flatMap_map, List.flatMap_congr fun cell _ => single cell,
    ← List.map_eq_flatMap]

/-- A line with no bytes but those of cells is a row of cells. -/
theorem exists_row (sound : ∀ byte ∈ lineBytes line, IsCell byte) :
    ∃ row : List Cell, line = row.map Cell.toChar := by
  -- The line gives up its characters one by one, each of which is a single byte.
  induction line with
  | nil => exact ⟨[], rfl⟩
  | cons c line ih =>
    obtain ⟨row, rfl⟩ := ih fun byte member => sound byte (List.mem_append_right _ member)
    -- The first byte is below 128, so it is the first character.
    obtain ⟨byte, more, front⟩ := Text.exists_bytes_cons c (row.map Cell.toChar)
    obtain ⟨cell, rfl⟩ := isCell_iff.mp <| sound byte <| by
      show byte ∈ Text.bytes (c :: row.map Cell.toChar)
      rw [front]
      exact List.mem_cons_self ..
    have narrow : cell.toChar.toUInt8.toNat < 128 := by cases cell <;> decide
    have same : Char.ofNat cell.toChar.toUInt8.toNat = cell.toChar := by cases cell <;> rfl
    obtain ⟨rest, split⟩ := Text.eq_cons_of_head narrow (by rw [front]; rfl)
    exact ⟨cell :: row, by rw [(List.cons.inj split).1, same, List.map_cons]⟩

/-- The lines that are rows of a width are those of as many cells. -/
theorem fits_iff : Fits width line ↔
    ∃ row : List Cell, row.length = width ∧ line = row.map Cell.toChar := by
  -- Bytes of cells are characters of cells, so the line is a row written out.
  constructor
  · rintro ⟨wide, cells⟩
    obtain ⟨row, rfl⟩ := exists_row cells
    rw [lineBytes_toChar, List.length_map] at wide
    exact ⟨row, wide, rfl⟩
  · rintro ⟨row, wide, rfl⟩
    refine ⟨by rw [lineBytes_toChar, List.length_map, wide], ?_⟩
    rw [lineBytes_toChar]
    intro byte member
    obtain ⟨cell, _, rfl⟩ := List.mem_map.mp member
    exact isCell_iff.mpr ⟨cell, rfl⟩

/-- Lines that are rows of a width are rows of cells. -/
theorem exists_rows_of_fits (fits : ∀ line ∈ lines, Fits width line) :
    ∃ rows, (∀ row ∈ rows, row.length = width) ∧ lines = rowChars rows := by
  -- Each line is a row of its own, whatever the others are.
  induction lines with
  | nil => exact ⟨[], nofun, rfl⟩
  | cons line lines ih =>
    obtain ⟨row, wide, rfl⟩ := fits_iff.mp (fits line (List.mem_cons_self ..))
    obtain ⟨rows, even, rfl⟩ := ih fun other member => fits other (List.mem_cons_of_mem _ member)
    exact ⟨row :: rows, List.forall_mem_cons.mpr ⟨wide, even⟩, rfl⟩

/-- A line is a row of a width, or something is wrong with it. -/
theorem fits_or_offence (width number : Nat) (line : List Char) :
    Fits width line ∨ ∃ error, Offence width number line error := by
  by_cases wide : (lineBytes line).length = width
  · cases wrong : (lineBytes line).find? fun byte => (Cell.ofByte? byte).isNone with
    | none =>
      -- The search finds no wrong byte, so all bytes are those of cells.
      refine .inl ⟨wide, fun byte member => ?_⟩
      have cell := List.find?_eq_none.mp wrong byte member
      rwa [isNone_ofByte?, not_not] at cell
    | some bad =>
      -- The search stops at the first wrong byte, and all bytes before it are those of cells.
      obtain ⟨bad_wrong, before, behind, bytes, sound⟩ := List.find?_eq_some_iff_append.mp wrong
      refine .inr ⟨_, .byte wide bytes (fun byte member => ?_) (isNone_ofByte?.mp bad_wrong)⟩
      have cell := sound byte member
      rwa [Bool.not_eq_true', ← Bool.not_eq_true, isNone_ofByte?, not_not] at cell
  · exact .inr ⟨_, .width wide⟩

/-- A row of cells is read back from its line. -/
theorem parseRow_toChar {row : List Cell} (wide : row.length = width) (number : Nat) :
    parseRow width number (row.map Cell.toChar) = .ok row := by
  -- Every byte of the line is read back as the cell it was written for.
  have cells : ∀ cell : Cell, Cell.ofByte? cell.toChar.toUInt8 = some cell :=
    fun _ => ofByte?_eq_some.mpr rfl
  have sound : (row.map fun cell => cell.toChar.toUInt8).find?
      (fun byte => (Cell.ofByte? byte).isNone) = none := by
    simp [cells]
  simp only [parseRow, lineBytes_toChar, List.length_map, wide, ne_eq, not_true_eq_false,
    if_false, sound]
  simp [List.filterMap_map, cells]

/-- What is wrong with a line is told. -/
theorem parseRow_of_offence (offence : Offence width number line error) :
    parseRow width number line = .error error := by
  -- The width is checked first, and the first bad byte is told only behind it.
  cases offence with
  | width other => simp only [parseRow, if_pos other]
  | byte wide bytes sound wrong =>
    rename_i before bad behind
    have first : (lineBytes line).find? (fun byte => (Cell.ofByte? byte).isNone) = some bad := by
      rw [List.find?_eq_some_iff_append]
      refine ⟨isNone_ofByte?.mpr wrong, before, behind, bytes, fun byte member => ?_⟩
      rw [Bool.not_eq_true', ← Bool.not_eq_true, isNone_ofByte?, not_not]
      exact sound byte member
    simp only [parseRow, ne_eq, wide, not_true_eq_false, if_false, first]

/-- Rows of cells are read back from their lines. -/
theorem parseRows_rowChars {rows : List (List Cell)} (even : ∀ row ∈ rows, row.length = width)
    (number : Nat) : parseRows width number (rowChars rows) = .ok rows := by
  -- Each row takes one number, and none of them is told.
  induction rows generalizing number with
  | nil => rfl
  | cons row rows ih =>
    have wide := even row (List.mem_cons_self ..)
    have others := ih (fun other member => even other (List.mem_cons_of_mem row member)) (number + 1)
    show parseRows width number (row.map Cell.toChar :: rowChars rows) = _
    rw [parseRows, parseRow_toChar wide, others]
    rfl

/-- What is wrong with the first line that is no row is told. -/
theorem parseRows_of_offence {before behind : List (List Char)}
    (fits : ∀ earlier ∈ before, Fits width earlier)
    (offence : Offence width (number + before.length) line error) :
    parseRows width number (before ++ line :: behind) = .error error := by
  -- Every row in front is read, and takes one number.
  induction before generalizing number with
  | nil =>
    have told : parseRow width number line = .error error := parseRow_of_offence offence
    rw [List.nil_append, parseRows, told]
    rfl
  | cons earlier before ih =>
    obtain ⟨row, wide, rfl⟩ := fits_iff.mp (fits earlier (List.mem_cons_self ..))
    have place : number + (row.map Cell.toChar :: before).length = number + 1 + before.length := by
      rw [List.length_cons]
      omega
    rw [place] at offence
    have others := ih (fun other member => fits other (List.mem_cons_of_mem _ member)) offence
    rw [List.cons_append, parseRows, parseRow_toChar wide, others]
    rfl

/-- All lines are rows of a width, or there is a first one with which something is wrong. -/
theorem fits_or_first_offence (width number : Nat) (lines : List (List Char)) :
    (∀ line ∈ lines, Fits width line) ∨
      ∃ before line behind error, lines = before ++ line :: behind ∧
        (∀ earlier ∈ before, Fits width earlier) ∧
        Offence width (number + before.length) line error := by
  by_cases all : ∀ line ∈ lines, Fits width line
  · exact .inl all
  · have exist : ∃ line ∈ lines, ¬Fits width line := by
      by_contra none
      exact all fun line member => by_contra fun wrong => none ⟨line, member, wrong⟩
    obtain ⟨before, line, behind, split, wrong, passed⟩ := exists_cut exist
    -- The number of the line is that of the first one and as many more as there are lines before it.
    rcases fits_or_offence width (number + before.length) line with fits | ⟨error, offence⟩
    · exact absurd fits wrong
    · exact .inr ⟨before, line, behind, error, split,
        fun earlier member => not_not.mp (passed earlier member), offence⟩

/-- The lines of an input are read as rows as wide as the first one. -/
theorem parse_of_cons {first : List Char} {rest : List (List Char)}
    (found : rowLines input = first :: rest) :
    parse input = (parseRows (lineBytes first).length 1 (first :: rest)).map
      (Platform.mk (lineBytes first).length) := by
  -- The first line sets the width for all.
  simp only [parse, found]
  cases parseRows (lineBytes first).length 1 (first :: rest) <;> rfl

/-- A platform is read exactly from the lines that its rows are. -/
theorem parse_eq_ok_iff : parse input = .ok platform ↔
    platform.WellFormed ∧ rowLines input = rowChars platform.rows := by
  constructor
  · -- Without an offence the lines are rows, and these are what was read.
    intro read
    cases found : rowLines input with
    | nil => simp [parse, found] at read
    | cons first rest =>
      rw [parse_of_cons found] at read
      rcases fits_or_first_offence (lineBytes first).length 1 (first :: rest) with
        fits | ⟨before, line, behind, error, split, fits, offence⟩
      · obtain ⟨rows, even, same⟩ := exists_rows_of_fits fits
        rw [same, parseRows_rowChars even] at read
        cases read
        have member : first ∈ Text.filledLines input.toList := by
          show first ∈ rowLines input
          rw [found]
          exact List.mem_cons_self ..
        have positive := Text.byteCount_pos_of_mem member
        rw [← Text.length_bytes] at positive
        have filled : rows ≠ [] := by
          rintro rfl
          cases same
        exact ⟨⟨positive, filled, even⟩, same⟩
      · rw [split, parseRows_of_offence fits offence] at read
        cases read
  · -- The first row is as wide as all of them, so it sets the width of the platform.
    rintro ⟨formed, found⟩
    obtain ⟨width, rows⟩ := platform
    obtain ⟨row, rest, rfl⟩ := List.exists_cons_of_ne_nil formed.rows_ne_nil
    have even : ∀ other ∈ row :: rest, other.length = width := formed.row_width
    have wide : (lineBytes (row.map Cell.toChar)).length = width := by
      rw [lineBytes_toChar, List.length_map]
      exact even row (List.mem_cons_self ..)
    rw [parse_of_cons found, wide]
    show (parseRows width 1 (rowChars (row :: rest))).map _ = _
    rw [parseRows_rowChars even]
    rfl

end SolverHub.Platform
