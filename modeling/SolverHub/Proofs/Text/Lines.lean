import Mathlib.Data.List.DropRight
import SolverHub.Text.Blank
import SolverHub.Text.Lines

/-! Lines end at line feeds, and trimming takes the blanks around a text and nothing else. -/

namespace SolverHub.Text

variable {c : Char} {text front back rest : List Char}

section Feeds

/-- A character joins the line behind it, unless it ends the line before together with what follows. -/
theorem lines_cons (feedless : c ≠ '\n') (plain : c = '\r' → rest.head? ≠ some '\n') :
    lines (c :: rest) = match lines rest with
      | [] => [[c]]
      | line :: others => (c :: line) :: others := by
  -- The earlier cases are for line ends, and the character is none.
  refine lines.eq_4 c rest feedless ?_
  rintro after rfl rfl
  exact plain rfl rfl

/-- A line ends at the first line feed, where a carriage return in front of it is dropped. -/
theorem exists_lines_append (single : '\n' ∉ front) (rest : List Char) :
    ∃ line, lines (front ++ '\n' :: rest) = line :: lines rest ∧
      (front = line ∨ front = line ++ ['\r']) := by
  -- The induction follows the text before the line feed, whose characters join the line.
  induction front with
  | nil => exact ⟨[], rfl, .inl rfl⟩
  | cons c front ih =>
    obtain ⟨feedless, behind⟩ := not_or.mp (mt List.mem_cons.mpr single)
    by_cases last : c = '\r' ∧ front = []
    · obtain ⟨rfl, rfl⟩ := last
      exact ⟨[], rfl, .inr rfl⟩
    · obtain ⟨line, split, ends⟩ := ih behind
      refine ⟨c :: line, ?_, ends.imp (congrArg (c :: ·)) (congrArg (c :: ·))⟩
      rw [List.cons_append, lines_cons (Ne.symm feedless) ?_, split]
      -- What follows the character is not the line feed, unless the character is the last one.
      rintro rfl first
      cases front with
      | nil => exact last ⟨rfl, rfl⟩
      | cons d front =>
        cases first
        exact behind List.mem_cons_self

/-- A text without line feeds is one line, if it has any characters. -/
theorem lines_single (single : '\n' ∉ text) (filled : text ≠ []) : lines text = [text] := by
  -- The induction follows the text, whose characters all join the line.
  induction text with
  | nil => exact absurd rfl filled
  | cons c text ih =>
    obtain ⟨feedless, single⟩ := not_or.mp (mt List.mem_cons.mpr single)
    rw [lines_cons (Ne.symm feedless) fun _ first => single (List.mem_of_head? first)]
    cases text with
    | nil => rfl
    | cons d text => rw [ih single (List.cons_ne_nil d text)]

end Feeds

section Blanks

/-- A text has blank characters only. -/
def Blank (text : List Char) : Prop :=
  ∀ c ∈ text, isBlank c = true

/-- Nothing is left in front of a text that blanks stand in front of. -/
theorem trimStart_append (blank : Blank front) (text : List Char) :
    trimStart (front ++ text) = trimStart text :=
  -- Blanks in front are dropped one by one.
  List.dropWhile_append_of_pos blank

/-- Blanks alone are dropped from the front. -/
theorem trimStart_blank (blank : Blank text) : trimStart text = [] :=
  List.dropWhile_eq_nil_iff.mpr blank

/-- Nothing is left behind a text that blanks stand behind. -/
theorem trimEnd_append (text : List Char) (blank : Blank back) :
    trimEnd (text ++ back) = trimEnd text := by
  -- The end is trimmed as the start of the reversed text.
  rw [trimEnd, List.reverse_append]
  exact congrArg List.reverse
    (trimStart_append (fun c member => blank c (List.mem_reverse.mp member)) text.reverse)

/-- Trimming drops the blanks around a text. -/
theorem trim_append (blank : Blank front) (text : List Char) (also : Blank back) :
    trim (front ++ text ++ back) = trim text := by
  rw [trim, List.append_assoc, trimStart_append blank, trimStart, List.dropWhile_append]
  split
  · -- A text of nothing but blanks leaves those behind it, which are dropped as well.
    rename_i empty
    rw [← trimStart, trimStart_blank also, trim, trimStart, List.isEmpty_iff.mp empty]
  · exact trimEnd_append (trimStart text) also

/-- A text has blanks around what is left when it is trimmed. -/
theorem exists_trim (text : List Char) :
    ∃ front back, Blank front ∧ Blank back ∧ text = front ++ trim text ++ back := by
  refine ⟨text.takeWhile isBlank, (trimStart text).rtakeWhile isBlank,
    fun c => List.mem_takeWhile_imp, fun c => List.mem_rtakeWhile_imp, ?_⟩
  -- What trimming drops are the longest runs of blanks at both ends.
  have behind : trim text ++ (trimStart text).rtakeWhile isBlank = trimStart text :=
    List.rdropWhile_append_rtakeWhile
  rw [List.append_assoc, behind]
  exact List.takeWhile_append_dropWhile.symm

/-- A trimmed text does not end with a blank. -/
theorem isBlank_of_getLast?_trim (last : (trim text).getLast? = some c) : isBlank c = false := by
  obtain ⟨start, ends⟩ := List.getLast?_eq_some_iff.mp last
  have kept : (trimStart text).rdropWhile isBlank = start ++ [c] := ends
  -- The end has been trimmed as far as it is blank.
  have left := List.rdropWhile_last_not isBlank (trimStart text) (kept ▸ List.concat_ne_nil c start)
  simpa [kept] using left

/-- Nothing is trimmed off a text that has no blank at either end. -/
theorem trim_eq_self (first : ∀ c, text.head? = some c → isBlank c = false)
    (last : ∀ c, text.getLast? = some c → isBlank c = false) : trim text = text := by
  -- Trimming stops at the first character and at the last one, neither of them blank.
  have start : trimStart text = text := by
    cases text with
    | nil => rfl
    | cons c text =>
      exact List.dropWhile_cons_of_neg (Bool.eq_false_iff.mp (first c rfl))
  have ends : trimEnd text = text := by
    refine List.rdropWhile_eq_self_iff.mpr fun filled => Bool.eq_false_iff.mp ?_
    exact last _ (List.getLast?_eq_some_getLast filled)
  rw [trim, start, ends]

/-- A text that starts with no blank keeps its start when it is trimmed, if something visible comes behind. -/
theorem exists_trim_append (start : List Char) {behind : List Char} (blank : Blank front)
    (first : ∀ c, start.head? = some c → isBlank c = false) (visible : ¬Blank behind) :
    ∃ rest, trim (front ++ (start ++ behind)) = start ++ rest := by
  obtain ⟨before, after, blank_before, blank_after, split⟩ := exists_trim behind
  have left : trim behind ≠ [] := by
    intro nothing
    rw [nothing, List.append_nil] at split
    exact visible (split ▸ List.forall_mem_append.mpr ⟨blank_before, blank_after⟩)
  have grouped : front ++ (start ++ behind) = front ++ (start ++ (before ++ trim behind)) ++ after := by
    conv_lhs => rw [split]
    simp only [List.append_assoc]
  rw [grouped, trim_append blank _ blank_after]
  cases start with
  | nil => exact ⟨_, rfl⟩
  | cons c start =>
    -- Neither the start nor what is left behind it has a blank at its end of the text.
    refine ⟨before ++ trim behind, trim_eq_self first fun d last => ?_⟩
    rw [List.getLast?_append, List.getLast?_append, List.getLast?_eq_some_getLast left, Option.some_or,
      Option.some_or] at last
    exact isBlank_of_getLast?_trim (List.getLast?_eq_some_getLast left |>.trans last)

/-- A text without blanks has none at either end. -/
theorem trim_solid (unblank : ∀ c ∈ text, isBlank c = false) : trim text = text :=
  -- No character is blank, so neither end is.
  trim_eq_self (fun c first => unblank c (List.mem_of_head? first))
    fun c last => unblank c (List.mem_of_getLast? last)

end Blanks

end SolverHub.Text
