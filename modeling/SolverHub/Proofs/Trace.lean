import Mathlib
import SolverHub.Proofs.Text.Decimal
import SolverHub.Proofs.Text.Lines
import SolverHub.Proofs.Text.Parts
import SolverHub.Trace

/-! An abbreviated trace tells the functions of the program in the order in which the trace was printed from them. -/

namespace SolverHub.Trace

open Text

/-- What a line can tell: it is not empty, has no line feed and no blanks around it. -/
structure Phrase where
  /-- The characters of the phrase. -/
  text : List Char
  filled : text ≠ []
  single : '\n' ∉ text
  trimmed : trim text = text

/-- A function on the stack. -/
structure Frame where
  /-- The digits of its number. -/
  number : List Char
  numbered : isNumber number = true
  /-- The name of the function. -/
  name : Phrase
  /-- The place where it is, if that is known. -/
  place : Option Phrase

/-- What the lines for a function tell: its number and name, and its place behind them if that is known. -/
def Frame.texts (frame : Frame) : List (List Char) :=
  (frame.number ++ ": ".toList ++ frame.name.text) ::
    (frame.place.map fun place => "at ".toList ++ place.text).toList

/-- A line tells a text, with blanks around it. -/
def Tells (line text : List Char) : Prop :=
  '\n' ∉ line ∧ ∃ front back, Blank front ∧ Blank back ∧ line = front ++ text ++ back

/-- A line that neither starts with a number and a name behind it nor names a place. -/
structure Noise (line : List Char) : Prop where
  single : '\n' ∉ line
  nameless : ∀ front number name, Blank front → isNumber number = true → ¬Blank name →
    line ≠ front ++ (number ++ ": ".toList ++ name)
  placeless : ∀ front place, Blank front → ¬Blank place → line ≠ front ++ ("at ".toList ++ place)

/-- Lines tell some texts in order, with noise anywhere between, before and behind them. -/
inductive Printed : List (List Char) → List (List Char) → Prop
  | nil : Printed [] []
  | tells {text line : List Char} {texts lines : List (List Char)} (tells : Tells line text)
      (rest : Printed texts lines) : Printed (text :: texts) (line :: lines)
  | noise {line : List Char} {texts lines : List (List Char)} (noise : Noise line)
      (rest : Printed texts lines) : Printed texts (line :: lines)

/-- A place belongs to the program itself: with slashes in place of backslashes it lies neither in the library of
the language nor in what others have published. -/
def IsOwn (place : List Char) : Prop :=
  ¬"/rustc/".toList <+: slashed place ∧ ¬"/rustlib/".toList <:+: slashed place ∧
    ¬"/.cargo/registry/".toList <:+: slashed place ∧ ¬"/.cargo/git/".toList <:+: slashed place

instance (place : List Char) : Decidable (IsOwn place) :=
  inferInstanceAs (Decidable (_ ∧ _))

/-- What is shown of a function: its name and its place, if the place is known and belongs to the program. -/
def Frame.shown? (root : Path) (frame : Frame) : Option String :=
  frame.place.bind fun place =>
    if IsOwn place.text ∧ ¬"install_panic_hook".toList <:+: frame.name.text then
      some (String.ofList (frame.name.text ++ " (".toList ++ relative root place.text ++ ")".toList))
    else none

section Reading

variable {number name place line text : List Char}

/-- Every character of a number is a digit, and there is one. -/
theorem isNumber_iff : isNumber number = true ↔ number ≠ [] ∧ ∀ c ∈ number, isDigit c = true := by
  simp [isNumber]

/-- A text that starts with a number does not start with a blank. -/
theorem isBlank_of_head? {c : Char} (numbered : isNumber number = true)
    (first : (number ++ text).head? = some c) : isBlank c = false := by
  -- A number has a first digit, and a digit is not blank.
  obtain ⟨filled, digits⟩ := isNumber_iff.mp numbered
  rw [List.head?_append, List.head?_eq_some_head filled, Option.some_or, Option.some.injEq] at first
  exact isBlank_digit (digits c (first ▸ List.head_mem filled))

/-- A number and a name are read back from between them. -/
theorem ofText_function (numbered : isNumber number = true) (name : List Char) :
    Line.ofText (number ++ ": ".toList ++ name) = .function name := by
  obtain ⟨filled, digits⟩ := isNumber_iff.mp numbered
  have colon : ':' ∉ number := fun member => by cases digits ':' member
  have split : splitOnce? ": ".toList (number ++ ": ".toList ++ name) = some (number, name) :=
    splitOnce?_append [' '] name colon
  -- A place does not start with a digit.
  have placeless : dropLeading? "at ".toList (number ++ ": ".toList ++ name) = none := by
    cases number with
    | nil => exact absurd rfl filled
    | cons c number =>
      have differs : 'a' ≠ c := fun same => by cases same ▸ digits c List.mem_cons_self
      exact if_neg differs
  rw [Line.ofText, placeless, split]
  exact if_pos numbered

/-- A place is read back from behind its mark. -/
theorem ofText_place (place : List Char) : Line.ofText ("at ".toList ++ place) = .place place := by
  rw [Line.ofText, dropLeading?_append]

/-- A text that is read as a place or as a number and a name is one. -/
theorem ofText_cases (text : List Char) :
    Line.ofText text = .other ∨ (∃ place, text = "at ".toList ++ place) ∨
      ∃ number name, isNumber number = true ∧ text = number ++ ": ".toList ++ name := by
  -- The cases are those of reading a line: a place, a function, or neither.
  unfold Line.ofText
  split
  · rename_i found
    exact .inr (.inl ⟨_, dropLeading?_eq_some.mp found⟩)
  · rename_i number name _ split
    split
    · rename_i numbered
      exact .inr (.inr ⟨number, name, numbered, eq_append_of_splitOnce? split⟩)
    · exact .inl rfl
  · exact .inl rfl

/-- A line tells what it was read as before blanks came around it. -/
theorem ofText_trim_of_tells (tells : Tells line text) (trimmed : trim text = text) :
    Line.ofText (trim line) = Line.ofText text := by
  -- Blanks around the text are trimmed away, and the text has none of its own at its ends.
  obtain ⟨_, front, back, blank, also, rfl⟩ := tells
  rw [trim_append blank text also, trimmed]

/-- A trimmed text does not end with blanks behind a space. -/
theorem not_blank_of_trim (start : List Char) {behind : List Char}
    (trimmed : trim line = start ++ ' ' :: behind) : ¬Blank behind := by
  intro blank
  have ends : Blank (' ' :: behind) := List.forall_mem_cons.mpr ⟨rfl, blank⟩
  obtain ⟨front, c, last⟩ := (List.eq_nil_or_concat (' ' :: behind)).resolve_left (List.cons_ne_nil _ _)
  -- A trimmed line does not end with a blank, so something stands behind this one.
  have final : (trim line).getLast? = some c := by
    rw [trimmed, last, List.getLast?_append, List.concat_eq_append, List.getLast?_concat]
    rfl
  have shown := isBlank_of_getLast?_trim final
  rw [ends c (last ▸ by simp)] at shown
  cases shown

/-- Noise is read as nothing. -/
theorem Noise.ofText_trim (noise : Noise line) : Line.ofText (trim line) = .other := by
  obtain ⟨front, back, blank, _, whole⟩ := exists_trim line
  rcases ofText_cases (trim line) with other | ⟨place, found⟩ | ⟨number, name, numbered, found⟩
  · exact other
  · -- A place that is read stands behind blanks in the line.
    have visible : ¬Blank place := not_blank_of_trim "at".toList found
    refine absurd ?_ (noise.placeless front (place ++ back) blank fun all =>
      visible fun c member => all c (List.mem_append_left _ member))
    rw [whole, found]
    simp
  · have visible : ¬Blank name := not_blank_of_trim (number ++ [':']) (by rw [found]; simp)
    refine absurd ?_ (noise.nameless front number (name ++ back) blank numbered fun all =>
      visible fun c member => all c (List.mem_append_left _ member))
    rw [whole, found]
    simp

/-- A line is noise exactly if it is read as nothing. -/
theorem noise_iff : Noise line ↔ '\n' ∉ line ∧ Line.ofText (trim line) = .other := by
  refine ⟨fun noise => ⟨noise.single, noise.ofText_trim⟩, fun ⟨single, nothing⟩ => ⟨single, ?_, ?_⟩⟩
  · -- A line with a number and a name behind it is read as the name.
    rintro front number name blank numbered visible rfl
    obtain ⟨rest, trimmed⟩ := exists_trim_append (number ++ ": ".toList) blank
      (fun _ => isBlank_of_head? numbered) visible
    rw [trimmed, ofText_function numbered] at nothing
    cases nothing
  · rintro front place blank visible rfl
    obtain ⟨rest, trimmed⟩ := exists_trim_append "at ".toList blank
      (fun c first => by cases first; rfl) visible
    rw [trimmed, ofText_place] at nothing
    cases nothing

end Reading

section Running

variable {texts lines : List (List Char)} (root : Path)

/-- A function is shown with a place exactly if the place belongs to the program and it does not record traces. -/
theorem isShown_iff {name place : List Char} :
    isShown name place = true ↔ IsOwn place ∧ ¬"install_panic_hook".toList <:+: name := by
  -- The check lists what is foreign, part by part.
  simp only [isShown, isLocal, foreignParts, List.all_cons, List.all_nil, Bool.and_true,
    Bool.and_eq_true, Bool.not_eq_true', Option.isNone_iff_eq_none, IsOwn]
  rw [← Option.not_isSome_iff_eq_none, dropLeading?_isSome]
  simp only [← Bool.not_eq_true, occursIn_iff]
  rfl

/-- A line tells a function or a place. -/
def isTelling (line : Line) : Bool :=
  line ≠ .other

/-- Lines that tell nothing make no difference to the functions that are shown. -/
theorem frames_filter (waiting : Option (List Char)) (lines : List Line) :
    frames root waiting (lines.filter isTelling) = frames root waiting lines := by
  -- The cases are those of the lines, of which only the ones that tell something change what waits.
  fun_induction frames root waiting lines with
  | case1 waiting => rfl
  | case2 waiting name lines ih => exact ih
  | case3 waiting lines ih => exact ih
  | case4 place lines ih => exact ih
  | case5 name place lines shown ih =>
    rw [List.filter_cons_of_pos rfl, frames, if_pos shown, ih]
  | case6 name place lines hidden ih =>
    rw [List.filter_cons_of_pos rfl, frames, if_neg hidden, ih]

/-- The lines between line feeds tell what the lines of a text tell. -/
theorem filter_linesOf (single : ∀ line ∈ lines, '\n' ∉ line) :
    (linesOf (String.ofList (['\n'].intercalate lines))).filter isTelling =
      (lines.map fun line => Line.ofText (trim line)).filter isTelling := by
  rw [linesOf, String.toList_ofList]
  -- The induction follows the lines, of which an empty last one is none of the text.
  induction lines with
  | nil => rfl
  | cons line rest ih =>
    obtain ⟨first, others⟩ := List.forall_mem_cons.mp single
    cases rest with
    | nil =>
      rw [List.intercalate_singleton]
      by_cases empty : line = []
      · subst empty
        rfl
      · rw [lines_single first empty]
    | cons next rest =>
      obtain ⟨front, split, ends⟩ := exists_lines_append first (['\n'].intercalate (next :: rest))
      have same : trim line = trim front := by
        rcases ends with rfl | rfl
        · rfl
        · exact trim_append (List.forall_mem_nil _) front (List.forall_mem_singleton.mpr rfl)
      rw [List.intercalate_cons_cons, List.append_assoc, List.singleton_append, split, List.map_cons,
        List.map_cons, List.filter_cons, List.filter_cons, ih others, same]

/-- No line goes across a line feed. -/
theorem Printed.single (printed : Printed texts lines) : ∀ line ∈ lines, '\n' ∉ line := by
  -- The induction follows the lines, each of which was printed as a single one.
  induction printed with
  | nil => simp
  | tells tells _ ih => exact List.forall_mem_cons.mpr ⟨tells.1, ih⟩
  | noise noise _ ih => exact List.forall_mem_cons.mpr ⟨noise.single, ih⟩

/-- Lines that texts were printed on are read as these texts, apart from the noise. -/
theorem Printed.filter_ofText (printed : Printed texts lines)
    (readable : ∀ text ∈ texts, trim text = text ∧ isTelling (Line.ofText text) = true) :
    (lines.map fun line => Line.ofText (trim line)).filter isTelling = texts.map Line.ofText := by
  -- The cases are those of the lines: each tells the next text or nothing.
  induction printed with
  | nil => rfl
  | tells tells _ ih =>
    obtain ⟨⟨trimmed, telling⟩, others⟩ := List.forall_mem_cons.mp readable
    rw [List.map_cons, ofText_trim_of_tells tells trimmed, List.filter_cons_of_pos telling, ih others,
      List.map_cons]
  | noise noise _ ih =>
    rw [List.map_cons, noise.ofText_trim]
    exact ih readable

/-- The phrase of a place or of a name has no blank at its end. -/
theorem Phrase.isBlank_of_getLast? (phrase : Phrase) {c : Char} {front : List Char}
    (last : (front ++ phrase.text).getLast? = some c) : isBlank c = false := by
  rw [List.getLast?_append, List.getLast?_eq_some_getLast phrase.filled, Option.some_or] at last
  -- A phrase is trimmed, so it does not end with a blank.
  have ends : (trim phrase.text).getLast? = some c := by
    rw [phrase.trimmed, List.getLast?_eq_some_getLast phrase.filled]
    exact last
  exact isBlank_of_getLast?_trim ends

/-- What the lines for a function tell is read back from them. -/
theorem Frame.readable (frame : Frame) :
    ∀ text ∈ frame.texts, trim text = text ∧ isTelling (Line.ofText text) = true := by
  intro text member
  -- A frame has a line with its number and name and perhaps one with its place.
  rcases List.mem_cons.mp member with rfl | told
  · refine ⟨trim_eq_self (fun c first => ?_) fun c => frame.name.isBlank_of_getLast?, ?_⟩
    · rw [List.append_assoc] at first
      exact isBlank_of_head? frame.numbered first
    · rw [ofText_function frame.numbered]
      rfl
  · obtain ⟨place, _, rfl⟩ := Option.map_eq_some_iff.mp (Option.mem_toList.mp told)
    refine ⟨trim_eq_self (fun c first => ?_) fun c => place.isBlank_of_getLast?, ?_⟩
    · cases first
      rfl
    · rw [ofText_place]
      rfl

/-- Functions are shown with their own places, whichever function waited for a place before. -/
theorem frames_texts (waiting : Option (List Char)) (stack : List Frame) :
    frames root waiting ((stack.flatMap Frame.texts).map Line.ofText) =
      stack.filterMap (Frame.shown? root) := by
  -- The induction follows the functions, each of which replaces the one that waited.
  induction stack generalizing waiting with
  | nil => rfl
  | cons frame rest ih =>
    rw [List.flatMap_cons, Frame.texts, List.cons_append, List.map_cons, List.map_append,
      ofText_function frame.numbered, frames, List.filterMap_cons, Frame.shown?]
    cases frame.place with
    | none => exact ih (some frame.name.text)
    | some place =>
      simp only [Option.map_some, Option.toList_some, List.map_cons, List.map_nil, ofText_place,
        List.singleton_append, frames, ih, isShown_iff, Option.bind_some]
      split <;> rfl

end Running

/-- A text that stands for a phrase. -/
def Phrase.ofString (text : String)
    (formed : text.toList ≠ [] ∧ '\n' ∉ text.toList ∧ trim text.toList = text.toList) : Phrase :=
  ⟨text.toList, formed.1, formed.2.1, formed.2.2⟩

/-- Three functions, of which the first has no place and the last one is of the library. -/
def threeFrames : List Frame :=
  [⟨['0'], rfl, .ofString "f: at g" (by decide), none⟩,
    ⟨['1'], rfl, .ofString "h" (by decide), some (.ofString "/w/src/a.rs:1:2" (by decide))⟩,
    ⟨['2'], rfl, .ofString "i" (by decide), some (.ofString "/rustc/lib.rs:3" (by decide))⟩]

/-- The lines for three functions with noise in front, between and behind. -/
def threeFramesLines : List String :=
  ["stack backtrace:", "  0: f: at g", "  at", "  1: h", " note: run", "    at /w/src/a.rs:1:2", "2: i",
    " at /rustc/lib.rs:3", ""]

end SolverHub.Trace
