import SolverHub.Problem.Error
import SolverHub.Proofs.Text.Parts

/-! On one line an error tells the texts of all its causes, each at its own place or at the end of an earlier one. -/

namespace SolverHub

namespace Text

variable {part whole front back : List Char} {stop : Nat}

/-- A text occurs in another one, and ends there after some number of characters. -/
def EndsAfter (part whole : List Char) (stop : Nat) : Prop :=
  ∃ front back, whole = front ++ part ++ back ∧ stop = (front ++ part).length

/-- A text between two others ends where it stands. -/
theorem endsAfter_append (front part back : List Char) :
    EndsAfter part (front ++ part ++ back) (front ++ part).length :=
  -- The first text in front is as long as the place where it ends asks for.
  ⟨front, back, rfl, rfl⟩

/-- What a text ends with ends in the same place. -/
theorem EndsAfter.of_isSuffix {ending : List Char} (found : EndsAfter part whole stop)
    (ends : ending <:+ part) : EndsAfter ending whole stop := by
  -- What stands in front of the ending goes to the front.
  obtain ⟨front, back, rfl, rfl⟩ := found
  obtain ⟨start, rfl⟩ := ends
  exact ⟨front ++ start, back, by simp, by simp⟩

end Text

namespace ProblemError

/-- The texts of an error and of the errors below it, the nearest first. -/
def texts (error : ProblemError) : List String :=
  error.message :: error.sources

/-- The texts along the source chain of each kind of error.

What an error from elsewhere brings goes on unchanged, also where the own text repeats it. -/
inductive Tells : ProblemError → List String → Prop
  | invalidFormat (message : String) :
      Tells (.parse (.invalidFormat message)) ["Invalid format: " ++ message]
  | missingData (message : String) :
      Tells (.parse (.missingData message)) ["Missing data: " ++ message]
  | unparsed (message : String) : Tells (.parse (.other message)) ["Parse error: " ++ message]
  | noSolution (message : String) :
      Tells (.solve (.noSolution message)) ["No solution: " ++ message]
  | solveFailed (cause : Cause) :
      Tells (.solve (.solveFailed cause))
        (("Solve failed: " ++ cause.text) :: cause.text :: cause.sources)
  | other (cause : Cause) : Tells (.other cause) (cause.text :: cause.sources)

/-- The texts of an error are those along its source chain. -/
theorem tells_texts (error : ProblemError) : Tells error error.texts := by
  -- Each wrapper hands its error on, so that the cases are those of the innermost variants.
  cases error with
  | parse error =>
    cases error with
    | invalidFormat message => exact .invalidFormat message
    | missingData message => exact .missingData message
    | other message => exact .unparsed message
  | solve error =>
    cases error with
    | noSolution message => exact .noSolution message
    | solveFailed cause => exact .solveFailed cause
  | other cause => exact .other cause

/-- A text that is kept, with the texts behind it that are left out because it ends with them. -/
structure Kept where
  /-- The text that is kept. -/
  text : String
  /-- The texts that are left out. -/
  leftOut : List String
  /-- Nothing is left out but what the text ends with. -/
  ends : ∀ other ∈ leftOut, other.toList <:+ text.toList

/-- The text that is kept and those that are left out behind it. -/
def Kept.all (kept : Kept) : List String :=
  kept.text :: kept.leftOut

/-- A text ends with another one as a list of characters does. -/
theorem endsWith_iff {text ending : String} :
    endsWith text ending = true ↔ ending.toList <:+ text.toList :=
  -- What is left after an ending is dropped is what stood in front of it.
  Text.dropTrailing?_isSome

/-- A text that is kept does not end with the one that is kept next. -/
def News (texts : List String) : Prop :=
  texts.IsChain fun first second => ¬second.toList <:+ first.toList

/-- Texts part into those that are kept, each with what is left out behind it. -/
theorem exists_kept (last : String) (texts : List String) :
    ∃ (first : Kept) (others : List Kept), first.text = last ∧
      others.map Kept.text = keepNews last texts ∧
      (first :: others).flatMap Kept.all = last :: texts ∧
      News (last :: keepNews last texts) := by
  -- The induction follows the texts, each of which is left out behind the last one or kept after it.
  fun_induction keepNews last texts with
  | case1 last => exact ⟨⟨last, [], by simp⟩, [], rfl, rfl, rfl, .singleton last⟩
  | case2 last text rest ends ih =>
    obtain ⟨first, others, same, named, parted, news⟩ := ih
    have covered : ∀ other ∈ text :: first.leftOut, other.toList <:+ last.toList :=
      List.forall_mem_cons.mpr ⟨endsWith_iff.mp ends, same ▸ first.ends⟩
    refine ⟨⟨last, text :: first.leftOut, covered⟩, others, rfl, named, ?_, news⟩
    rw [List.flatMap_cons, Kept.all, same, List.cons_append] at parted
    rw [List.flatMap_cons, Kept.all, List.cons_append, List.cons_append, (List.cons.inj parted).2]
  | case3 last text rest differs ih =>
    obtain ⟨first, others, same, named, parted, news⟩ := ih
    refine ⟨⟨last, [], by simp⟩, first :: others, rfl, ?_, ?_, ?_⟩
    · rw [List.map_cons, same, named]
    · rw [List.flatMap_cons, parted]
      rfl
    · exact List.isChain_cons_cons.mpr ⟨fun ends => differs (endsWith_iff.mpr ends), news⟩

/-- Texts occur in a line from some place on, where none ends in front of one before it. -/
def Occur (texts : List String) (line : List Char) (start : Nat) : Prop :=
  ∃ placed : List (String × Nat), placed.map Prod.fst = texts ∧
    placed.Pairwise (fun first second => first.2 ≤ second.2) ∧
    ∀ entry ∈ placed, start ≤ entry.2 ∧ Text.EndsAfter entry.1.toList line entry.2

/-- A text that is kept occurs with all that is left out behind it, and others occur later. -/
theorem Kept.occur {kept : Kept} {others : List String} {line : List Char} {start stop next : Nat}
    (found : Text.EndsAfter kept.text.toList line stop) (begins : start ≤ stop) (ends : stop ≤ next)
    (later : Occur others line next) : Occur (kept.all ++ others) line start := by
  obtain ⟨placed, rfl, ordered, occur⟩ := later
  refine ⟨kept.all.map (·, stop) ++ placed, ?_, ?_, ?_⟩
  · rw [List.map_append, List.map_map]
    exact congrArg (· ++ placed.map Prod.fst) (List.map_id _)
  · -- All that is left out ends with the text that is kept, and the others end behind.
    refine List.pairwise_append.mpr ⟨?_, ordered, ?_⟩
    · exact List.pairwise_map.mpr (List.pairwise_of_forall fun _ _ => Nat.le_refl stop)
    · intro first here second there
      obtain ⟨_, _, rfl⟩ := List.mem_map.mp here
      exact Nat.le_trans ends (occur second there).1
  · intro entry member
    rcases List.mem_append.mp member with here | there
    · obtain ⟨text, among, rfl⟩ := List.mem_map.mp here
      refine ⟨begins, ?_⟩
      rcases List.mem_cons.mp among with rfl | left
      · exact found
      · exact found.of_isSuffix (kept.ends text left)
    · obtain ⟨behind, occurs⟩ := occur entry there
      exact ⟨Nat.le_trans begins (Nat.le_trans ends behind), occurs⟩

/-- Texts that are kept occur between separators, with those that are left out behind them. -/
theorem occur_intercalate (separator front : List Char) (kept : List Kept) :
    Occur (kept.flatMap Kept.all)
      (front ++ separator.intercalate (kept.map fun group => group.text.toList)) front.length := by
  -- The induction follows the texts that are kept, in front of which more and more is written.
  induction kept generalizing front with
  | nil => exact ⟨[], rfl, .nil, by simp⟩
  | cons group rest ih =>
    rw [List.flatMap_cons]
    cases rest with
    | nil =>
      have written : front ++ separator.intercalate ([group].map fun group => group.text.toList) =
          front ++ group.text.toList ++ [] := by simp
      rw [written]
      exact Kept.occur (Text.endsAfter_append _ _ _) (by simp) (Nat.le_refl _)
        ⟨[], rfl, .nil, by simp⟩
    | cons next rest =>
      have written : front ++
          separator.intercalate ((group :: next :: rest).map fun group => group.text.toList) =
            front ++ group.text.toList ++ (separator ++
              separator.intercalate ((next :: rest).map fun group => group.text.toList)) := by
        simp [List.intercalate_cons_cons]
      have later := ih (front ++ group.text.toList ++ separator)
      rw [List.append_assoc _ separator] at later
      rw [written]
      exact Kept.occur (Text.endsAfter_append _ _ _) (by simp) (by simp) later

/-- The texts that are kept are some of all, in order. -/
theorem sublist_kept (kept : List Kept) : (kept.map Kept.text).Sublist (kept.flatMap Kept.all) := by
  induction kept with
  | nil => exact .slnil
  | cons group rest ih =>
    -- What is left out behind a text that is kept is passed over.
    exact (List.sublist_append_of_sublist_right ih).cons_cons group.text

/-- The line for an error tells some of the texts of the error and its sources, from its own on, and loses none.

A text is left out exactly where the last one that is kept before it ends with it. -/
theorem chain_keeps_causes (error : ProblemError) :
    Tells error error.texts ∧
    ∃ kept : List Kept,
      -- The texts that are kept, each with those left out behind it, are all texts in order.
      kept.flatMap Kept.all = error.texts ∧
      error.chain = ": ".intercalate (kept.map Kept.text) ∧
      (kept.map Kept.text).Sublist error.texts ∧
      (kept.map Kept.text).head? = some error.message ∧
      News (kept.map Kept.text) ∧
      Occur error.texts error.chain.toList 0 := by
  obtain ⟨first, others, same, named, parted, news⟩ := exists_kept error.message error.sources
  have joined : error.chain = ": ".intercalate ((first :: others).map Kept.text) := by
    rw [List.map_cons, same, named]
    rfl
  refine ⟨tells_texts error, first :: others, parted, joined, ?_,
    by rw [List.map_cons, same]; rfl, ?_, ?_⟩
  · rw [texts, ← parted]
    exact sublist_kept (first :: others)
  · rw [List.map_cons, same, named]
    exact news
  · have occur := occur_intercalate ": ".toList [] (first :: others)
    rw [parted, List.nil_append] at occur
    rw [joined, String.toList_intercalate, List.map_map]
    exact occur

end ProblemError

end SolverHub
