import Mathlib.Data.List.Infix
import SolverHub.Text.Lines

/-! Parts of a text: what it starts with, ends with and contains, and what stands between separators. -/

namespace SolverHub.Text

variable {part text front back : List Char}

/-- A leading part can be dropped exactly from a text that starts with it. -/
theorem dropLeading?_isSome : (dropLeading? part text).isSome = true ↔ part <+: text := by
  -- There is a rest exactly behind a common start.
  rw [Option.isSome_iff_exists]
  simp only [dropLeading?_eq_some]
  exact exists_congr fun rest => eq_comm

/-- A trailing part can be dropped exactly from a text that ends with it. -/
theorem dropTrailing?_isSome : (dropTrailing? part text).isSome = true ↔ part <:+ text := by
  -- Both texts are compared from behind, where the part leads.
  rw [dropTrailing?, Option.isSome_map, dropLeading?_isSome, List.reverse_prefix]

/-- A text occurs in another one exactly if it stands somewhere inside. -/
theorem occursIn_iff : occursIn part text = true ↔ part <:+: text := by
  -- The induction follows the text, at each of whose characters the part may start.
  induction text with
  | nil => rw [occursIn, List.isEmpty_iff, List.infix_nil]
  | cons c text ih =>
    rw [occursIn, Bool.or_eq_true, dropLeading?_isSome, ih, List.infix_cons_iff]

/-- The texts before and after a separator are the whole text with it between them. -/
theorem eq_append_of_splitOnce? {separator : List Char}
    (split : splitOnce? separator text = some (front, back)) : text = front ++ separator ++ back := by
  -- The induction follows the text up to the separator.
  induction text generalizing front with
  | nil =>
    rw [splitOnce?] at split
    split at split
    · rename_i empty
      cases split
      simpa using empty
    · cases split
  | cons c text ih =>
    rw [splitOnce?] at split
    split at split
    · rename_i after found
      cases split
      exact dropLeading?_eq_some.mp found
    · obtain ⟨⟨before, after⟩, later, same⟩ := Option.map_eq_some_iff.mp split
      cases same
      rw [ih later]
      rfl

/-- A text splits at a separator whose first character does not occur before. -/
theorem splitOnce?_append {c : Char} (separator back : List Char) (plain : c ∉ front) :
    splitOnce? (c :: separator) (front ++ (c :: separator) ++ back) = some (front, back) := by
  -- The induction follows the text before the separator, which starts nowhere in it.
  induction front with
  | nil =>
    have here : dropLeading? (c :: separator) (c :: (separator ++ back)) = some back :=
      dropLeading?_append (c :: separator) back
    rw [List.nil_append, List.cons_append, splitOnce?, here]
  | cons d front ih =>
    obtain ⟨differs, plain⟩ := not_or.mp (mt List.mem_cons.mpr plain)
    have elsewhere : dropLeading? (c :: separator) (d :: (front ++ (c :: separator) ++ back)) = none := by
      rw [dropLeading?, if_neg differs]
    rw [List.cons_append, List.cons_append, splitOnce?, elsewhere]
    dsimp only
    rw [ih plain]
    rfl

section Segments

variable {c : Char} {rest : List Char} {parts : List (List Char)}

/-- A character joins the segment behind it, unless a double colon starts with it. -/
theorem segments_cons (plain : c = ':' → text.head? ≠ some ':') :
    segments (c :: text) = match segments text with
      | [] => [[c]]
      | segment :: others => (c :: segment) :: others := by
  -- The earlier cases are for two colons, which do not start here.
  refine segments.eq_3 c text ?_
  rintro after rfl rfl
  exact plain rfl rfl

/-- A text always has a first segment. -/
theorem segments_ne_nil (text : List Char) : segments text ≠ [] := by
  -- Each equation of the definition starts its answer with a segment.
  fun_induction segments text <;> simp

/-- A text without colons is a single segment. -/
theorem segments_eq_self (plain : ':' ∉ text) : segments text = [text] := by
  -- The induction follows the text, each of whose characters joins the only segment.
  induction text with
  | nil => rfl
  | cons c text ih =>
    obtain ⟨differs, plain⟩ := not_or.mp (mt List.mem_cons.mpr plain)
    rw [segments_cons fun same => absurd same.symm differs, ih plain]

/-- A text without colons in front of a double colon is the first segment. -/
theorem segments_append (plain : ':' ∉ front) (rest : List Char) :
    segments (front ++ ':' :: ':' :: rest) = front :: segments rest := by
  -- The induction follows the front, no character of which is a colon.
  induction front with
  | nil => rfl
  | cons c front ih =>
    obtain ⟨differs, plain⟩ := not_or.mp (mt List.mem_cons.mpr plain)
    rw [List.cons_append, segments_cons fun same => absurd same.symm differs, ih plain]

/-- Segments without colons come first in a text that goes on behind them. -/
theorem segments_intercalate_concat (plain : ∀ part ∈ parts, ':' ∉ part) (rest : List Char) :
    segments ([':', ':'].intercalate (parts ++ [rest])) = parts ++ segments rest := by
  -- The induction follows the segments, each of which ends at the double colon behind it.
  induction parts with
  | nil => rw [List.nil_append, List.intercalate_singleton, List.nil_append]
  | cons part parts ih =>
    obtain ⟨first, others⟩ := List.forall_mem_cons.mp plain
    rw [List.cons_append, List.intercalate_cons_of_ne_nil (by simp), List.append_assoc]
    exact (segments_append first _).trans (congrArg (part :: ·) (ih others))

/-- Segments without colons are found again between double colons. -/
theorem segments_intercalate (filled : parts ≠ []) (plain : ∀ part ∈ parts, ':' ∉ part) :
    segments ([':', ':'].intercalate parts) = parts := by
  -- All parts but the last one are cut off at the separators behind them.
  obtain ⟨front, last, rfl⟩ := (List.eq_nil_or_concat parts).resolve_left filled
  rw [List.concat_eq_append] at plain ⊢
  obtain ⟨others, single⟩ := List.forall_mem_append.mp plain
  rw [segments_intercalate_concat others, segments_eq_self (single last List.mem_cons_self)]

/-- The segments of a text between double colons are the text. -/
theorem intercalate_segments (text : List Char) : [':', ':'].intercalate (segments text) = text := by
  -- The cases are those of the text: a double colon, or a character that joins the first segment.
  fun_induction segments text with
  | case1 => rfl
  | case2 text ih =>
    rw [List.intercalate_cons_of_ne_nil (segments_ne_nil text), ih]
    rfl
  | case3 c text _ none ih => exact absurd none (segments_ne_nil text)
  | case4 c text _ segment others found ih =>
    rw [found] at ih
    cases others with
    | nil => simpa using ih
    | cons next others =>
      rw [List.intercalate_cons_cons] at ih ⊢
      exact congrArg (c :: ·) ih

/-- Parts that are joined in two runs have a separator between the runs. -/
theorem intercalate_append {separator : List Char} {others : List (List Char)} (filled : parts ≠ [])
    (also : others ≠ []) : separator.intercalate (parts ++ others) =
      separator.intercalate parts ++ separator ++ separator.intercalate others := by
  -- The induction follows the first parts, whose last one is followed by a separator.
  induction parts with
  | nil => exact absurd rfl filled
  | cons part parts ih =>
    cases parts with
    | nil =>
      rw [List.singleton_append, List.intercalate_cons_of_ne_nil also, List.intercalate_singleton]
    | cons next parts =>
      rw [List.cons_append, List.intercalate_cons_of_ne_nil (by simp), ih (List.cons_ne_nil _ _),
        List.intercalate_cons_cons]
      simp only [List.append_assoc]

/-- A text goes on behind another one and a double colon exactly if its segments go on behind the other's. -/
theorem exists_append_iff (plain : ∀ segment ∈ segments front, ':' ∉ segment) :
    (∃ rest, text = front ++ ':' :: ':' :: rest ∧ segments rest = parts) ↔
      parts ≠ [] ∧ segments text = segments front ++ parts := by
  -- Segments are joined and split again, which lose nothing where no colon is inside one.
  have joined {others : List (List Char)} (filled : others ≠ []) :
      [':', ':'].intercalate (segments front ++ others) =
        front ++ ':' :: ':' :: [':', ':'].intercalate others := by
    rw [intercalate_append (segments_ne_nil front) filled, intercalate_segments, List.append_assoc]
    rfl
  have split (rest : List Char) :
      segments (front ++ ':' :: ':' :: rest) = segments front ++ segments rest := by
    rw [← segments_intercalate_concat plain, joined (List.cons_ne_nil rest []),
      List.intercalate_singleton]
  -- A text goes on behind the front exactly if its segments do.
  constructor
  · rintro ⟨rest, rfl, rfl⟩
    exact ⟨segments_ne_nil rest, split rest⟩
  · rintro ⟨filled, found⟩
    have written : text = front ++ ':' :: ':' :: [':', ':'].intercalate parts := by
      rw [← joined filled, ← found, intercalate_segments]
    refine ⟨_, written, ?_⟩
    rw [written, split] at found
    exact List.append_cancel_left found

end Segments

end SolverHub.Text
