import Mathlib.Data.List.DropRight
import SolverHub.Loader.Scope
import SolverHub.Proofs.Files.Names
import SolverHub.Proofs.Path

/-! The paths above a path are those with which its steps start, the nearest first. -/

namespace SolverHub

namespace Text

variable {separator : Char} {parts : List (List Char)}

/-- Fields without the separator are found again between separators. -/
theorem fields_intercalate (filled : parts ≠ []) (plain : ∀ part ∈ parts, separator ∉ part) :
    fields separator ([separator].intercalate parts) = parts := by
  -- The induction follows the fields, the last of which has no separator behind it.
  induction parts with
  | nil => exact absurd rfl filled
  | cons part rest ih =>
    obtain ⟨single, others⟩ := List.forall_mem_cons.mp plain
    cases rest with
    | nil => rw [List.intercalate_singleton, fields_eq_self single]
    | cons next rest =>
      rw [List.intercalate_cons_cons, List.append_assoc, List.singleton_append, fields_append,
        fields_eq_self single, ih (List.cons_ne_nil _ _) others, List.singleton_append]

end Text

namespace Path

section Steps

/-- The steps in some fields. -/
abbrev stepsIn (fields : List (List Char)) : List Component :=
  fields.filterMap Component.ofField?

/-- The fields behind the one that the first step is told by, if it is told by one. -/
def body (path : Path) : List (List Char) :=
  if path.lead?.isSome then path.fields.tail else path.fields

/-- A path starts at the root, where it is, or with a step in its first field, unless it is empty. -/
theorem lead_cases (path : Path) :
    (path.lead? = some .root ∧ path.fields = [] :: path.body) ∨
    (path.lead? = some .here ∧ path.fields = ['.'] :: path.body) ∨
    (path.lead? = none ∧ path.body = path.fields ∧ path.fields.head? ≠ some ['.'] ∧
      (path.fields.head? = some [] → path.fields = [[]])) := by
  unfold body lead? fields
  cases path.text.toList with
  | nil => exact .inr (.inr ⟨rfl, rfl, by decide, fun _ => rfl⟩)
  | cons c rest =>
    by_cases slash : c = '/'
    · subst slash
      exact .inl ⟨rfl, by simp [Text.fields]⟩
    · -- The first character joins the first field.
      obtain ⟨field, others, found⟩ := List.exists_cons_of_ne_nil (Text.fields_ne_nil '/' rest)
      have split : Text.fields '/' (c :: rest) = (c :: field) :: others := by
        rw [Text.fields, if_neg slash, found]
      rw [split]
      by_cases dot : c :: field = ['.']
      · rw [dot]
        refine .inr (.inl ?_)
        split <;> simp_all
      · refine .inr (.inr ?_)
        split <;> simp_all

/-- The steps of a path are its first step and those in the fields behind. -/
theorem components_eq (path : Path) :
    path.components = path.lead?.toList ++ stepsIn path.body := by
  -- The field of the first step has no other step in it.
  rcases lead_cases path with ⟨_, split⟩ | ⟨_, split⟩ | ⟨_, same, _⟩
  · rw [components, split]
    rfl
  · rw [components, split]
    rfl
  · rw [components, same]

/-- The fields that are left without those at the end come first. -/
theorem isPrefix_trimFields (fields : List (List Char)) : trimFields fields <+: fields :=
  List.rdropWhile_prefix _ _

/-- Fields that are no steps can be left out at the end. -/
theorem stepsIn_trimFields (fields : List (List Char)) : stepsIn (trimFields fields) = stepsIn fields := by
  have parted : trimFields fields ++ fields.rtakeWhile (fun field => (Component.ofField? field).isNone) =
      fields := List.rdropWhile_append_rtakeWhile
  -- What is left out holds no step.
  have left : stepsIn (fields.rtakeWhile fun field => (Component.ofField? field).isNone) = [] := by
    refine List.filterMap_eq_nil_iff.mpr fun field member => ?_
    simpa using List.mem_rtakeWhile_imp member
  conv_rhs => rw [← parted, stepsIn, List.filterMap_append]
  rw [show List.filterMap Component.ofField? _ = [] from left, List.append_nil]

/-- The last field that is left without those at the end is a step. -/
theorem exists_step_of_trimFields {fields front : List (List Char)} {field : List Char}
    (trimmed : trimFields fields = front ++ [field]) : ∃ step, Component.ofField? field = some step := by
  -- From the end the field is the first one at which the trimming stops.
  have kept : (fields.reverse.dropWhile fun field => (Component.ofField? field).isNone) =
      field :: front.reverse := by
    rw [← List.reverse_reverse (List.dropWhile _ _), ← List.reverse_concat, ← trimmed, trimFields]
  have first := List.head_dropWhile_not (fun field => (Component.ofField? field).isNone)
    (kept ▸ List.cons_ne_nil field front.reverse)
  simp only [kept, List.head_cons, Option.isNone_eq_false_iff] at first
  exact Option.isSome_iff_exists.mp first

/-- No field behind the first step goes across a slash. -/
theorem slash_not_mem_body {path : Path} {field : List Char} (member : field ∈ path.body) :
    '/' ∉ field := by
  unfold body at member
  -- The fields come from splitting at slashes, whether the first one is left out or not.
  split at member
  · exact Text.separator_not_mem (List.mem_of_mem_tail member)
  · exact Text.separator_not_mem member

/-- Fields between slashes have the steps that they have on their own. -/
theorem stepsIn_intercalate {front : List (List Char)} (plain : ∀ field ∈ front, '/' ∉ field) :
    stepsIn (Text.fields '/' (['/'].intercalate front)) = stepsIn front := by
  -- Without any field the text between slashes is empty, which is no step.
  by_cases empty : front = []
  · subst empty
    rfl
  · rw [Text.fields_intercalate empty plain]

/-- A path put together from the root and a text has the steps between the slashes of the text. -/
theorem components_root (rest : List Char) :
    (⟨"/" ++ String.ofList rest⟩ : Path).components = .root :: stepsIn (Text.fields '/' rest) := by
  -- The slash in front leaves an empty first field, which is no step.
  have text : ("/" ++ String.ofList rest).toList = '/' :: rest := by
    simp
  simp only [components, lead?, fields, text]
  rw [Text.fields, if_pos rfl]
  rfl

/-- A path put together from where it is and a text has the steps between the slashes of the text. -/
theorem components_here (rest : List Char) :
    (⟨"./" ++ String.ofList rest⟩ : Path).components = .here :: stepsIn (Text.fields '/' rest) := by
  have text : ("./" ++ String.ofList rest).toList = ['.'] ++ '/' :: rest := by
    simp
  -- The dot in front is a field of its own, which counts only as the first one.
  have split : Text.fields '/' (['.'] ++ '/' :: rest) = ['.'] :: Text.fields '/' rest := by
    rw [Text.fields_append]
    rfl
  simp only [components, lead?, fields, text, split]
  rfl

/-- A path put together from fields, of which the first one is neither empty nor a dot, has their steps. -/
theorem components_fields {field : List Char} {rest : List (List Char)}
    (plain : ∀ part ∈ field :: rest, '/' ∉ part) (filled : field ≠ []) (visible : field ≠ ['.']) :
    (⟨String.ofList (['/'].intercalate (field :: rest))⟩ : Path).components =
      stepsIn (field :: rest) := by
  have built : (⟨String.ofList (['/'].intercalate (field :: rest))⟩ : Path).fields = field :: rest := by
    rw [fields, String.toList_ofList, Text.fields_intercalate (List.cons_ne_nil _ _) plain]
  -- A first step of its own would be told by the first field.
  rw [components_eq]
  rcases lead_cases ⟨String.ofList (['/'].intercalate (field :: rest))⟩ with
    ⟨_, split⟩ | ⟨_, split⟩ | ⟨lead, same, _⟩
  · exact absurd (List.cons.inj (built.symm.trans split)).1 filled
  · exact absurd (List.cons.inj (built.symm.trans split)).1 visible
  · rw [lead, same, built]
    rfl

/-- A path that is cut off has its first step and those in the fields that are left. -/
theorem components_ofFields {path : Path} {front : List (List Char)} (cut : front <+: path.body) :
    (ofFields path.lead? front).components = path.lead?.toList ++ stepsIn front := by
  have slash : "/".toList = ['/'] := rfl
  have plain : ∀ field ∈ front, '/' ∉ field := fun field member =>
    slash_not_mem_body (cut.subset member)
  rcases lead_cases path with ⟨lead, _⟩ | ⟨lead, _⟩ | ⟨lead, same, visible, single⟩
  · rw [lead, ofFields, slash, components_root, stepsIn_intercalate plain]
    rfl
  · rw [lead, ofFields, slash]
    cases front with
    | nil => rfl
    | cons field rest =>
      simp only [List.isEmpty_cons, Bool.false_eq_true, if_false]
      rw [components_here, stepsIn_intercalate plain]
      rfl
  · rw [lead]
    cases front with
    | nil => rfl
    | cons field rest =>
      have starts : path.fields.head? = some field := by
        obtain ⟨others, split⟩ := same ▸ cut
        rw [← split]
        rfl
      by_cases empty : field = []
      · -- Only the empty path starts with an empty field, which is its only one.
        subst empty
        rw [same, single starts, List.prefix_cons_inj, List.prefix_nil] at cut
        rw [cut]
        rfl
      · exact components_fields plain empty fun dot => visible (dot ▸ starts)

/-- A path with a step other than the root has a parent, which has its steps without the last one. -/
theorem parent?_cases (path : Path) :
    (path.parent? = none ∧ (path.components = [] ∨ path.components = [.root])) ∨
    ∃ parent, path.parent? = some parent ∧ parent.components = path.components.dropLast ∧
      path.components ≠ [] ∧ path.components ≠ [.root] := by
  have steps : path.components = path.lead?.toList ++ stepsIn (trimFields path.body) := by
    rw [stepsIn_trimFields, components_eq]
  cases trimmed : (trimFields path.body).reverse with
  | nil =>
    rw [List.reverse_eq_nil_iff.mp trimmed] at steps
    -- Without a step in its fields a path has its first step at most.
    have unfolded : path.parent? = if path.lead? = some .here then some ⟨""⟩ else none := by
      unfold body at trimmed
      simp only [parent?, trimmed]
    rw [unfolded]
    rcases lead_cases path with ⟨lead, _⟩ | ⟨lead, _⟩ | ⟨lead, _⟩
    · exact .inl ⟨by simp [lead], .inr (by rw [steps, lead]; rfl)⟩
    · refine .inr ⟨⟨""⟩, by simp [lead], ?_, ?_, ?_⟩ <;> rw [steps, lead] <;> decide
    · exact .inl ⟨by simp [lead], .inl (by rw [steps, lead]; rfl)⟩
  | cons field before =>
    have unfolded : path.parent? = some (ofFields path.lead? (trimFields before.reverse)) := by
      unfold body at trimmed
      simp only [parent?, trimmed]
    have split : trimFields path.body = before.reverse ++ [field] := by
      rw [← List.reverse_reverse (trimFields path.body), trimmed, List.reverse_cons]
    -- The last field that is left is a step, which is not the root.
    obtain ⟨step, last⟩ := exists_step_of_trimFields split
    have joined : path.components = path.lead?.toList ++ stepsIn before.reverse ++ [step] := by
      rw [steps, split, stepsIn, List.filterMap_append, List.append_assoc]
      simp [last]
    have above : before.reverse <+: path.body :=
      (split ▸ List.prefix_append _ _ : before.reverse <+: trimFields path.body).trans
        (isPrefix_trimFields _)
    refine .inr ⟨_, unfolded, ?_, by simp [joined], fun only => ?_⟩
    · rw [joined, List.dropLast_concat, components_ofFields ((isPrefix_trimFields _).trans above),
        stepsIn_trimFields]
    · have root := congrArg List.getLast? (joined ▸ only)
      rw [List.getLast?_concat] at root
      exact Component.ofField?_ne_root field (last.trans root)

end Steps

section Ancestors

variable {path above other : Path}

/-- A path is at or above another one that starts with it, if both start at the root or neither. -/
def IsAbove (above path : Path) : Prop :=
  path.startsWith above = true ∧ above.isAbsolute = path.isAbsolute

/-- A path is at itself. -/
theorem IsAbove.refl (path : Path) : path.IsAbove path :=
  ⟨startsWith_iff.mpr (List.prefix_refl _), rfl⟩

/-- What is above a path above another one is above this one. -/
theorem IsAbove.trans (first : above.IsAbove path) (second : path.IsAbove other) :
    above.IsAbove other :=
  -- Being above means a common start and the same kind of path, both of which go on.
  ⟨startsWith_iff.mpr ((startsWith_iff.mp first.1).trans (startsWith_iff.mp second.1)),
    first.2.trans second.2⟩

/-- Paths with the same steps both start at the root or neither. -/
theorem isAbsolute_congr (same : path.components = other.components) :
    path.isAbsolute = other.isAbsolute := by
  -- A path is absolute exactly if its steps start at the root.
  rw [Bool.eq_iff_iff, isAbsolute_iff, isAbsolute_iff, same]

/-- A path is at or above another one if its steps come first there, and are some if the root does. -/
theorem isAbove_iff : above.IsAbove path ↔
    above.components <+: path.components ∧ (above.components = [] → path.isAbsolute = false) := by
  rw [IsAbove, startsWith_iff, Bool.eq_iff_iff, isAbsolute_iff, isAbsolute_iff, ← Bool.not_eq_true,
    isAbsolute_iff]
  refine and_congr_right fun starts => ?_
  -- Both paths have the same first step if the upper one has any.
  cases first : above.components with
  | nil => simp
  | cons step rest =>
    obtain ⟨others, split⟩ := first ▸ starts
    simp [← split]

/-- Whether a path is above another one depends on their steps only. -/
theorem isAbove_congr {above' path' : Path} (upper : above.components = above'.components)
    (lower : path.components = path'.components) : above.IsAbove path ↔ above'.IsAbove path' := by
  -- Being above is a matter of steps, not of spelling.
  rw [isAbove_iff, isAbove_iff, upper, lower, isAbsolute_congr lower]

/-- The parent of a path is above it, and everything else above the path is above the parent. -/
theorem isAbove_parent? {parent : Path} (found : path.parent? = some parent) :
    parent.IsAbove path ∧ ∀ above : Path, above.IsAbove path →
      above.components = path.components ∨ above.IsAbove parent := by
  rcases parent?_cases path with ⟨missing, _⟩ | ⟨_, same, steps, filled, apart⟩
  · cases missing.symm.trans found
  cases same.symm.trans found
  have split : parent.components ++ [path.components.getLast filled] = path.components := by
    rw [steps, List.dropLast_append_getLast]
  have upper : parent.IsAbove path := by
    refine isAbove_iff.mpr ⟨steps ▸ List.dropLast_prefix _, fun empty => ?_⟩
    -- The only step of the path is not the root.
    rw [← Bool.not_eq_true, isAbsolute_iff, ← split, empty]
    intro root
    exact apart (by rw [← split, empty]; simpa using root)
  refine ⟨upper, fun above isAbove => ?_⟩
  obtain ⟨starts, relative⟩ := isAbove_iff.mp isAbove
  rcases List.prefix_concat_iff.mp (split ▸ starts) with whole | higher
  · exact .inl (whole.trans split)
  · exact .inr (isAbove_iff.mpr ⟨higher, fun empty => upper.2.trans (relative empty)⟩)

/-- The paths listed for a path are at or above it. -/
theorem isAbove_of_mem_ancestorsWithin {steps : Nat} (member : above ∈ ancestorsWithin steps path) :
    above.IsAbove path := by
  -- The induction follows the steps upwards.
  induction steps generalizing path with
  | zero => exact List.mem_singleton.mp member ▸ .refl path
  | succ steps ih =>
    unfold ancestorsWithin at member
    split at member
    · rename_i parent found
      rcases List.mem_cons.mp member with rfl | higher
      · exact .refl above
      · exact (ih higher).trans (isAbove_parent? found).1
    · exact List.mem_singleton.mp member ▸ .refl path

/-- The paths listed for a path come from the nearest to the highest. -/
theorem pairwise_ancestorsWithin (steps : Nat) (path : Path) :
    (ancestorsWithin steps path).Pairwise fun first second => second.IsAbove first := by
  -- The induction follows the steps upwards, and all that is listed later is above the parent.
  induction steps generalizing path with
  | zero => exact List.pairwise_singleton _ _
  | succ steps ih =>
    unfold ancestorsWithin
    split
    · rename_i parent found
      exact List.pairwise_cons.mpr ⟨fun above member =>
        (isAbove_of_mem_ancestorsWithin member).trans (isAbove_parent? found).1, ih parent⟩
    · exact List.pairwise_singleton _ _

/-- Every path above is listed as far as there are steps upwards. -/
theorem exists_mem_ancestorsWithin {steps : Nat} (enough : path.components.length ≤ steps)
    (isAbove : above.IsAbove path) :
    ∃ ancestor ∈ ancestorsWithin steps path, ancestor.components = above.components := by
  -- The induction follows the steps upwards, until only the path itself is left above.
  induction steps generalizing path with
  | zero =>
    have starts := (isAbove_iff.mp isAbove).1
    rw [List.length_eq_zero_iff.mp (Nat.le_zero.mp enough), List.prefix_nil] at starts
    refine ⟨path, List.mem_singleton_self path, ?_⟩
    rw [starts, List.length_eq_zero_iff.mp (Nat.le_zero.mp enough)]
  | succ steps ih =>
    rcases parent?_cases path with ⟨missing, least⟩ | ⟨parent, found, fewer, filled, _⟩
    · rw [ancestorsWithin, missing]
      refine ⟨path, List.mem_singleton_self path, ?_⟩
      obtain ⟨starts, relative⟩ := isAbove_iff.mp isAbove
      rcases least with empty | root
      · rw [empty, List.prefix_nil] at starts
        rw [empty, starts]
      · have absolute : path.isAbsolute = true := by simp [isAbsolute_iff, root]
        rcases List.prefix_concat_iff.mp (show _ <+: [] ++ [Component.root] from root ▸ starts) with
          whole | none
        · rw [root, whole, List.nil_append]
        · simp [relative (List.prefix_nil.mp none)] at absolute
    · rw [ancestorsWithin, found]
      rcases (isAbove_parent? found).2 above isAbove with whole | higher
      · exact ⟨path, List.mem_cons_self, whole.symm⟩
      · have shorter : parent.components.length ≤ steps := by
          rw [fewer, List.length_dropLast]
          omega
        obtain ⟨ancestor, member, same⟩ := ih shorter higher
        exact ⟨ancestor, List.mem_cons_of_mem _ member, same⟩

end Ancestors

end Path

section Nearest

variable {isDirectory : Path → Bool} {path nearest above : Path}

/-- A directory at or above a path, below which there is no other one. -/
structure Nearest (isDirectory : Path → Bool) (path nearest : Path) : Prop where
  /-- The directory exists. -/
  directory : isDirectory nearest = true
  /-- The directory is at or above the path. -/
  above : nearest.IsAbove path
  /-- Every directory that exists at or above the path is at or above the nearest one. -/
  least : ∀ other : Path, isDirectory other = true → other.IsAbove path → other.IsAbove nearest

/-- Paths with the same steps are of directories together. -/
def Respects (isDirectory : Path → Bool) : Prop :=
  ∀ first second : Path, first.same second = true → isDirectory first = isDirectory second

/-- What is found upwards from a path is the nearest directory. -/
theorem nearest_of_nearest? (respects : Respects isDirectory)
    (found : Scope.nearest? isDirectory path = some nearest) : Nearest isDirectory path nearest := by
  obtain ⟨directory, before, after, split, none_before⟩ := List.find?_eq_some_iff_append.mp found
  have listed : nearest ∈ path.ancestors := split ▸ List.mem_append_right _ List.mem_cons_self
  refine ⟨directory, Path.isAbove_of_mem_ancestorsWithin listed, fun other exist isAbove => ?_⟩
  obtain ⟨ancestor, member, same⟩ := Path.exists_mem_ancestorsWithin (Nat.le_refl _) isAbove
  have present : isDirectory ancestor = true :=
    (respects ancestor other (Path.same_iff.mpr same)).trans exist
  have ordered : (before ++ nearest :: after).Pairwise fun first second => second.IsAbove first :=
    split ▸ Path.pairwise_ancestorsWithin path.components.length path
  have among : ancestor ∈ before ++ nearest :: after := split ▸ member
  -- A directory is not listed before the first one that is found, so it is above this one.
  suffices upper : ancestor.IsAbove nearest from (Path.isAbove_congr same rfl).mp upper
  rcases List.mem_append.mp among with earlier | later
  · have absent := none_before ancestor earlier
    rw [present] at absent
    cases absent
  · rcases List.mem_cons.mp later with rfl | higher
    · exact .refl ancestor
    · exact List.rel_of_pairwise_cons (List.pairwise_append.mp ordered).2.1 higher

/-- A directory is found upwards from a path if there is one. -/
theorem exists_nearest? (respects : Respects isDirectory) (directory : isDirectory above = true)
    (isAbove : above.IsAbove path) : ∃ nearest, Scope.nearest? isDirectory path = some nearest := by
  -- The directory is listed among the paths above, though it may be written in another way.
  obtain ⟨ancestor, member, same⟩ := Path.exists_mem_ancestorsWithin (Nat.le_refl _) isAbove
  have present : isDirectory ancestor = true :=
    (respects ancestor above (Path.same_iff.mpr same)).trans directory
  exact Option.isSome_iff_exists.mp (List.find?_isSome.mpr ⟨ancestor, member, present⟩)

/-- A path with the steps of another one has the same nearest directory. -/
theorem Nearest.congr {other : Path} (found : Nearest isDirectory path nearest)
    (same : path.components = other.components) : Nearest isDirectory other nearest where
  -- The directories above are found by their steps, which are the same.
  directory := found.directory
  above := (Path.isAbove_congr rfl same).mp found.above
  least further exist isAbove := found.least further exist ((Path.isAbove_congr rfl same).mpr isAbove)

end Nearest

end SolverHub
