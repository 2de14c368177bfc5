import Mathlib.Data.List.Induction
import Mathlib.Order.Defs.Unbundled
import SolverHub.Keyed

/-! Laws of keyed lists: they stay in the order of their keys and hold what was put in last. -/

namespace SolverHub.Keyed

variable {κ α : Type} [LT κ] [DecidableEq κ] {entries : List (κ × α)}

/-- The keys of a list come in strict order, so that none comes twice. -/
def Sorted (entries : List (κ × α)) : Prop :=
  entries.Pairwise fun first second => first.1 < second.1

omit [LT κ] in
/-- What is found under a key is an entry of the list. -/
theorem mem_of_get? {key : κ} {value : α} (found : get? key entries = some value) :
    (key, value) ∈ entries := by
  -- The induction follows the search, which ends at an entry with the key.
  induction entries with
  | nil => cases found
  | cons entry rest ih =>
    obtain ⟨other, held⟩ := entry
    rw [get?] at found
    split at found
    · rename_i same
      cases found
      rw [same]
      exact List.mem_cons_self
    · exact List.mem_cons_of_mem _ (ih found)

omit [LT κ] in
/-- Something is found under the key of every entry. -/
theorem isSome_get?_of_mem {key : κ} {value : α} (member : (key, value) ∈ entries) :
    (get? key entries).isSome := by
  induction entries with
  | nil => cases member
  | cons entry rest ih =>
    rw [get?]
    -- An earlier entry under the key is found in its place, if there is one.
    split
    · rfl
    · rename_i differs
      refine ih ((List.mem_cons.mp member).resolve_left fun same => differs ?_)
      exact congrArg Prod.fst same

omit [LT κ] in
/-- A key that is kept has what it had, and any other one has nothing. -/
theorem get?_filter (keeps : κ → Bool) (key : κ) (entries : List (κ × α)) :
    get? key (entries.filter fun entry => keeps entry.1) =
      if keeps key then get? key entries else none := by
  induction entries with
  | nil => exact (ite_self none).symm
  | cons entry rest ih =>
    obtain ⟨other, value⟩ := entry
    by_cases same : key = other
    · subst same
      cases kept : keeps key <;> simp [get?, kept, ih]
    · -- An entry with another key makes no difference, whether it is kept or not.
      cases kept : keeps other <;> simp [get?, kept, same, ih]

/-- The keys of a changed list are its keys and the one that was changed. -/
theorem mem_keys_alter [DecidableLT κ] {key other : κ} {change : Option α → α} :
    other ∈ (alter key change entries).map Prod.fst ↔
      other = key ∨ other ∈ entries.map Prod.fst := by
  -- The induction follows the change, which ends at the key or at its place.
  induction entries with
  | nil => simp [alter]
  | cons entry rest ih =>
    obtain ⟨held, value⟩ := entry
    rw [alter]
    split
    · rename_i same
      simp [same]
    · split
      · simp
      · simp only [List.map_cons, List.mem_cons, ih]
        exact or_left_comm

/-- What is put under a key is found there, and the other keys are as before, in any list. -/
theorem get?_put [DecidableLT κ] (key other : κ) (value : α) (entries : List (κ × α)) :
    get? other (put key value entries) = if other = key then some value else get? other entries := by
  induction entries with
  | nil => rfl
  | cons entry rest ih =>
    obtain ⟨held, kept⟩ := entry
    rw [put, alter]
    split
    · -- The entry with the key is replaced.
      rename_i same
      subst same
      simp only [get?]
      split <;> rfl
    · rename_i differs
      split
      · rfl
      · simp only [get?]
        rw [← put, ih]
        by_cases here : other = held
        · have elsewhere : other ≠ key := fun same => differs (same.symm.trans here)
          rw [if_pos here, if_neg elsewhere, if_pos here]
        · rw [if_neg here, if_neg here]

/-- What is found among pairs in a keyed list is one of them. -/
theorem mem_of_get?_ofPairs [DecidableLT κ] {pairs : List (κ × α)} {key : κ} {value : α}
    (found : get? key (ofPairs pairs) = some value) : (key, value) ∈ pairs := by
  -- The induction follows the pairs from the last one, which decides about its key.
  induction pairs using List.reverseRecOn with
  | nil => cases found
  | append_singleton pairs pair ih =>
    rw [ofPairs, List.foldl_append, List.foldl_cons, List.foldl_nil, get?_put] at found
    split at found
    · rename_i same
      rw [← Option.some.inj found, same]
      exact List.mem_append_right _ (List.mem_singleton_self _)
    · exact List.mem_append_left _ (ih found)

/-- Pairs whose keys are different are all found in a keyed list of them. -/
theorem get?_ofPairs [DecidableLT κ] {pairs : List (κ × α)} {key : κ} {value : α}
    (different : (pairs.map Prod.fst).Nodup) (member : (key, value) ∈ pairs) :
    get? key (ofPairs pairs) = some value := by
  -- The induction follows the pairs from the last one, whose key no earlier one has.
  induction pairs using List.reverseRecOn with
  | nil => cases member
  | append_singleton pairs pair ih =>
    rw [List.map_append, List.nodup_append] at different
    obtain ⟨earlier, _, apart⟩ := different
    rw [ofPairs, List.foldl_append, List.foldl_cons, List.foldl_nil, get?_put]
    rcases List.mem_append.mp member with before | last
    · have differs : key ≠ pair.1 :=
        apart key (List.mem_map_of_mem before) pair.1 (List.mem_singleton_self _)
      rw [if_neg differs]
      exact ih earlier before
    · rw [← List.mem_singleton.mp last, if_pos rfl]

variable [IsStrictTotalOrder κ (· < ·)]

/-- Nothing is under a key that comes before all others. -/
theorem get?_eq_none_of_lt {key : κ} (before : ∀ entry ∈ entries, key < entry.1) :
    get? key entries = none := by
  -- A key that comes before all of the list is none of its keys.
  cases found : get? key entries with
  | none => rfl
  | some value => exact absurd (before _ (mem_of_get? found)) (irrefl_of (· < ·) key)

omit [DecidableEq κ] in
/-- The keys of a sorted list are different. -/
theorem Sorted.nodup (sorted : Sorted entries) : (entries.map Prod.fst).Nodup :=
  List.pairwise_map.mpr (sorted.imp ne_of_irrefl)

/-- Every entry of a sorted list is what is found under its key. -/
theorem get?_eq_some_iff (sorted : Sorted entries) {key : κ} {value : α} :
    get? key entries = some value ↔ (key, value) ∈ entries := by
  refine ⟨mem_of_get?, fun member => ?_⟩
  induction entries with
  | nil => cases member
  | cons entry rest ih =>
    obtain ⟨before, sorted⟩ := List.pairwise_cons.mp sorted
    rcases List.mem_cons.mp member with same | member
    · rw [← same, get?, if_pos rfl]
    · -- A later entry has a greater key than the first one.
      have less : entry.1 < key := before _ member
      have differs : key ≠ entry.1 := ne_of_irrefl' less
      rw [get?, if_neg differs, ih sorted member]

variable [DecidableLT κ]

/-- A change under one key leaves what is under the others. -/
theorem get?_alter (sorted : Sorted entries) (key other : κ) (change : Option α → α) :
    get? other (alter key change entries) =
      if other = key then some (change (get? key entries)) else get? other entries := by
  induction entries with
  | nil => rfl
  | cons entry rest ih =>
    obtain ⟨held, value⟩ := entry
    obtain ⟨before, later⟩ := List.pairwise_cons.mp sorted
    rw [alter]
    split
    · rename_i same
      simp only [get?, same, if_true]
      split <;> rfl
    · rename_i differs
      split
      · -- The key was absent, since it comes before all others.
        rename_i less
        have absent : get? key ((held, value) :: rest) = none := by
          apply get?_eq_none_of_lt
          intro entry member
          rcases List.mem_cons.mp member with first | member
          · rw [first]; exact less
          · exact trans_of (· < ·) less (before entry member)
        rw [absent, get?]
      · simp only [get?, ih later, if_neg differs]
        by_cases same : other = key
        · have absent : other ≠ held := fun first => differs (same.symm.trans first)
          rw [if_neg absent, if_pos same, if_pos same]
        · simp only [if_neg same]

/-- A change keeps the keys in order. -/
theorem sorted_alter (sorted : Sorted entries) (key : κ) (change : Option α → α) :
    Sorted (alter key change entries) := by
  induction entries with
  | nil => exact List.pairwise_singleton _ _
  | cons entry rest ih =>
    obtain ⟨held, value⟩ := entry
    obtain ⟨before, later⟩ := List.pairwise_cons.mp sorted
    rw [alter]
    split
    · exact List.pairwise_cons.mpr ⟨before, later⟩
    · rename_i differs
      split
      · rename_i less
        refine List.pairwise_cons.mpr ⟨fun entry member => ?_, sorted⟩
        rcases List.mem_cons.mp member with first | member
        · rw [first]; exact less
        · exact trans_of (· < ·) less (before entry member)
      · -- A key that is neither equal nor less is greater, and so are all keys behind it.
        rename_i notLess
        have less : held < key := by
          rcases trichotomous_of (· < ·) held key with less | same | greater
          · exact less
          · exact absurd same.symm differs
          · exact absurd greater notLess
        refine List.pairwise_cons.mpr ⟨fun entry member => ?_, ih later⟩
        rcases mem_keys_alter.mp (List.mem_map_of_mem member) with same | kept
        · rw [same]; exact less
        · obtain ⟨earlier, member, same⟩ := List.mem_map.mp kept
          rw [← same]
          exact before earlier member

/-- A keyed list of pairs is sorted. -/
theorem sorted_ofPairs (pairs : List (κ × α)) : Sorted (ofPairs pairs) := by
  -- The induction follows the pairs, each of which is put into a sorted list.
  have general (entries : List (κ × α)) (sorted : Sorted entries) :
      Sorted (pairs.foldl (fun entries pair => put pair.1 pair.2 entries) entries) := by
    induction pairs generalizing entries with
    | nil => exact sorted
    | cons pair rest ih => exact ih _ (sorted_alter sorted _ _)
  exact general [] List.Pairwise.nil

/-- A key behind all others is put last. -/
theorem put_of_lt {key : κ} (value : α) (before : ∀ entry ∈ entries, entry.1 < key) :
    put key value entries = entries ++ [(key, value)] := by
  induction entries with
  | nil => rfl
  | cons entry rest ih =>
    obtain ⟨less, before⟩ := List.forall_mem_cons.mp before
    -- The key neither equals the first one nor comes before it.
    have differs : key ≠ entry.1 := ne_of_irrefl' less
    have notLess : ¬key < entry.1 := asymm_of (· < ·) less
    rw [put, alter, if_neg differs, if_neg notLess, ← put, ih before]
    rfl

/-- Pairs in the order of their keys are a keyed list already. -/
theorem ofPairs_of_sorted (sorted : Sorted entries) : ofPairs entries = entries := by
  -- The induction follows the pairs from the last one, which comes behind all others.
  induction entries using List.reverseRecOn with
  | nil => rfl
  | append_singleton entries pair ih =>
    obtain ⟨earlier, _, before⟩ := List.pairwise_append.mp sorted
    have last : ∀ entry ∈ entries, entry.1 < pair.1 := fun entry member =>
      before entry member pair (List.mem_singleton_self _)
    have first := ih earlier
    rw [ofPairs] at first ⊢
    rw [List.foldl_append, first, List.foldl_cons, List.foldl_nil, put_of_lt pair.2 last]

/-- Items that join lists by their keys are found under those keys, behind what was there. -/
theorem get?_foldl_join {β : Type} (key : β → κ) (value : β → α) (items : List β)
    {entries : List (κ × List α)} (sorted : Sorted entries) (wanted : κ) :
    get? wanted (items.foldl (fun entries item =>
        alter (key item) (fun held => held.getD [] ++ [value item]) entries) entries) =
      let joined := (items.filter fun item => key item = wanted).map value
      if joined = [] then get? wanted entries
      else some ((get? wanted entries).getD [] ++ joined) := by
  -- The induction holds from any sorted list, and each item alters what is under its key.
  induction items generalizing entries with
  | nil => rfl
  | cons item rest ih =>
    rw [List.foldl_cons, ih (sorted_alter sorted _ _), get?_alter sorted]
    by_cases here : key item = wanted
    · rw [if_pos here.symm, List.filter_cons_of_pos (by simpa using here), here]
      by_cases last : (rest.filter fun item => key item = wanted).map value = []
      · simp [last]
      · simp [last]
    · rw [if_neg (Ne.symm here), List.filter_cons_of_neg (by simpa using here)]

/-- The lists that items join by their keys are sorted. -/
theorem sorted_foldl_join {β : Type} (key : β → κ) (value : β → α) (items : List β)
    {entries : List (κ × List α)} (sorted : Sorted entries) :
    Sorted (items.foldl (fun entries item =>
      alter (key item) (fun held => held.getD [] ++ [value item]) entries) entries) := by
  -- The induction follows the items, each of which joins a sorted list.
  induction items generalizing entries with
  | nil => exact sorted
  | cons item rest ih => exact ih (sorted_alter sorted _ _)

end SolverHub.Keyed
