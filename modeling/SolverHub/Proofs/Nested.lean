import Mathlib.Algebra.GroupWithZero.Nat
import Mathlib.Data.List.Nodup
import SolverHub.Proofs.Keyed

/-! Keyed lists within keyed lists agree with the flat list of the pairs that were put in, and count its keys. -/

namespace SolverHub.Keyed

/-- The values under a key of some pairs, in order. -/
def under {κ α : Type} [DecidableEq κ] (key : κ) (pairs : List (κ × α)) : List α :=
  pairs.filterMap fun pair => if pair.1 = key then some pair.2 else none

/-- Pairs get a first part of their keys. -/
def beneath {κ ι α : Type} (first : κ) (pairs : List (ι × α)) : List ((κ × ι) × α) :=
  pairs.map fun pair => ((first, pair.1), pair.2)

/-- A level of lists within lists leads from keys to values. -/
structure Level (κ α β : Type) where
  /-- The lists whose keys are in order on this level and on all below. -/
  Sound : List β → Prop
  /-- The value under a key. -/
  find? : List β → κ → Option α
  /-- The keys that lead to a value. -/
  keys : List β → List κ
  sound_nil : Sound []
  find?_nil : ∀ key, find? [] key = none
  keys_nil : keys [] = []
  mem_keys : ∀ {entries}, Sound entries → ∀ key, key ∈ keys entries ↔ (find? entries key).isSome
  nodup_keys : ∀ {entries}, Sound entries → (keys entries).Nodup

section Pairs

variable {κ ι α : Type} [DecidableEq κ] [DecidableEq ι]

/-- The pairs of two lists come one after the other under each key. -/
theorem under_append (key : κ) (first second : List (κ × α)) :
    under key (first ++ second) = under key first ++ under key second :=
  -- What is under the key is chosen entry by entry.
  List.filterMap_append

/-- The pairs that some items stand for come item by item under each key. -/
theorem under_flatMap {γ : Type} (key : κ) (items : List γ) (pairs : γ → List (κ × α)) :
    under key (items.flatMap pairs) = items.flatMap fun item => under key (pairs item) := by
  -- The induction follows the items.
  induction items with
  | nil => rfl
  | cons item rest ih => rw [List.flatMap_cons, under_append, ih, List.flatMap_cons]

/-- Pairs whose keys all start with the same part are found under keys that start with it. -/
theorem under_beneath (first other : κ) (key : ι) (pairs : List (ι × α)) :
    under (other, key) (beneath first pairs) = if first = other then under key pairs else [] := by
  -- The first parts of the keys decide for all pairs at once.
  by_cases same : first = other
  · simp only [under, beneath, List.filterMap_map, Function.comp_def, Prod.mk.injEq, same, true_and,
      if_true]
  · simp [under, beneath, List.filterMap_map, same]

end Pairs

variable {κ ι α β : Type} [LT κ] [DecidableLT κ] [DecidableEq κ] [IsStrictTotalOrder κ (· < ·)]
variable [DecidableEq ι]

omit [DecidableLT κ] in
/-- A key of a list has something under it. -/
theorem mem_keys_iff {entries : List (κ × α)} (sorted : Sorted entries) (key : κ) :
    key ∈ entries.map Prod.fst ↔ (get? key entries).isSome := by
  -- Keys in order lead to their own entries.
  rw [Option.isSome_iff_exists]
  refine ⟨fun member => ?_, fun ⟨value, found⟩ => List.mem_map_of_mem (mem_of_get? found)⟩
  obtain ⟨⟨_, value⟩, held, rfl⟩ := List.mem_map.mp member
  exact ⟨value, (get?_eq_some_iff sorted).mpr held⟩

/-- A sum over a list loses what was under a key and gains what is put there. -/
theorem sum_put {entries : List (κ × α)} (sorted : Sorted entries) (weight : α → Nat) (key : κ)
    (value : α) :
    ((put key value entries).map fun entry => weight entry.2).sum +
        ((get? key entries).map weight).getD 0 =
      (entries.map fun entry => weight entry.2).sum + weight value := by
  induction entries with
  | nil => simp [put, alter, get?]
  | cons entry rest ih =>
    obtain ⟨held, found⟩ := entry
    obtain ⟨before, later⟩ := List.pairwise_cons.mp sorted
    by_cases same : key = held
    · simp only [put, alter, get?, if_pos same, List.map_cons, List.sum_cons, Option.map_some,
        Option.getD_some]
      omega
    · by_cases less : key < held
      · -- The key was absent, since it comes before all others.
        have absent : get? key rest = none :=
          get?_eq_none_of_lt fun entry member => trans_of (· < ·) less (before entry member)
        simp only [put, alter, get?, if_neg same, if_pos less, absent, List.map_cons,
          List.sum_cons, Option.map_none, Option.getD_none]
        omega
      · have further := ih later
        simp only [put] at further
        simp only [put, alter, get?, if_neg same, if_neg less, List.map_cons, List.sum_cons]
        omega

namespace Level

/-- The lowest level holds the values themselves. -/
def lowest : Level κ α (κ × α) where
  Sound := Sorted
  find? entries key := get? key entries
  keys entries := entries.map Prod.fst
  sound_nil := List.Pairwise.nil
  find?_nil _ := rfl
  keys_nil := rfl
  mem_keys := mem_keys_iff
  nodup_keys := Sorted.nodup

/-- A level above another one adds a part to the keys. -/
def above (inner : Level ι α β) : Level (κ × ι) α (κ × List β) where
  Sound entries := Sorted entries ∧ ∀ entry ∈ entries, inner.Sound entry.2
  find? entries key := (get? key.1 entries).bind fun found => inner.find? found key.2
  keys entries := entries.flatMap fun entry => (inner.keys entry.2).map (entry.1, ·)
  sound_nil := ⟨List.Pairwise.nil, by simp⟩
  find?_nil _ := rfl
  keys_nil := rfl
  mem_keys := by
    intro entries ⟨sorted, sound⟩ ⟨first, key⟩
    rw [List.mem_flatMap, Option.isSome_bind, Option.any_eq_true]
    refine ⟨?_, ?_⟩
    · rintro ⟨⟨_, found⟩, member, listed⟩
      obtain ⟨_, here, same⟩ := List.mem_map.mp listed
      cases same
      exact ⟨found, (get?_eq_some_iff sorted).mpr member,
        (inner.mem_keys (sound _ member) key).mp here⟩
    · rintro ⟨found, there, here⟩
      have member := mem_of_get? there
      exact ⟨(first, found), member,
        List.mem_map_of_mem ((inner.mem_keys (sound _ member) key).mpr here)⟩
  nodup_keys := by
    intro entries ⟨sorted, sound⟩
    refine List.nodup_flatMap.mpr ⟨fun entry member => ?_, sorted.imp fun {first second} less => ?_⟩
    · exact (inner.nodup_keys (sound entry member)).map fun _ _ same => (Prod.mk.inj same).2
    · -- Keys below different entries differ in their first part.
      intro key here there
      obtain ⟨_, _, rfl⟩ := List.mem_map.mp here
      obtain ⟨_, _, same⟩ := List.mem_map.mp there
      exact ne_of_irrefl less (Prod.mk.inj same).1.symm

/-- A change of a level that counts puts some pairs in, a later one of a key hiding an earlier one.

The count grows by the number of keys that were not there. -/
def Adds (level : Level κ α β) (change : List β × Nat → List β × Nat)
    (pairs : List (κ × α)) : Prop :=
  ∀ entries count, level.Sound entries →
    level.Sound (change (entries, count)).1 ∧
    (∀ key, level.find? (change (entries, count)).1 key =
      (under key pairs).getLast?.or (level.find? entries key)) ∧
    (change (entries, count)).2 + (level.keys entries).length =
      count + (level.keys (change (entries, count)).1).length

omit [LT κ] [DecidableLT κ] [IsStrictTotalOrder κ (· < ·)] in
/-- Changes in turn put in the pairs of all of them. -/
theorem Adds.foldl {γ : Type} {level : Level κ α β} {step : List β × Nat → γ → List β × Nat}
    {pairs : γ → List (κ × α)} (adds : ∀ item, level.Adds (step · item) (pairs item))
    (items : List γ) : level.Adds (fun state => items.foldl step state) (items.flatMap pairs) := by
  induction items with
  | nil => exact fun entries count sound => ⟨sound, fun _ => rfl, rfl⟩
  | cons item rest ih =>
    intro entries count sound
    -- What the later items put in hides what the first one did, and the two counts add up.
    obtain ⟨firstSound, firstFound, firstCount⟩ := adds item entries count sound
    obtain ⟨restSound, restFound, restCount⟩ :=
      ih (step (entries, count) item).1 (step (entries, count) item).2 firstSound
    refine ⟨restSound, fun key => ?_, ?_⟩
    · rw [List.flatMap_cons, under_append, List.getLast?_append, Option.or_assoc, ← firstFound]
      exact restFound key
    · show (rest.foldl step (step (entries, count) item)).2 + (level.keys entries).length =
        count + (level.keys (rest.foldl step (step (entries, count) item)).1).length
      have firstCount : (step (entries, count) item).2 + (level.keys entries).length =
        count + (level.keys (step (entries, count) item).1).length := firstCount
      have restCount : (rest.foldl step (step (entries, count) item)).2 +
          (level.keys (step (entries, count) item).1).length =
        (step (entries, count) item).2 +
          (level.keys (rest.foldl step (step (entries, count) item)).1).length := restCount
      omega

/-- Putting a value in is adding one pair to the lowest level. -/
theorem adds_putCounted (key : κ) (value : α) :
    lowest.Adds (putCounted key value) [(key, value)] := by
  -- The count grows by one exactly where the length does.
  intro entries count sorted
  refine ⟨sorted_alter sorted key _, fun other => ?_, ?_⟩
  · show get? other (put key value entries) = _
    rw [get?_put, under, List.filterMap_cons]
    by_cases same : other = key
    · simp [same]
    · simp [same, Ne.symm same, lowest]
  · have sizes := sum_put sorted (fun _ => 1) key value
    simp only [List.map_const', List.sum_replicate_nat, Nat.mul_one] at sizes
    simp only [putCounted, lowest, List.length_map]
    cases found : get? key entries with
    | none =>
      simp only [found, Option.map_none, Option.getD_none, Option.isSome_none, Bool.false_eq_true,
        if_false] at sizes ⊢
      omega
    | some _ =>
      simp only [found, Option.map_some, Option.getD_some, Option.isSome_some, if_true] at sizes ⊢
      omega

/-- A change below a key adds the pairs of the change under that key. -/
theorem Adds.visit {inner : Level ι α β} {change : List β × Nat → List β × Nat}
    {pairs : List (ι × α)} (adds : inner.Adds change pairs) (first : κ) :
    (above inner).Adds (Keyed.visit first change) (beneath first pairs) := by
  intro entries count ⟨sorted, sound⟩
  -- What was under the key is sound, also where that is nothing.
  have start : inner.Sound ((get? first entries).getD []) := by
    cases found : get? first entries with
    | none => exact inner.sound_nil
    | some below => exact sound _ (mem_of_get? found)
  obtain ⟨innerSound, innerFound, innerCount⟩ := adds _ count start
  have kept := sorted_alter sorted first fun _ => (change ((get? first entries).getD [], count)).1
  refine ⟨⟨kept, fun entry member => ?_⟩, fun key => ?_, ?_⟩
  · -- An entry is the changed one or was there before.
    have found := (get?_eq_some_iff kept).mpr member
    rw [get?_alter sorted] at found
    split at found
    · rw [← Option.some.inj found]
      exact innerSound
    · exact sound entry (mem_of_get? found)
  · show (get? key.1 (put first _ entries)).bind _ = Option.or _ ((get? key.1 entries).bind _)
    rw [get?_put, under_beneath]
    by_cases same : first = key.1
    · rw [if_pos same.symm, if_pos same, Option.bind_some, innerFound, same]
      cases get? key.1 entries with
      | none => rw [Option.getD_none, inner.find?_nil, Option.bind_none]
      | some _ => rfl
    · rw [if_neg (Ne.symm same), if_neg same]
      rfl
  · have sizes := sum_put sorted (fun below => (inner.keys below).length) first
      (change ((get? first entries).getD [], count)).1
    have before : ((get? first entries).map fun below => (inner.keys below).length).getD 0 =
        (inner.keys ((get? first entries).getD [])).length := by
      cases get? first entries with
      | none => simp [inner.keys_nil]
      | some _ => rfl
    rw [before] at sizes
    simp only [above, Keyed.visit, List.length_flatMap, List.length_map]
    omega

end Level

end SolverHub.Keyed
