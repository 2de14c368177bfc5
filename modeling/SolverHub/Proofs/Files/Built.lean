import Mathlib.Data.List.Nodup
import SolverHub.Proofs.Files.Walk

/-! Every file tree that comes about by changes of an empty one is well formed. -/

namespace SolverHub.Tree

variable {α : Type} {tree next : Tree α} {base location source target : Location}

/-- What is at a location or below it starts with the location. -/
theorem isWithin_iff : isWithin base location = true ↔ base <+: location := by
  -- The first names of the place are compared with the base.
  rw [isWithin, decide_eq_true_iff, List.prefix_iff_eq_take]
  exact eq_comm

/-- What lies outside of a place lies in a directory outside of it. -/
theorem outside_dropLast (outside : ¬isWithin base location = true) :
    ¬isWithin base location.dropLast = true := fun within =>
  -- A place is within whatever the directory above it is within.
  outside (isWithin_iff.mpr ((isWithin_iff.mp within).trans location.dropLast_prefix))

/-- Removing an entry removes what is below it, and leaves everything else. -/
theorem node?_erase (below : base ≠ []) (location : Location) :
    (tree.erase base).node? location =
      if isWithin base location then none else tree.node? location := by
  -- The top stays, and any other entry is looked up among those that are left.
  cases location with
  | nil =>
    have outside : ¬isWithin base [] = true := fun within =>
      below (List.prefix_nil.mp (isWithin_iff.mp within))
    rw [if_neg outside]
    rfl
  | cons name rest =>
    refine (Keyed.get?_filter (fun place => !isWithin base place) (name :: rest) _).trans ?_
    cases isWithin base (name :: rest) <;> rfl

/-- Removing an entry with all those below it leaves a tree well formed. -/
theorem WellFormed.erase (formed : WellFormed tree) (below : base ≠ []) :
    WellFormed (tree.erase base) := by
  refine ⟨formed.sorted.filter _, fun place node found => ?_, fun place node found => ?_⟩
  · rw [node?_erase below] at found ⊢
    split at found
    · cases found
    · -- A directory that is removed takes the entry along.
      rename_i outside
      rw [if_neg (outside_dropLast outside)]
      exact formed.parent place node found
  · rw [node?_erase below] at found
    split at found
    · cases found
    · exact formed.named place node found

/-- What is moved keeps the names below the place that it is moved from. -/
theorem relocated_append (source target rest : Location) :
    relocated source target (source ++ rest) = target ++ rest := by
  -- What lies within the source keeps the names behind it.
  rw [relocated, if_pos (isWithin_iff.mpr (List.prefix_append _ _)), List.drop_left]

/-- What is not moved stays where it is. -/
theorem relocated_of_outside (outside : ¬isWithin source location = true) :
    relocated source target location = location :=
  -- Only what lies within the source moves.
  if_neg outside

/-- Entries outside the place that something is moved to get different locations. -/
theorem relocated_inj {first second : Location} (free : ¬isWithin target first = true)
    (vacant : ¬isWithin target second = true)
    (same : relocated source target first = relocated source target second) : first = second := by
  -- What is moved comes to lie within the target, and nothing else does.
  by_cases moves : isWithin source first = true
  · obtain ⟨rest, rfl⟩ := isWithin_iff.mp moves
    rw [relocated_append] at same
    by_cases also : isWithin source second = true
    · obtain ⟨others, rfl⟩ := isWithin_iff.mp also
      rw [relocated_append] at same
      rw [List.append_cancel_left same]
    · rw [relocated_of_outside also] at same
      exact absurd (isWithin_iff.mpr ⟨rest, same⟩) vacant
  · rw [relocated_of_outside moves] at same
    by_cases also : isWithin source second = true
    · obtain ⟨others, rfl⟩ := isWithin_iff.mp also
      rw [relocated_append] at same
      exact absurd (isWithin_iff.mpr ⟨others, same.symm⟩) free
    · rwa [relocated_of_outside also] at same

/-- What is not in the place that something is moved to is found where it has got. -/
theorem node?_move (formed : WellFormed tree) (belowTarget : target ≠ []) (source : Location)
    {node : Node α} (found : tree.node? location = some node) (below : location ≠ [])
    (free : ¬isWithin target location = true) :
    (tree.move source target).node? (relocated source target location) = some node := by
  have erased := formed.erase belowTarget
  have held : (location, node) ∈ (tree.erase target).entries := by
    have stays : (tree.erase target).node? location = some node := by
      rw [node?_erase belowTarget, if_neg free, found]
    obtain ⟨name, rest, rfl⟩ := List.exists_cons_of_ne_nil below
    exact Keyed.mem_of_get? stays
  -- The locations of the entries are different, and stay so.
  have different : ((tree.erase target).entries.map fun entry =>
      (relocated source target entry.1, entry.2)).map Prod.fst |>.Nodup := by
    rw [List.map_map]
    refine List.Nodup.map_on ?_ (List.Nodup.of_map Prod.fst erased.sorted.nodup)
    intro first member second other same
    have apart (entry : Location × Node α) (listed : entry ∈ (tree.erase target).entries) :
        ¬isWithin target entry.1 = true := by
      simpa using (List.mem_filter.mp listed).2
    have equal : first.1 = second.1 := relocated_inj (apart _ member) (apart _ other) same
    exact List.inj_on_of_nodup_map erased.sorted.nodup member other equal
  have below : relocated source target location ≠ [] := by
    rw [relocated]
    split
    · exact List.append_ne_nil_of_left_ne_nil belowTarget _
    · exact below
  obtain ⟨name, rest, same⟩ := List.exists_cons_of_ne_nil below
  have moved := Keyed.get?_ofPairs different (List.mem_map_of_mem held)
  rw [same] at moved ⊢
  exact moved

/-- What is found after something has been moved was found before, outside of where it has got. -/
theorem exists_of_node?_move (formed : WellFormed tree) (belowSource : source ≠ [])
    {place : Location} {node : Node α} (there : place ≠ [])
    (found : (tree.move source target).node? place = some node) :
    ∃ location, tree.node? location = some node ∧ location ≠ [] ∧
      ¬isWithin target location = true ∧ relocated source target location = place := by
  obtain ⟨name, rest, rfl⟩ := List.exists_cons_of_ne_nil there
  obtain ⟨⟨location, held⟩, listed, same⟩ := List.mem_map.mp (Keyed.mem_of_get?_ofPairs found)
  obtain ⟨moved, rfl⟩ := Prod.mk.inj same
  obtain ⟨member, outside⟩ := List.mem_filter.mp listed
  -- The root has no entry that could be moved.
  have below : location ≠ [] := by
    rintro rfl
    have stays : ¬isWithin source [] = true := fun within =>
      belowSource (List.prefix_nil.mp (isWithin_iff.mp within))
    rw [relocated_of_outside stays] at moved
    cases moved
  refine ⟨location, ?_, below, by simpa using outside, moved⟩
  obtain ⟨name, rest, rfl⟩ := List.exists_cons_of_ne_nil below
  exact (Keyed.get?_eq_some_iff formed.sorted).mpr member

/-- Moving an entry to a name in a directory leaves a tree well formed, unless it is moved into itself. -/
theorem WellFormed.move (formed : WellFormed tree) (belowSource : source ≠ []) {parent : Location}
    {name : String} (above : tree.node? parent = some .directory) (named : IsName name)
    (inside : ¬isWithin source (parent ++ [name]) = true) :
    WellFormed (tree.move source (parent ++ [name])) := by
  have belowTarget : parent ++ [name] ≠ [] :=
    List.append_ne_nil_of_right_ne_nil _ (List.cons_ne_nil _ _)
  -- A directory outside both places is still there.
  have stays {place : Location} (found : tree.node? place = some .directory)
      (unmoved : ¬isWithin source place = true)
      (free : ¬isWithin (parent ++ [name]) place = true) :
      (tree.move source (parent ++ [name])).node? place = some .directory := by
    cases place with
    | nil => rfl
    | cons first rest =>
      have moved := node?_move formed belowTarget source found (List.cons_ne_nil _ _) free
      rwa [relocated_of_outside unmoved] at moved
  refine ⟨Keyed.sorted_ofPairs _, fun place node found => ?_, fun place node found => ?_⟩
  · by_cases root : place = []
    · rw [root]
      rfl
    obtain ⟨location, there, below, free, rfl⟩ := exists_of_node?_move formed belowSource root found
    have directory := formed.parent location node there
    by_cases moves : isWithin source location = true
    · obtain ⟨rest, rfl⟩ := isWithin_iff.mp moves
      rw [relocated_append]
      rcases List.eq_nil_or_concat' rest with rfl | ⟨front, last, rfl⟩
      · -- The entry itself lies in the directory that it has been moved to.
        rw [List.append_nil, List.dropLast_concat]
        refine stays above (fun within => inside ?_) fun within => ?_
        · exact isWithin_iff.mpr ((isWithin_iff.mp within).trans (List.prefix_append _ _))
        · have shorter := (isWithin_iff.mp within).length_le
          simp at shorter
      · -- What lies deeper lies in a directory that has been moved along.
        rw [← List.append_assoc, List.dropLast_concat] at directory ⊢
        have outside := outside_dropLast free
        rw [← List.append_assoc, List.dropLast_concat] at outside
        have along : source ++ front ≠ [] := List.append_ne_nil_of_left_ne_nil belowSource _
        have moved := node?_move formed belowTarget source directory along outside
        rwa [relocated_append] at moved
    · rw [relocated_of_outside moves]
      exact stays directory (outside_dropLast moves) (outside_dropLast free)
  · intro part member
    by_cases root : place = []
    · rw [root] at member
      cases member
    obtain ⟨location, there, below, free, rfl⟩ := exists_of_node?_move formed belowSource root found
    by_cases moves : isWithin source location = true
    · -- The names are those of the new place and those below the old one.
      obtain ⟨rest, rfl⟩ := isWithin_iff.mp moves
      rw [relocated_append, List.mem_append, List.mem_append, List.mem_singleton] at member
      rcases member with (earlier | last) | later
      · exact formed.named parent _ above part earlier
      · exact last ▸ named
      · exact formed.named _ node there part (List.mem_append_right _ later)
    · rw [relocated_of_outside moves] at member
      exact formed.named location node there part member

/-- A tree comes about by changes of an empty one. -/
inductive Built : Tree α → Prop
  | empty : Built empty
  | makeDirectory {tree next : Tree α} {path : Path} {touches : List Touch} (built : Built tree)
      (made : tree.makeDirectory path = .ok (next, touches)) : Built next
  | makeDirectories {tree next : Tree α} {path : Path} {touches : List Touch} (built : Built tree)
      (made : tree.makeDirectories path = .ok (next, touches)) : Built next
  | write {tree next : Tree α} {path : Path} {content : α} {touches : List Touch}
      (built : Built tree) (written : tree.write path content = .ok (next, touches)) : Built next
  | remove {tree next : Tree α} {path : Path} {touches : List Touch} (built : Built tree)
      (removed : tree.remove path = .ok (next, touches)) : Built next
  | makeLink {tree next : Tree α} {target path : Path} {touches : List Touch} (built : Built tree)
      (linked : tree.makeLink target path = .ok (next, touches)) : Built next
  | rename {tree next : Tree α} {path target : Path} {touches : List Touch} (built : Built tree)
      (renamed : tree.rename path target = .ok (next, touches)) : Built next

/-- Removing an entry leaves a tree well formed. -/
theorem WellFormed.remove (formed : WellFormed tree) {path : Path} {touches : List Touch}
    (removed : tree.remove path = .ok (next, touches)) : WellFormed next := by
  obtain ⟨location, located, removed⟩ := bind_eq_ok.mp removed
  obtain ⟨parent, name, rfl, _⟩ := locateEntry_ok located
  dsimp only at removed
  -- Only what is found and is no directory is removed, never the top.
  split at removed
  · cases removed
  · cases removed
    exact formed.erase (List.append_ne_nil_of_right_ne_nil _ (List.cons_ne_nil _ _))

/-- A link that is made leaves a tree well formed. -/
theorem WellFormed.makeLink (formed : WellFormed tree) {target path : Path} {touches : List Touch}
    (linked : tree.makeLink target path = .ok (next, touches)) : WellFormed next := by
  unfold Tree.makeLink at linked
  dsimp only at linked
  split at linked
  · cases linked
  · obtain ⟨location, located, linked⟩ := bind_eq_ok.mp linked
    obtain ⟨parent, name, rfl, above, named⟩ := locateEntry_ok located
    split at linked
    · cases linked
    · -- The link is put where nothing was.
      rename_i vacant
      have vacant : tree.node? (parent ++ [name]) = none := by simpa using vacant
      cases linked
      exact formed.put above named (by rw [vacant]; nofun)

/-- An entry that gets another path leaves a tree well formed. -/
theorem WellFormed.rename (formed : WellFormed tree) {path target : Path} {touches : List Touch}
    (renamed : tree.rename path target = .ok (next, touches)) : WellFormed next := by
  obtain ⟨source, located, renamed⟩ := bind_eq_ok.mp renamed
  obtain ⟨goal, aimed, renamed⟩ := bind_eq_ok.mp renamed
  obtain ⟨_, _, rfl, _⟩ := locateEntry_ok located
  obtain ⟨parent, name, rfl, above, named⟩ := locateEntry_ok aimed
  dsimp only at renamed
  split at renamed
  · -- An entry that keeps its place changes nothing.
    split at renamed
    · cases renamed
    · cases renamed
      exact formed
  · split at renamed
    · cases renamed
    · rename_i inside
      split at renamed
      · cases renamed
      · obtain ⟨_, _, renamed⟩ := bind_eq_ok.mp renamed
        cases renamed
        exact formed.move (List.append_ne_nil_of_right_ne_nil _ (List.cons_ne_nil _ _)) above named
          inside

/-- Every tree that comes about by changes is well formed. -/
theorem Built.wellFormed (built : Built tree) : WellFormed tree := by
  -- The induction follows the changes, each of which leaves a tree well formed.
  induction built with
  | empty => exact wellFormed_empty
  | makeDirectory _ made formed => exact (grows_makeDirectory made).2 formed
  | makeDirectories _ made formed => exact (grows_makeDirectories made).2 formed
  | write _ written formed => exact (writes_of_write formed written).elim fun _ writes => writes.formed
  | remove _ removed formed => exact formed.remove removed
  | makeLink _ linked formed => exact formed.makeLink linked
  | rename _ renamed formed => exact formed.rename renamed

end SolverHub.Tree
