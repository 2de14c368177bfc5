import SolverHub.Loader.Event
import SolverHub.Proofs.Files.Walk

/-! An event for a file leads to a source to load, which is the file however its path was written. -/

namespace SolverHub

namespace Path

/-- Paths that are the same have the same steps. -/
theorem same_iff {first second : Path} :
    first.same second = true ↔ first.components = second.components := by
  -- Paths are the same if their steps are.
  rw [same, beq_iff_eq]

/-- Leaving out repetitions leaves one path with the steps of each. -/
theorem exists_dropRepeats {paths : List Path} {path : Path} (member : path ∈ paths) :
    ∃ kept ∈ dropRepeats paths, kept.components = path.components := by
  -- The induction follows the neighbours, of which the first one stands for equal ones.
  fun_induction dropRepeats paths generalizing path with
  | case1 => cases member
  | case2 only => exact ⟨path, member, rfl⟩
  | case3 first second rest same ih =>
    rcases List.mem_cons.mp member with here | later
    · exact here ▸ ih List.mem_cons_self
    · rcases List.mem_cons.mp later with here | later
      -- The path that is left out has the steps of the one before it.
      · obtain ⟨kept, stays, equal⟩ := ih List.mem_cons_self
        exact ⟨kept, stays, equal.trans (here ▸ same_iff.mp same)⟩
      · exact ih (List.mem_cons_of_mem _ later)
  | case4 first second rest differs ih =>
    rcases List.mem_cons.mp member with here | later
    · exact ⟨first, List.mem_cons_self, here ▸ rfl⟩
    · obtain ⟨kept, stays, equal⟩ := ih later
      exact ⟨kept, List.mem_cons_of_mem _ stays, equal⟩

/-- Leaving out repetitions adds nothing. -/
theorem mem_of_mem_dropRepeats {paths : List Path} {path : Path} (kept : path ∈ dropRepeats paths) :
    path ∈ paths := by
  -- The induction follows the neighbours, one of which is left out at most.
  fun_induction dropRepeats paths with
  | case1 => cases kept
  | case2 only => exact kept
  | case3 first second rest same ih =>
    rcases List.mem_cons.mp (ih kept) with here | later
    · exact here ▸ List.mem_cons_self
    · exact List.mem_cons_of_mem _ (List.mem_cons_of_mem _ later)
  | case4 first second rest differs ih =>
    rcases List.mem_cons.mp kept with here | later
    · exact here ▸ List.mem_cons_self
    · exact List.mem_cons_of_mem _ (ih later)

/-- Among sorted paths is one with the steps of each. -/
theorem exists_sorted {paths : List Path} {path : Path} (member : path ∈ paths) :
    ∃ kept ∈ sorted paths, kept.components = path.components :=
  -- Sorting keeps every path, and dropping repeats keeps one of each.
  exists_dropRepeats (List.mem_mergeSort.mpr member)

/-- Sorted paths are some of those that were sorted. -/
theorem mem_of_mem_sorted {paths : List Path} {path : Path} (kept : path ∈ sorted paths) :
    path ∈ paths :=
  -- Neither sorting nor dropping repeats adds a path.
  List.mem_mergeSort.mp (mem_of_mem_dropRepeats kept)

end Path

namespace Tree

variable {α : Type} {tree next : Tree α} {location : Location}

/-- Staying at the end of a walk makes no difference to where it ends. -/
theorem walk_here {vacant : Bool} {links : Nat} {done : Location} {steps : List Component}
    (found : tree.walk vacant links done (steps ++ [.here]) = .ok location) :
    tree.walk vacant links done steps = .ok location := by
  -- The cases are those of the walk, which goes on below a directory only.
  fun_induction tree.walk vacant links done steps with
  | case1 => simpa only [List.nil_append, walk] using found
  | case2 _ _ _ ih | case3 _ _ _ ih | case4 _ _ _ ih =>
    rw [List.cons_append, walk] at found
    exact ih found
  | case5 done name rest child links directory ih =>
    rw [List.cons_append, walk_directory directory] at found
    exact ih found
  | case6 links done name rest child content file last
  | case7 links done name rest child content file more =>
    -- Nobody can stay at a file.
    rw [List.cons_append, walk_file file, if_neg (by simp)] at found
    cases found
  | case8 done name rest child target link =>
    rw [List.cons_append, walk_link_zero link] at found
    cases found
  | case9 done name rest child target links link ih =>
    rw [List.cons_append, walk_link link, ← List.append_assoc] at found
    exact ih found
  | case10 links done name rest child none last
  | case11 links done name rest child none more =>
    rw [List.cons_append, walk_none none, if_neg (by simp)] at found
    cases found

/-- A path leads to where its steps lead. -/
theorem walk_of_locate {path : Path} (found : tree.locate path = .ok location) :
    path.isAbsolute = true ∧ tree.walk false linkLimit [] path.components = .ok location := by
  unfold locate stepsOf at found
  split at found
  · rename_i absolute
    refine ⟨absolute, ?_⟩
    -- A path may have one more step, which is to stay where it leads.
    split at found
    · exact walk_here found
    · exact walk_here found
    · exact found
  · cases found

/-- What a path leads to is the entry at its location. -/
theorem find?_of_locate {path : Path} (found : tree.locate path = .ok location) :
    tree.find? path = tree.node? location := by
  -- What is found at a path stands where the path leads.
  rw [find?, found]

/-- A path of a file leads to it. -/
theorem locate_of_isFile {path : Path} (file : tree.isFile path = true) :
    ∃ location content, tree.locate path = .ok location ∧
      tree.node? location = some (.file content) := by
  unfold isFile find? at file
  -- A file is found only where the path leads to one.
  split at file
  · rename_i content found
    split at found
    · exact ⟨_, content, ‹_›, found⟩
    · cases found
  · cases file

/-- A path that has led somewhere or ends with a name. -/
def Firm (tree : Tree α) (path : Path) : Prop :=
  (∃ location, tree.locate path = .ok location) ∨ stepsOf path = path.components

/-- A firm path leads to where any path with its steps leads. -/
theorem Firm.locate {path other : Path} (firm : Firm tree path)
    (same : path.components = other.components) (found : tree.locate other = .ok location) :
    tree.locate path = .ok location := by
  obtain ⟨absolute, walked⟩ := walk_of_locate found
  rcases firm with ⟨place, there⟩ | plain
  · -- Both paths lead along the same steps.
    obtain ⟨_, again⟩ := walk_of_locate there
    rw [same, walked] at again
    rw [there, again]
  · -- A path that ends with a name has no step more than the other one.
    rw [Path.isAbsolute_iff, ← same, ← Path.isAbsolute_iff] at absolute
    rw [Tree.locate, if_pos absolute, plain, same, walked]

/-- A path stays firm as long as the entries are kept. -/
theorem Firm.of_keeps {path : Path} (firm : Firm tree path) (keeps : Keeps tree next) :
    Firm next path :=
  -- What stands in the way of a path stays, so the path leads to the same place.
  firm.imp_left fun ⟨place, found⟩ => ⟨place, locate_of_keeps keeps found⟩

/-- A name in a directory of a well-formed tree is a name. -/
theorem isName_of_mem_names (formed : WellFormed tree) {name : String}
    (member : name ∈ tree.names location) : IsName name := by
  obtain ⟨⟨place, node⟩, stands, found⟩ := List.mem_filterMap.mp member
  split at found
  · -- The name is the last one of a location where an entry is.
    have last : name ∈ place := List.mem_of_getLast? found
    obtain ⟨held, there⟩ := Option.isSome_iff_exists.mp (Keyed.isSome_get?_of_mem stands)
    cases place with
    | nil => cases last
    | cons first rest => exact formed.named (first :: rest) held there name last
  · cases found

/-- A file that a scan meets in a directory keeps the path on which it was met. -/
theorem path_of_enter {trail : Trail} {path file : Path}
    (entered : tree.enter trail path location = .inl (.file file)) : file = path := by
  -- Links are followed, and anything but a file is entered or passed over.
  unfold enter at entered
  split at entered
  · cases entered
    rfl
  · cases entered
  · split at entered
    · cases entered
    · split at entered
      · split at entered <;> cases entered
      · cases entered
        rfl
  · cases entered

/-- The files that a scan meets below a directory have firm paths. -/
theorem firm_of_mem_scanBelow (formed : WellFormed tree) {levels : Nat} {trail : Trail} {path : Path}
    (member : .file path ∈ tree.scanBelow levels trail) : Firm tree path := by
  -- The induction follows the levels, on each of which a name continues the path of a directory.
  fun_induction tree.scanBelow levels trail with
  | case1 => cases member
  | case2 => cases member
  | case3 levels base location above trail ih =>
    have inside := (List.mem_cons.mp member).resolve_left nofun
    obtain ⟨name, listed, met⟩ := List.mem_flatMap.mp inside
    split at met
    · rename_i finding entered
      rw [← List.mem_singleton.mp met] at entered
      rw [path_of_enter entered]
      exact .inr (stepsOf_join base (isName_of_mem_names formed listed))
    · exact ih _ met

/-- The files that a scan meets have firm paths. -/
theorem firm_of_mem_scan (formed : WellFormed tree) {base path : Path}
    (member : .file path ∈ tree.scan base) : Firm tree path := by
  unfold scan at member
  -- A directory is scanned from the top, and anything else is met alone.
  split at member
  · simp at member
  · rename_i place found
    split at member
    · exact firm_of_mem_scanBelow formed member
    · cases List.mem_singleton.mp member
      exact .inl ⟨place, found⟩

end Tree

namespace Event

variable {α : Type} {tree : Tree α} {scope : Scope} {pending : List Path} {event : Event}

/-- The sources that wait after an event are covered and firm if those before it are. -/
theorem firm_of_mem_collect (formed : tree.WellFormed)
    (firm : ∀ path ∈ pending, scope.covers path = true ∧ tree.Firm path) :
    ∀ path ∈ collect scope tree pending event, scope.covers path = true ∧ tree.Firm path := by
  intro path member
  rcases List.mem_append.mp (Path.mem_of_mem_sorted member) with earlier | new
  · exact firm path earlier
  · obtain ⟨found, covered⟩ := List.mem_filter.mp new
    refine ⟨covered, ?_⟩
    obtain ⟨finding, met, file⟩ := List.mem_filterMap.mp found
    have same : finding = .file path := by
      cases finding <;> simp_all [Finding.file?]
    -- A source is a path of the event itself or one that a scan has met.
    rw [same, findings] at met
    split at met
    · obtain ⟨place, told, met⟩ := List.mem_flatMap.mp met
      unfold findingsAt at met
      split at met
      · rename_i stands
        obtain ⟨location, _, located, _⟩ :=
          Tree.locate_of_isFile (Bool.and_eq_true_iff.mp stands).1
        cases List.mem_singleton.mp met
        exact .inl ⟨location, located⟩
      · split at met
        · exact Tree.firm_of_mem_scan formed met
        · cases met
    · cases met

/-- A source that waits before an event waits after it. -/
theorem exists_collect_of_mem {path : Path} (member : path ∈ pending) :
    ∃ kept ∈ collect scope tree pending event, kept.components = path.components :=
  -- What waits is sorted together with what is new.
  Path.exists_sorted (List.mem_append_left _ member)

/-- A source that an event tells of waits after it. -/
theorem exists_collect_of_told {path : Path} (change : event.isChange = true)
    (told : path ∈ event.paths) (covered : scope.covers path = true)
    (file : tree.isFile path = true) :
    ∃ kept ∈ collect scope tree pending event, kept.components = path.components := by
  -- The path is among what the event leads to, and so among what is sorted.
  have finding : .file path ∈ event.findingsAt scope tree path := by
    rw [findingsAt, file, covered]
    exact List.mem_singleton_self _
  refine Path.exists_sorted (List.mem_append_right _ (List.mem_filter.mpr ⟨?_, covered⟩))
  refine List.mem_filterMap.mpr ⟨.file path, ?_, rfl⟩
  rw [findings, if_pos change]
  exact List.mem_flatMap.mpr ⟨path, told, finding⟩

end Event

end SolverHub
