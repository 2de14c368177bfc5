import Mathlib
import SolverHub.Loader.Event
import SolverHub.Proofs.Loader.Sources
import SolverHub.Proofs.Loader.Targets

/-! After an event those sources wait that waited before, and those that have appeared where it happened.

A directory that was created is looked through for them, but not one that was moved to where it is. -/

namespace SolverHub.Event

variable {α : Type} {scope : Scope} {tree : Tree α} {event : Event} {pending : List Path} {path : Path}

/-- A source appears with an event that is about its file, or about a new directory above its file. -/
def Appeared (scope : Scope) (tree : Tree α) (event : Event) (path : Path) : Prop :=
  -- A directory is new where it was created and where it was moved to.
  scope.covers path = true ∧ tree.isFile path = true ∧
    (path ∈ event.paths ∨ (event.kind = .created ∨ event.kind = .renamedTo) ∧
      ∃ directory ∈ event.paths, tree.isDirectory directory = true ∧ tree.LiesBelow directory path)

/-- A source is found at a path if it is the file there, or lies below a directory that was created there. -/
theorem file_mem_findingsAt (formed : tree.WellFormed) (plain : tree.Plain) {place : Path}
    (covered : scope.covers path = true) :
    .file path ∈ event.findingsAt scope tree place ↔
      (path = place ∧ tree.isFile path = true) ∨
        event.kind = .created ∧ tree.isDirectory place = true ∧ tree.LiesBelow place path := by
  unfold findingsAt
  constructor
  · intro met
    split at met
    · rename_i stands
      cases List.mem_singleton.mp met
      exact .inl ⟨rfl, (Bool.and_eq_true_iff.mp stands).1⟩
    · split at met
      · rename_i entered
        simp only [Bool.and_eq_true, decide_eq_true_iff] at entered
        obtain ⟨⟨created, directory⟩, _⟩ := entered
        exact .inr ⟨created, directory, (Tree.mem_scan_iff formed plain directory).mp met⟩
      · cases met
  · rintro (⟨rfl, file⟩ | ⟨created, directory, below⟩)
    · rw [file, covered]
      exact List.mem_singleton_self _
    · -- The directory leads to the scope because the source below it is covered.
      have leads := Scope.leadsTo_of_covers covered (below.startsWith formed plain)
      simp only [Tree.isFile_eq_false directory, created, directory, leads, Bool.false_and, Bool.and_true,
        Bool.false_eq_true, decide_true, if_true, if_false]
      exact (Tree.mem_scan_iff formed plain directory).mpr below

/-- The sources that a change leads to have appeared with it, but none are in a directory that was moved. -/
theorem mem_sourcesAmong_findings (formed : tree.WellFormed) (plain : tree.Plain) :
    path ∈ scope.sourcesAmong (event.findings scope tree) ↔ event.isChange = true ∧
      Appeared scope tree event path ∧ (event.kind = .renamedTo → path ∈ event.paths) := by
  rw [Scope.mem_sourcesAmong, findings]
  cases change : event.isChange with
  | false => simp
  | true =>
    rw [if_pos rfl, List.mem_flatMap, and_comm, Appeared, and_assoc, eq_self, true_and]
    refine and_congr_right fun covered => ?_
    -- An event has one kind, so a directory that was created was not moved.
    simp only [file_mem_findingsAt formed plain covered]
    constructor
    · rintro ⟨place, told, ⟨rfl, file⟩ | ⟨created, directory, below⟩⟩
      · exact ⟨⟨file, .inl told⟩, fun _ => told⟩
      · refine ⟨⟨below.file, .inr ⟨.inl created, place, told, directory, below⟩⟩, fun moved => ?_⟩
        cases created.symm.trans moved
    · rintro ⟨⟨file, told | ⟨created | moved, place, told, directory, below⟩⟩, listed⟩
      · exact ⟨path, told, .inl ⟨rfl, file⟩⟩
      · exact ⟨place, told, .inr ⟨created, directory, below⟩⟩
      · exact ⟨path, listed moved, .inl ⟨rfl, file⟩⟩

/-- After an event those sources wait that waited before or that it leads to. -/
theorem exists_collect_iff :
    (∃ kept ∈ collect scope tree pending event, kept.same path = true) ↔
      (∃ waiting ∈ pending, waiting.same path = true) ∨
        ∃ source ∈ scope.sourcesAmong (event.findings scope tree), source.same path = true := by
  -- Sorting leaves one path with the steps of each.
  simp only [Path.same_iff]
  constructor
  · rintro ⟨kept, member, same⟩
    rcases List.mem_append.mp (Path.mem_of_mem_sorted member) with earlier | new
    · exact .inl ⟨kept, earlier, same⟩
    · exact .inr ⟨kept, new, same⟩
  · rintro (⟨waiting, earlier, same⟩ | ⟨source, new, same⟩)
    · obtain ⟨kept, member, equal⟩ := Path.exists_sorted (List.mem_append_left _ earlier)
      exact ⟨kept, member, equal.trans same⟩
    · obtain ⟨kept, member, equal⟩ := Path.exists_sorted (List.mem_append_right _ new)
      exact ⟨kept, member, equal.trans same⟩

/-- After some events those sources wait that one of them leads to. -/
theorem exists_sources_iff {events : List Event} :
    (∃ kept ∈ sources scope tree events, kept.same path = true) ↔
      ∃ event ∈ events, ∃ source ∈ scope.sourcesAmong (event.findings scope tree),
        source.same path = true := by
  have run (pending : List Path) : (∃ kept ∈ events.foldl (collect scope tree) pending,
      kept.same path = true) ↔ (∃ waiting ∈ pending, waiting.same path = true) ∨
        ∃ event ∈ events, ∃ source ∈ scope.sourcesAmong (event.findings scope tree),
          source.same path = true := by
    -- The induction follows the events, each of which adds to what waits.
    induction events generalizing pending with
    | nil => simp
    | cons event rest ih =>
      rw [List.foldl_cons, ih, exists_collect_iff, or_assoc, List.exists_mem_cons_iff]
  rw [sources, run]
  simp

/-- After some events exactly those sources wait that have appeared with a change among them.

Only those in a directory that was moved to where it is are left out. -/
theorem sources_appeared (formed : tree.WellFormed) (plain : tree.Plain) (events : List Event)
    (path : Path) : (∃ kept ∈ sources scope tree events, kept.same path = true) ↔
      ∃ event ∈ events, event.isChange = true ∧ ∃ source : Path, source.same path = true ∧
        Appeared scope tree event source ∧ (event.kind = .renamedTo → source ∈ event.paths) := by
  rw [exists_sources_iff]
  refine exists_congr fun event => and_congr_right fun _ => ?_
  simp only [mem_sourcesAmong_findings formed plain]
  -- The two sides name the change and the source in another order.
  constructor
  · rintro ⟨source, ⟨change, appeared⟩, same⟩
    exact ⟨change, source, same, appeared⟩
  · rintro ⟨change, source, same, appeared⟩
    exact ⟨source, ⟨change, appeared⟩, same⟩

/-- After a change exactly those sources wait that waited before or have appeared with it, each once and in order.

Only those in a directory that was moved to where it is are left out. -/
theorem collect_appeared (formed : tree.WellFormed) (plain : tree.Plain)
    (change : event.isChange = true) :
    (collect scope tree pending event).Pairwise (fun first second => first.order second = .lt) ∧
    ∀ path : Path, (∃ kept ∈ collect scope tree pending event, kept.same path = true) ↔
      (∃ waiting ∈ pending, waiting.same path = true) ∨
        ∃ source : Path, source.same path = true ∧ Appeared scope tree event source ∧
          (event.kind = .renamedTo → source ∈ event.paths) := by
  refine ⟨Path.pairwise_sorted _, fun path => ?_⟩
  -- A path is kept if its steps waited before or are those of a source of the event.
  rw [exists_collect_iff]
  simp only [mem_sourcesAmong_findings formed plain, change, true_and, and_comm]

/-- A source in a directory below one of sources. -/
def housed : Tree Unit :=
  ((Tree.empty.put ["c"] .directory).put ["c", "amy"] .directory).put ["c", "amy", "day.solver"] (.file ())

/-- The scope of the directory above that of the source. -/
def household : Scope :=
  ⟨hasExtension "solver", [⟨"/c"⟩]⟩

/-- Each entry of the housed source is in a directory that was there before, and has a name. -/
theorem wellFormed_housed : housed.WellFormed ∧ housed.Plain := by
  have named (text : String) (some : text.toList ≠ [] ∧ text.toList ≠ ['.'] ∧ '/' ∉ text.toList) :
      IsName text := some
  -- Each entry comes to a place in a directory where nothing is.
  have top := @Tree.WellFormed.put Unit Tree.empty [] Tree.wellFormed_empty .directory "c" rfl
    (named _ (by decide)) nofun
  have middle := @Tree.WellFormed.put Unit _ ["c"] top .directory "amy" rfl (named _ (by decide)) nofun
  have bottom := @Tree.WellFormed.put Unit _ ["c", "amy"] middle (.file ()) "day.solver" rfl
    (named _ (by decide)) nofun
  have plain : (Tree.empty : Tree Unit).Plain := Tree.Built.empty.plain
  exact ⟨bottom, ((plain.put (by decide)).put (by decide)).put (by decide)⟩

/-- The housed source has appeared with an event that its directory is new. -/
theorem appeared_housed {kind : EventKind} (new : kind = .created ∨ kind = .renamedTo) :
    Appeared household housed ⟨kind, [⟨"/c/amy"⟩]⟩ ⟨"/c/amy/day.solver"⟩ := by
  have leads : housed.locate ⟨"/c/amy"⟩ = .ok ["c", "amy"] := by cbv
  have directory : housed.isDirectory ⟨"/c/amy"⟩ = true := by cbv
  have file : housed.isFile ⟨"/c/amy/day.solver"⟩ = true := by cbv
  -- The way down to the file has no directory between.
  have below : housed.LiesBelow ⟨"/c/amy"⟩ ⟨"/c/amy/day.solver"⟩ :=
    ⟨⟨"/c/amy"⟩, ["c", "amy"], [], "day.solver", .start leads rfl, by decide, by decide +kernel, file⟩
  exact ⟨by cbv, file, .inr ⟨new, ⟨"/c/amy"⟩, List.mem_singleton_self _, directory, below⟩⟩

/-- The housed source waits after an event that its directory was created. -/
theorem collect_appeared_housed :
    housed.WellFormed ∧ housed.Plain ∧ (⟨.created, [⟨"/c/amy"⟩]⟩ : Event).isChange = true ∧
      ∃ kept ∈ collect household housed [] ⟨.created, [⟨"/c/amy"⟩]⟩,
        kept.same ⟨"/c/amy/day.solver"⟩ = true := by
  obtain ⟨formed, plain⟩ := wellFormed_housed
  have change : (⟨.created, [⟨"/c/amy"⟩]⟩ : Event).isChange = true := by decide
  refine ⟨formed, plain, change, ?_⟩
  -- The directory was made with the source in it, and no path was renamed.
  refine ((collect_appeared formed plain change).2 _).mpr (.inr ⟨_, ?_, appeared_housed (.inl rfl), ?_⟩)
  · exact Path.same_iff.mpr rfl
  · intro moved
    cases moved

/-- The housed source does not wait after an event that its directory was moved to its place. -/
theorem not_collected_moved :
    housed.WellFormed ∧ housed.Plain ∧ (⟨.renamedTo, [⟨"/c/amy"⟩]⟩ : Event).isChange = true ∧
      Appeared household housed ⟨.renamedTo, [⟨"/c/amy"⟩]⟩ ⟨"/c/amy/day.solver"⟩ ∧
      collect household housed [] ⟨.renamedTo, [⟨"/c/amy"⟩]⟩ = [] := by
  have directory : housed.isFile ⟨"/c/amy"⟩ = false := by cbv
  -- The path of the event is not one of a file, and is not scanned.
  have nothing : findings household housed ⟨.renamedTo, [⟨"/c/amy"⟩]⟩ = [] := by
    simp [findings, findingsAt, directory]
  refine ⟨wellFormed_housed.1, wellFormed_housed.2, by decide, appeared_housed (.inr rfl), ?_⟩
  simp [collect, nothing, Scope.sourcesAmong, Path.sorted, Path.dropRepeats]

end SolverHub.Event
