import SolverHub.Loader.Compiler
import SolverHub.Proofs.Files.Above
import SolverHub.Proofs.Files.Below

/-! The targets of a watch lie apart, and what lies below a directory that can be watched lies below one of them. -/

namespace SolverHub

namespace Path

/-- A path does not come before those that it is at or below. -/
theorem isLE_of_startsWith {path above : Path} (below : path.startsWith above = true) :
    (above.order path).isLE := by
  have least (steps more : List Component) : (orderComponents steps (steps ++ more)).isLE := by
    -- The induction follows the common steps, after which one side may be at its end.
    induction steps with
    | nil => cases more <;> rfl
    | cons step steps ih =>
      have same : step.order step = .eq := Std.ReflCmp.compare_self
      rw [List.cons_append, orderComponents, same]
      exact ih
  obtain ⟨more, split⟩ := startsWith_iff.mp below
  rw [order, ← split]
  exact least above.components more

/-- Two paths lie apart if neither is at or below the other one. -/
def Apart (first second : Path) : Prop :=
  first.startsWith second = false ∧ second.startsWith first = false

end Path

/-- Whether there is a directory does not depend on how its path is written. -/
theorem Tree.respects_isDirectory {α : Type} (tree : Tree α) : Respects tree.isDirectory := by
  -- Where one path leads to a directory, every path with its steps does.
  have forth (first second : Path) (same : first.components = second.components)
      (directory : tree.isDirectory first = true) : tree.isDirectory second = true := by
    obtain ⟨location, found, stands⟩ := isDirectory_iff.mp directory
    exact isDirectory_iff.mpr ⟨location, locate_directory same found stands, stands⟩
  intro first second same
  have steps := Path.same_iff.mp same
  exact Bool.eq_iff_iff.mpr ⟨forth first second steps, forth second first steps.symm⟩

namespace Scope

section Covering

variable {seen kept paths : List Path} {path : Path}

/-- Some paths are kept of those that were seen, so that each one seen is at or below one that is kept. -/
structure Covering (seen kept : List Path) : Prop where
  /-- Only paths that were seen are kept. -/
  among : ∀ target ∈ kept, target ∈ seen
  /-- Each path seen is at or below one that is kept. -/
  covers : ∀ path ∈ seen, ∃ target ∈ kept, path.startsWith target = true
  /-- No path that is kept is at or below another one. -/
  apart : kept.Pairwise Path.Apart

/-- One more path, behind those seen before, is kept or below one that is kept. -/
theorem Covering.step (covering : Covering seen kept)
    (behind : ∀ earlier ∈ seen, earlier.order path = .lt) :
    Covering (seen ++ [path]) (keepCovering kept path) := by
  unfold keepCovering
  split
  · -- A path kept before is at or above the new one.
    rename_i covered
    obtain ⟨target, member, below⟩ := List.any_eq_true.mp covered
    refine ⟨fun other stays => List.mem_append_left _ (covering.among other stays), fun other new => ?_,
      covering.apart⟩
    rcases List.mem_append.mp new with earlier | last
    · exact covering.covers other earlier
    · exact ⟨target, member, List.mem_singleton.mp last ▸ below⟩
  · rename_i uncovered
    have left : ∀ target ∈ kept, path.startsWith target = false := by
      simpa using uncovered
    refine ⟨fun other stays => ?_, fun other new => ?_, List.pairwise_append.mpr
      ⟨covering.apart, List.pairwise_singleton _ _, fun target member last same => ?_⟩⟩
    · rcases List.mem_append.mp stays with earlier | last
      · exact List.mem_append_left _ (covering.among other earlier)
      · exact List.mem_append_right _ last
    · rcases List.mem_append.mp new with earlier | last
      · obtain ⟨target, member, below⟩ := covering.covers other earlier
        exact ⟨target, List.mem_append_left _ member, below⟩
      · exact ⟨other, List.mem_append_right _ last,
          Path.startsWith_iff.mpr (List.prefix_refl _)⟩
    · -- What comes before the new path cannot be below it.
      cases List.mem_singleton.mp same
      refine ⟨?_, left target member⟩
      rw [← Bool.not_eq_true]
      intro below
      have order := Path.isLE_of_startsWith below
      have first := behind target (covering.among target member)
      rw [show path.order target = (target.order path).swap from Std.OrientedCmp.eq_swap, first] at order
      cases order

/-- Paths in strict order are covered by those that are kept of them. -/
theorem Covering.run (covering : Covering seen kept)
    (ordered : (seen ++ paths).Pairwise fun first second => first.order second = .lt) :
    Covering (seen ++ paths) (paths.foldl keepCovering kept) := by
  -- The induction follows the paths, each of which is behind all that were seen before.
  induction paths generalizing seen kept with
  | nil => rwa [List.append_nil]
  | cons path rest ih =>
    have behind : ∀ earlier ∈ seen, earlier.order path = .lt := fun earlier member =>
      (List.pairwise_append.mp ordered).2.2 earlier member path List.mem_cons_self
    rw [List.append_cons] at ordered ⊢
    exact ih (covering.step behind) ordered

end Covering

variable {scope : Scope} {isDirectory : Path → Bool}

/-- The targets cover the nearest directories of all roots. -/
theorem covering_targets (scope : Scope) (isDirectory : Path → Bool) :
    Covering (Path.sorted (scope.roots.filterMap (nearest? isDirectory))) (scope.targets isDirectory) :=
  -- Nothing has been seen at first, and so nothing needs to be covered.
  Covering.run ⟨fun _ none => absurd none List.not_mem_nil,
    fun _ none => absurd none List.not_mem_nil, .nil⟩ (Path.pairwise_sorted _)

/-- A directory at or above a path that is covered leads to a directory of the scope. -/
theorem leadsTo_of_covers {path directory : Path} (covered : scope.covers path = true)
    (below : path.startsWith directory = true) : scope.leadsTo directory = true := by
  rw [covers, Bool.and_eq_true, List.any_eq_true] at covered
  obtain ⟨_, root, member, inside⟩ := covered
  rw [leadsTo, List.any_eq_true]
  refine ⟨root, member, Bool.or_eq_true_iff.mpr ?_⟩
  -- Of two paths whose steps come first in the same path, one goes on from the other.
  rw [Path.startsWith_iff, Path.startsWith_iff]
  exact List.prefix_or_prefix_of_prefix (Path.startsWith_iff.mp inside) (Path.startsWith_iff.mp below)

/-- The targets lie apart, are nearest directories, and cover every directory of the scope that can be watched.

For each such directory the nearest one that exists, and every source in or below the directory, is at or below
a target; and whatever directory a source is at or below leads to the scope. -/
theorem targets_cover (scope : Scope) (respects : Respects isDirectory) :
    (scope.targets isDirectory).Pairwise Path.Apart ∧
    (∀ target ∈ scope.targets isDirectory,
      ∃ directory ∈ scope.directories, Nearest isDirectory directory target) ∧
    (∀ directory ∈ scope.directories,
      (∃ above : Path, isDirectory above = true ∧ above.IsAbove directory) →
        ∃ nearest, Nearest isDirectory directory nearest ∧
          ∃ target ∈ scope.targets isDirectory, nearest.startsWith target = true ∧
            ∀ path : Path, scope.accepts path = true → path.startsWith directory = true →
              path.startsWith target = true) ∧
    ∀ directory path : Path, scope.covers path = true → path.startsWith directory = true →
      scope.leadsTo directory = true := by
  obtain ⟨among, covered, apart⟩ := covering_targets scope isDirectory
  refine ⟨apart, fun target member => ?_, fun directory member exist => ?_,
    fun directory path => leadsTo_of_covers⟩
  · -- A target has been found upwards from a root.
    obtain ⟨root, listed, found⟩ := List.mem_filterMap.mp (Path.mem_of_mem_sorted (among target member))
    exact ⟨root, Path.mem_of_mem_sorted listed, nearest_of_nearest? respects found⟩
  · obtain ⟨above, present, isAbove⟩ := exist
    obtain ⟨root, listed, same⟩ := Path.exists_sorted member
    obtain ⟨nearest, found⟩ :=
      exists_nearest? respects present ((Path.isAbove_congr rfl same.symm).mp isAbove)
    have closest := (nearest_of_nearest? respects found).congr same
    obtain ⟨spelled, kept, steps⟩ := Path.exists_sorted (List.mem_filterMap.mpr ⟨root, listed, found⟩)
    obtain ⟨target, stays, below⟩ := covered spelled kept
    -- The nearest directory, however it is written, is below a target, and so is all below it.
    have inside : target.components <+: nearest.components := steps ▸ Path.startsWith_iff.mp below
    have upper := Path.startsWith_iff.mp closest.above.1
    refine ⟨nearest, closest, target, stays, Path.startsWith_iff.mpr inside,
      fun path _ lower => Path.startsWith_iff.mpr ?_⟩
    exact (inside.trans upper).trans (Path.startsWith_iff.mp lower)

/-- Directories of sources, of which one is below another, one is written twice and one does not exist yet. -/
def scattered : Scope where
  accepts := hasExtension "solver"
  directories := [⟨"/srv/day/one"⟩, ⟨"/srv/days"⟩, ⟨"/srv//day/"⟩, ⟨"/srv/day"⟩, ⟨"/new/one/two"⟩]

/-- The directories that exist when some of the scattered ones do. -/
def standing (path : Path) : Bool :=
  [[], ["srv"], ["srv", "day"], ["srv", "day", "one"], ["srv", "days"], ["new"]].any fun names =>
    path.components == .root :: names.map .name

/-- The targets for the scattered directories lie apart, and one stands in for a directory that is missing. -/
theorem targets_cover_scattered :
    Respects standing ∧ standing ⟨"/new/one/two"⟩ = false ∧
    (scattered.targets standing).Pairwise Path.Apart ∧
    ∃ nearest, Nearest standing ⟨"/new/one/two"⟩ nearest ∧
      ∃ target ∈ scattered.targets standing, nearest.startsWith target = true ∧
        ∀ path : Path, scattered.accepts path = true → path.startsWith ⟨"/new/one/two"⟩ = true →
          path.startsWith target = true := by
  have respects : Respects standing := by
    intro first second same
    unfold standing
    rw [Path.same_iff.mp same]
  have member : (⟨"/new/one/two"⟩ : Path) ∈ scattered.directories := by decide
  have above : (⟨"/new"⟩ : Path).IsAbove ⟨"/new/one/two"⟩ := ⟨by decide +kernel, by decide +kernel⟩
  -- The directory above the missing one exists.
  have covered := targets_cover scattered respects
  refine ⟨respects, by decide +kernel, covered.1, ?_⟩
  exact covered.2.2.1 _ member ⟨⟨"/new"⟩, by decide +kernel, above⟩

end Scope

end SolverHub
