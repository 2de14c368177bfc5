import SolverHub.Loader.Scope
import SolverHub.Proofs.Files.Below
import SolverHub.Proofs.Path

/-! The sources of a scope are the files below its directories that it accepts, each once and in order. -/

namespace SolverHub.Scope

variable {α : Type} {scope : Scope} {tree : Tree α}

/-- A scan leads to a source where it meets its file. -/
theorem mem_sourcesAmong {findings : List Finding} {path : Path} :
    path ∈ scope.sourcesAmong findings ↔ .file path ∈ findings ∧ scope.covers path = true := by
  rw [sourcesAmong, List.mem_filter, List.mem_filterMap]
  refine and_congr_left fun _ => ⟨?_, fun met => ⟨_, met, rfl⟩⟩
  -- Only a file can be a source, while directories and faults are passed over.
  rintro ⟨finding, met, file⟩
  cases finding <;> cases file
  exact met

/-- The sources of a scope come in strict order. -/
theorem pairwise_sources (scope : Scope) (tree : Tree α) :
    (scope.sources tree).Pairwise fun first second => first.order second = .lt :=
  -- The sources are sorted and repeats are dropped.
  Path.pairwise_sorted _

/-- A source is covered, and lies below a directory of the scope that exists. -/
theorem below_of_mem_sources (formed : tree.WellFormed) (plain : tree.Plain) {path : Path}
    (source : path ∈ scope.sources tree) :
    scope.covers path = true ∧ ∃ directory ∈ scope.directories,
      tree.isDirectory directory = true ∧ tree.LiesBelow directory path := by
  -- A source is met in the scan of one of the roots that exist.
  obtain ⟨root, present, among⟩ := List.mem_flatMap.mp (Path.mem_of_mem_sorted source)
  obtain ⟨member, directory⟩ := List.mem_filter.mp present
  obtain ⟨met, covered⟩ := mem_sourcesAmong.mp among
  exact ⟨covered, root, Path.mem_of_mem_sorted member, directory,
    (Tree.mem_scan_iff formed plain directory).mp met⟩

/-- A path that is accepted and starts with a directory of the scope is covered. -/
theorem covers_of_startsWith {path directory : Path} (accepted : scope.accepts path = true)
    (member : directory ∈ scope.directories) (below : path.startsWith directory = true) :
    scope.covers path = true := by
  -- One directory that the path starts with is enough.
  rw [covers, accepted, Bool.true_and, List.any_eq_true]
  exact ⟨directory, member, below⟩

/-- What lies below a directory of the scope that exists is a source, if it is accepted however it is spelled. -/
theorem exists_source (formed : tree.WellFormed) (plain : tree.Plain) {directory path : Path}
    (member : directory ∈ scope.directories) (exist : tree.isDirectory directory = true)
    (below : tree.LiesBelow directory path)
    (accepted : ∀ spelled : Path, spelled.same path → scope.accepts spelled = true) :
    ∃ source ∈ scope.sources tree, source.same path := by
  -- Of the directories with the same steps one stands for all, and files below it are met by a scan.
  obtain ⟨root, kept, same⟩ := Path.exists_sorted member
  obtain ⟨location, leads, stands⟩ := Tree.isDirectory_iff.mp exist
  have present : tree.isDirectory root = true :=
    Tree.isDirectory_iff.mpr ⟨location, Tree.locate_directory same.symm leads stands, stands⟩
  obtain ⟨spelled, steps, lies⟩ := below.respell formed plain same.symm
  have covered : scope.covers spelled = true :=
    covers_of_startsWith (accepted spelled (Path.same_iff.mpr steps.symm))
      (Path.mem_of_mem_sorted kept) (lies.startsWith formed plain)
  have met := (Tree.mem_scan_iff formed plain present).mpr lies
  have among : spelled ∈ (scope.roots.filter tree.isDirectory).flatMap fun root =>
      scope.sourcesAmong (tree.scan root) :=
    List.mem_flatMap.mpr ⟨root, List.mem_filter.mpr ⟨kept, present⟩,
      mem_sourcesAmong.mpr ⟨met, covered⟩⟩
  obtain ⟨source, sorted, equal⟩ := Path.exists_sorted among
  exact ⟨source, sorted, Path.same_iff.mpr (equal.trans steps.symm)⟩

end SolverHub.Scope
