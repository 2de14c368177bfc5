import SolverHub.Files.Scan

/-! A scope tells which files are solver sources, where to look for them and what to watch. -/

namespace SolverHub

/-- The files that are solver sources. -/
structure Scope where
  /-- A path has the form of a source. -/
  accepts : Path → Bool
  /-- The directories in and below which sources lie. -/
  directories : List Path

namespace Scope

/-- A path is that of a source. -/
def covers (scope : Scope) (path : Path) : Bool :=
  scope.accepts path && scope.directories.any path.startsWith

/-- The distinct directories of sources in order. -/
def roots (scope : Scope) : List Path :=
  Path.sorted scope.directories

/-- A directory is one of sources, lies below one or above one. -/
def leadsTo (scope : Scope) (directory : Path) : Bool :=
  scope.directories.any fun root => directory.startsWith root || root.startsWith directory

/-- The nearest existing directory at or above a path. -/
def nearest? (isDirectory : Path → Bool) (path : Path) : Option Path :=
  path.ancestors.find? isDirectory

/-- A path is kept unless a path kept before is equal to it or lies above it. -/
def keepCovering (kept : List Path) (path : Path) : List Path :=
  if kept.any path.startsWith then kept else kept ++ [path]

/-- The directories to watch, with all that lies below them. -/
def targets (scope : Scope) (isDirectory : Path → Bool) : List Path :=
  (Path.sorted (scope.roots.filterMap (nearest? isDirectory))).foldl keepCovering []

/-- The sources among what a scan met. -/
def sourcesAmong (scope : Scope) (findings : List Finding) : List Path :=
  (findings.filterMap Finding.file?).filter scope.covers

/-- The sources below the directories that exist, each once and in order. -/
def sources {α : Type} (scope : Scope) (tree : Tree α) : List Path :=
  Path.sorted <| (scope.roots.filter tree.isDirectory).flatMap fun root =>
    scope.sourcesAmong (tree.scan root)

end Scope

end SolverHub
