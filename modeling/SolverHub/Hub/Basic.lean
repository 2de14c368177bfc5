import SolverHub.Catalogue.Hall
import SolverHub.Loader.Error
import SolverHub.Loader.Event
import SolverHub.Loader.Library
import SolverHub.Puzzles.BuiltIn

/-! A hub loads problem sets into its collections, from the program itself and from files. -/

namespace SolverHub

/-- The collections, the files with their compiler, and the watch over them. -/
structure Hub where
  /-- The collections and the registries over them. -/
  hall : Hall
  /-- The compiler for sources. -/
  compiler : Compiler Image
  /-- The files. -/
  tree : Tree Image
  /-- The watch, if there is one. -/
  watch : Option Watch

/-- The totals of loading all sources. -/
structure LoadReport where
  /-- The number of files that compiled. -/
  loaded : Nat
  /-- The number of files that did not. -/
  failed : Nat
  /-- The number of sets merged into all collections. -/
  merged : Nat
deriving DecidableEq, Repr

namespace Hub

/-- A hub over some collections, without files. -/
def ofCollections (collections : List Collection) (compiler : Compiler Image) : Hub :=
  ⟨.ofCollections collections, compiler, .empty, none⟩

/-- The files that are solver sources. -/
def scope (hub : Hub) : Scope :=
  ⟨hub.compiler.accepts, hub.hall.collections.map (·.directory)⟩

/-- The sets in a file. -/
def compile (hub : Hub) (path : Path) : Except CompileError (List ProblemSet) :=
  hub.compiler.compile path (hub.tree.read? path)

/-- Sets from one file are merged into every collection. -/
def mergeFile (hub : Hub) (path : Path) (sets : List ProblemSet) : Logged (Hub × Nat) := do
  let (numbered, sets) := hub.hall.number sets
  let (hall, merged) ← numbered.mergeAll (sets.map fun set => (.file path, set))
  return ({ hub with hall := hall }, merged)

/-- A source is compiled and merged into the collections that own it. -/
def loadFile (hub : Hub) (path : Path) : Logged (Hub × Except CompileError Nat) := do
  if hub.scope.covers path then
    match hub.compile path with
    | .error error => return (hub, .error error)
    | .ok sets =>
      let (loaded, merged) ← hub.mergeFile path sets
      .entry .info .loader "loaded solver source"
        [("path", path.text), ("sets", Text.natText sets.length), ("merged", Text.natText merged)]
      return (loaded, .ok merged)
  else
    .entry .debug .loader "ignoring path outside collection directories" [("path", path.text)]
    return (hub, .ok 0)

/-- One more source is loaded on top of a report, whatever becomes of it. -/
def loadNext (state : Hub × LoadReport) (path : Path) : Logged (Hub × LoadReport) := do
  let (hub, report) := state
  match ← hub.loadFile path with
  | (loaded, .ok merged) =>
    return (loaded, { report with loaded := report.loaded + 1, merged := report.merged + merged })
  | (kept, .error error) =>
    .entry .error .loader "failed to load solver source"
      [("path", path.text), ("error", error.message)]
    return (kept, { report with failed := report.failed + 1 })

/-- A fault of a scan is passed over. -/
def passOver (directory : Path) (fault : ScanFault) : Logged Unit :=
  .entry .warn .loader "skipping unreadable entry"
    [("error", (LoaderError.scan directory fault).message)]

/-- The faults of the scans of some directories are passed over. -/
def passOverAll (tree : Tree Image) (directories : List Path) : Logged Unit :=
  directories.forM fun directory =>
    ((tree.scan directory).filterMap Finding.fault?).forM (passOver directory)

/-- Every source below the directories that exist is loaded in order. -/
def loadAll (hub : Hub) : Logged (Hub × LoadReport) := do
  passOverAll hub.tree (hub.scope.roots.filter hub.tree.isDirectory)
  let (loaded, report) ← (hub.scope.sources hub.tree).foldlM loadNext (hub, ⟨0, 0, 0⟩)
  .entry .info .loader "initial solver load complete"
    [("loaded", Text.natText report.loaded), ("failed", Text.natText report.failed),
      ("merged", Text.natText report.merged)]
  return (loaded, report)

/-- The built-in sets with some tags are merged into every collection. -/
def loadBuiltIns (hub : Hub) (tags : List String) : Logged (Hub × Nat) := do
  let sets := BuiltIn.tagged tags
  let (hall, merged) ← hub.hall.mergeAll sets
  .entry .info .loader "registered built-in problem sets"
    [("available", Text.natText sets.length), ("merged", Text.natText merged)]
  return ({ hub with hall := hall }, merged)

end Hub

end SolverHub
