import SolverHub.Hub.Reload

/-! A hub starts with the declared collections, the built-in sets and the plugins that it finds. -/

namespace SolverHub

/-- The settings that a hub starts with. -/
structure StartSettings where
  /-- The directory below which the collections have theirs. -/
  solvers : Path
  /-- The tags that built-in sets must have. -/
  tags : List String
  /-- Whether files are watched. -/
  watch : Bool
  /-- The number of workers. -/
  threads : Nat
deriving DecidableEq, Repr

namespace Hub

/-- A declared collection is told of. -/
def tellDeclared (collection : Collection) : Logged Unit :=
  .entry .info .app "declared collection"
    [("source", collection.source), ("year", yearText collection.year),
      ("dir", collection.directory.text)]

/-- The directory of all solvers is made, as far as that is possible. -/
def makeSolvers (hub : Hub) (solvers : Path) : Logged Hub := do
  match hub.change fun tree => tree.makeDirectories solvers with
  | .ok made => return made
  | .error fault =>
    .entry .warn .app "cannot create solvers directory"
      [("dir", solvers.text), ("error", fault.message)]
    return hub

/-- A hub over some files starts, with the number of its registry. -/
def start (settings : StartSettings) (tree : Tree Image) : Logged (Hub × Nat) := do
  let collections := BuiltIn.declarations.map fun declaration =>
    declaration.collectionUnder settings.solvers
  collections.forM tellDeclared
  let empty := { ofCollections collections Library.compiler with tree := tree }
  let (hall, registry) ← empty.hall.openRegistry (List.range collections.length)
  let (builtIn, _) ← { empty with hall := hall }.loadBuiltIns settings.tags
  let watched ← if settings.watch then do (← builtIn.makeSolvers settings.solvers).startWatch
    else .quiet builtIn
  let problems := (watched.hall.registry? registry).elim 0 fun registry => registry.index.size
  let (loaded, _) ← watched.loadAll
  .entry .info .app "solver registry ready"
    [("threads", Text.natText settings.threads), ("problems", Text.natText problems)]
  return (loaded, registry)

end Hub

end SolverHub
