import SolverHub.Hub.Basic

/-! A watched hub loads a source again whenever its file appears or changes. -/

namespace SolverHub.Hub

/-- The directory that is watched in place of one that does not exist is told of. -/
def tellTarget (tree : Tree Image) (root : Path) : Logged Unit :=
  match Scope.nearest? tree.isDirectory root with
  | none =>
    .entry .warn .loader "no existing ancestor of collection directory; not watching"
      [("dir", root.text)]
  | some ancestor =>
    if ancestor.same root then .quiet ()
    else .entry .warn .loader "collection directory does not exist yet; watching its ancestor"
      [("dir", root.text), ("ancestor", ancestor.text)]

/-- The end of a watch. -/
def stopWatch (hub : Hub) : Logged Hub := do
  if hub.watch.isSome then .entry .debug .loader "file watcher closed" []
  return { hub with watch := none }

/-- The directories of sources are watched from now on. -/
def startWatch (hub : Hub) : Logged Hub := do
  hub.scope.roots.forM (tellTarget hub.tree)
  let targets := hub.scope.targets hub.tree.isDirectory
  targets.forM fun target =>
    .entry .info .loader "watching for solver sources" [("dir", target.text)]
  return { hub with watch := some (Watch.start hub.tree targets) }

/-- The files change, and the watch takes notice. -/
def change (hub : Hub) (operation : Tree Image → Except Fault (Tree Image × List Touch)) :
    Except Fault Hub := do
  let (tree, touches) ← operation hub.tree
  return { hub with
    tree := tree
    watch := hub.watch.map fun watch => touches.foldl (Watch.touch tree) watch }

/-- A source is loaded again, and keeps its previous definitions where that fails. -/
def reload (hub : Hub) (path : Path) : Logged Hub := do
  match ← hub.loadFile path with
  | (loaded, .ok merged) =>
    .entry .info .loader "reloaded solver source"
      [("path", path.text), ("merged", Text.natText merged)]
    return loaded
  | (kept, .error error) =>
    .entry .error .loader "reload failed; keeping previous definitions"
      [("path", path.text), ("error", error.message)]
    return kept

/-- The faults of the scans that an event leads to are passed over. -/
def passOverEvent (hub : Hub) (event : Event) : Logged Unit :=
  event.paths.forM fun path =>
    ((event.findingsAt hub.scope hub.tree path).filterMap Finding.fault?).forM (passOver path)

/-- The events that the watch has taken notice of are handled together. -/
def settle (hub : Hub) : Logged Hub := do
  match hub.watch with
  | none => return hub
  | some watch =>
    (watch.events.filter Event.isChange).forM (passOverEvent hub)
    let idle := { hub with watch := some { watch with events := [] } }
    (Event.sources hub.scope hub.tree watch.events).foldlM reload idle

end SolverHub.Hub
