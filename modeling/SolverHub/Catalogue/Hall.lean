import SolverHub.Catalogue.Index
import SolverHub.Catalogue.Validation

/-! A hall holds collections, the registries over them and the listeners that every merge calls in turn. -/

namespace SolverHub

/-- Somebody who is told of every merge into a collection. -/
inductive Listener
  /-- A registry, which rebuilds its index. -/
  | registry (number : Nat)
  /-- An observer with a name, who knows a registry or none. -/
  | observer (name : String) (registry : Option Nat)
deriving DecidableEq, Repr

/-- A collection with its listeners in the order of their subscription. -/
structure Shelf where
  /-- The collection. -/
  collection : Collection
  /-- Those who are told of merges into it. -/
  listeners : List Listener

/-- A registry over some collections. -/
structure Registry where
  /-- The number of the registry. -/
  number : Nat
  /-- The positions of its collections, in order. -/
  members : List Nat
  /-- The index as it was built last. -/
  index : Index

/-- What an observer sees after a merge. -/
structure Notice where
  /-- The name of the observer. -/
  name : String
  /-- The number of authors of the collection. -/
  authors : Nat
  /-- The number of their sets. -/
  sets : Nat
  /-- The number of problems in the registry that the observer knows, if it is still there. -/
  problems : Option Nat
deriving DecidableEq, Repr

/-- All collections and the registries over them. -/
structure Hall where
  /-- The collections in order. -/
  shelves : List Shelf
  /-- The registries that have not been closed. -/
  registries : List Registry
  /-- The number of registries that have been opened. -/
  opened : Nat
  /-- The number of indexes that have been built. -/
  editions : Nat
  /-- The number of problem sets that have been numbered. -/
  numbered : Nat
  /-- The notices that nobody has taken yet. -/
  notices : List Notice

namespace Hall

/-- A hall with collections and nothing else. -/
def ofCollections (collections : List Collection) : Hall :=
  ⟨collections.map fun collection => ⟨collection, []⟩, [], 0, 0, 0, []⟩

/-- The collections in order. -/
def collections (hall : Hall) : List Collection :=
  hall.shelves.map (·.collection)

/-- The collection at a position. -/
def collection? (hall : Hall) (position : Nat) : Option Collection :=
  hall.collections[position]?

/-- The registry with a number, unless it has been closed. -/
def registry? (hall : Hall) (number : Nat) : Option Registry :=
  hall.registries.find? fun registry => registry.number = number

/-- The collections of a registry in its order. -/
def membersOf (hall : Hall) (registry : Registry) : List Collection :=
  registry.members.filterMap hall.collection?

/-- The hall after each registry with a number has been changed. -/
def changeRegistry (hall : Hall) (number : Nat) (change : Registry → Registry) : Hall :=
  { hall with registries := hall.registries.map fun registry =>
      if registry.number = number then change registry else registry }

/-- A registry publishes an index of what its collections hold at this moment. -/
def publish (hall : Hall) (registry : Registry) : Hall :=
  let index := Index.build hall.editions (hall.membersOf registry)
  { hall.changeRegistry registry.number fun registry => { registry with index := index } with
    editions := hall.editions + 1 }

/-- A registry rebuilds its index, unless it has been closed. -/
def rebuild (hall : Hall) (number : Nat) : Logged Hall := do
  match hall.registry? number with
  | none => return hall
  | some registry =>
    let size := (Index.build hall.editions (hall.membersOf registry)).size
    .entry .debug .registry "problem index rebuilt" [("problems", Text.natText size)]
    return hall.publish registry

/-- The hall after the shelf at a position has been changed. -/
def changeShelf (hall : Hall) (position : Nat) (change : Shelf → Shelf) : Hall :=
  { hall with shelves := hall.shelves.modify position change }

/-- Somebody subscribes to the collection at a position. -/
def subscribe (hall : Hall) (position : Nat) (listener : Listener) : Hall :=
  hall.changeShelf position fun shelf => { shelf with listeners := shelf.listeners ++ [listener] }

/-- A registry over the collections at some positions is opened.

It subscribes once for each of its members before it builds its first index. -/
def openRegistry (hall : Hall) (members : List Nat) : Logged (Hall × Nat) := do
  let number := hall.opened
  let subscribed := members.foldl (fun hall member => hall.subscribe member (.registry number)) hall
  let rebuilt ← { subscribed with
    registries := subscribed.registries ++ [Registry.mk number members .empty]
    opened := number + 1 : Hall }.rebuild number
  return (rebuilt, number)

/-- A registry is closed, after which merges no longer reach it. -/
def closeRegistry (hall : Hall) (number : Nat) : Hall :=
  { hall with registries := hall.registries.filter fun registry => registry.number ≠ number }

/-- A listener is told of a merge into a collection. -/
def tell (collection : Collection) (hall : Hall) : Listener → Logged Hall
  | .registry number => hall.rebuild number
  | .observer name known =>
    let problems := (known.bind hall.registry?).map fun registry => registry.index.size
    .quiet { hall with notices := hall.notices ++
      [⟨name, collection.authors.length, collection.setCount, problems⟩] }

/-- Sets are merged into the collection at a position, and its listeners are told if any belonged there. -/
def merge (hall : Hall) (position : Nat) (incoming : List (Origin × ProblemSet)) :
    Logged (Hall × Nat) := do
  match hall.shelves[position]? with
  | none => return (hall, 0)
  | some shelf =>
    shelf.collection.mergeEntries incoming
    let (merged, count) := shelf.collection.merge incoming
    let changed := hall.changeShelf position fun shelf => { shelf with collection := merged }
    let told ← if count = 0 then .quiet changed else shelf.listeners.foldlM (tell merged) changed
    return (told, count)

/-- Sets are merged into the collections at some positions in turn. -/
def mergeEach (incoming : List (Origin × ProblemSet)) (hall : Hall) :
    List Nat → Logged (Hall × Nat)
  | [] => .quiet (hall, 0)
  | position :: rest => do
    let (merged, count) ← hall.merge position incoming
    let (last, counts) ← mergeEach incoming merged rest
    return (last, count + counts)

/-- Sets are merged into every collection. -/
def mergeAll (hall : Hall) (incoming : List (Origin × ProblemSet)) : Logged (Hall × Nat) :=
  hall.mergeEach incoming (List.range hall.shelves.length)

/-- Sets that have just been made get numbers of their own. -/
def number (hall : Hall) (sets : List ProblemSet) : Hall × List ProblemSet :=
  ({ hall with numbered := hall.numbered + sets.length },
    sets.zipIdx.map fun (set, position) => { set with serial := hall.numbered + position })

end Hall

namespace Registry

/-- The problem that an identifier leads to. -/
def get? (registry : Registry) (id : Identifier) : Option Listed :=
  registry.index.get? id

/-- A collection has a source and a year. -/
def hasSource (source : String) (year : Year) (collection : Collection) : Bool :=
  collection.year == year && collection.source == source

/-- The position in the hall of the first member with a source and a year. -/
def find? (hall : Hall) (registry : Registry) (source : String) (year : Year) : Option Nat :=
  registry.members.find? fun position => (hall.collection? position).any (hasSource source year)

/-- The descriptions of all members, by year. -/
def snapshot (hall : Hall) (registry : Registry) : Snapshot :=
  ⟨(hall.membersOf registry).foldl (fun years collection =>
    Keyed.alter collection.year (fun infos => infos.getD [] ++ [collection.info]) years) []⟩

/-- The descriptions of all members, if they are in order. -/
def validSnapshot (hall : Hall) (registry : Registry) : Except ValidationError Snapshot := do
  let snapshot := registry.snapshot hall
  snapshot.validate
  return snapshot

end Registry

end SolverHub
