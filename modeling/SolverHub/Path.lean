import SolverHub.Text.Lines

/-! A path is a text whose components count, so that repeated slashes and single dots make no difference. -/

namespace SolverHub

/-- A path as it was written. -/
structure Path where
  /-- The text of the path. -/
  text : String
deriving DecidableEq, Repr, Inhabited

/-- A step of a path. -/
inductive Component
  /-- The root of all absolute paths. -/
  | root
  /-- The directory from which a relative path starts, where it is written. -/
  | here
  /-- The directory above. -/
  | up
  /-- A name in a directory. -/
  | name (name : String)
deriving DecidableEq, Repr

namespace Component

/-- The step that a field between slashes stands for, unless it is empty or a dot. -/
def ofField? (field : List Char) : Option Component :=
  if field = [] ∨ field = ['.'] then none
  else if field = ['.', '.'] then some up
  else some (name (String.ofList field))

/-- Steps are ordered by their kind first, and names by their code points. -/
def order : Component → Component → Ordering
  | root, root | here, here | up, up => .eq
  | root, _ => .lt
  | _, root => .gt
  | here, _ => .lt
  | _, here => .gt
  | up, _ => .lt
  | _, up => .gt
  | name first, name second => compare first second

/-- The name of a step that is one. -/
def name? : Component → Option String
  | name text => some text
  | _ => none

end Component

namespace Path

/-- The fields of a path between its slashes. -/
def fields (path : Path) : List (List Char) :=
  Text.fields '/' path.text.toList

/-- The step that a path starts with where its first field is empty or a dot. -/
def lead? (path : Path) : Option Component :=
  match path.text.toList, path.fields with
  | '/' :: _, _ => some .root
  | _, ['.'] :: _ => some .here
  | _, _ => none

/-- The steps of a path. -/
def components (path : Path) : List Component :=
  path.lead?.toList ++ path.fields.filterMap Component.ofField?

/-- A path starts at the root. -/
def isAbsolute (path : Path) : Bool :=
  path.text.toList.head? == some '/'

/-- Two paths have the same steps. -/
def same (first second : Path) : Bool :=
  first.components == second.components

/-- The order of two lists of steps, of which a shorter one comes before its continuations. -/
def orderComponents : List Component → List Component → Ordering
  | [], [] => .eq
  | [], _ :: _ => .lt
  | _ :: _, [] => .gt
  | first :: firsts, second :: seconds =>
    (first.order second).then (orderComponents firsts seconds)

/-- Paths are ordered step by step. -/
def order (first second : Path) : Ordering :=
  orderComponents first.components second.components

/-- The steps left after leading ones, if a list of steps starts with them. -/
def dropComponents? : List Component → List Component → Option (List Component)
  | [], rest => some rest
  | _ :: _, [] => none
  | expected :: base, step :: rest => if expected = step then dropComponents? base rest else none

/-- The steps of a path below another one. -/
def below? (path base : Path) : Option (List Component) :=
  dropComponents? base.components path.components

/-- The fields left after those of some steps, if the fields start with them. -/
def dropFields? : List Component → List (List Char) → Option (List (List Char))
  | [], fields => some fields
  | _ :: _, [] => none
  | expected :: base, field :: fields =>
    match Component.ofField? field with
    | none => dropFields? (expected :: base) fields
    | some step => if step = expected then dropFields? base fields else none

/-- A path is another one or lies below it. -/
def startsWith (path base : Path) : Bool :=
  (path.below? base).isSome

/-- A path continued by another one, which replaces it if it is absolute. -/
def join (base path : Path) : Path :=
  if path.isAbsolute then path
  else if base.text.isEmpty || base.text.toList.getLast? == some '/' then
    ⟨base.text ++ path.text⟩
  else ⟨base.text ++ "/" ++ path.text⟩

/-- The fields in front of those at the end that are no steps. -/
def trimFields (fields : List (List Char)) : List (List Char) :=
  (fields.reverse.dropWhile fun field => (Component.ofField? field).isNone).reverse

/-- The text of a path from its first step and the fields after it. -/
def ofFields (lead : Option Component) (fields : List (List Char)) : Path :=
  let body := String.ofList ("/".toList.intercalate fields)
  match lead with
  | some .root => ⟨"/" ++ body⟩
  | some .here => if fields.isEmpty then ⟨"."⟩ else ⟨"./" ++ body⟩
  | _ => ⟨body⟩

/-- The path as it is written, without the parts at its end that are no steps. -/
def withoutTail (path : Path) : Path :=
  let lead := path.lead?
  ofFields lead (trimFields (if lead.isSome then path.fields.tail else path.fields))

/-- The path below another one as it is written, without the parts at its ends that are no steps. -/
def restBelow? (path base : Path) : Option Path :=
  -- Below a path without steps everything is left, the root included.
  if base.components = [] then some path.withoutTail
  else if path.lead? = base.lead? then
    (dropFields? (base.fields.filterMap Component.ofField?) path.fields).map fun fields =>
      let body := fields.dropWhile fun field => (Component.ofField? field).isNone
      ⟨String.ofList ("/".toList.intercalate (trimFields body))⟩
  else none

/-- The path without its last step, if it has one other than the root. -/
def parent? (path : Path) : Option Path :=
  let lead := path.lead?
  let body := if lead.isSome then path.fields.tail else path.fields
  match (trimFields body).reverse with
  | _ :: before => some (ofFields lead (trimFields before.reverse))
  | [] => if lead = some .here then some ⟨""⟩ else none

/-- A path and the paths above it, up to a number of them. -/
def ancestorsWithin : Nat → Path → List Path
  | 0, path => [path]
  | steps + 1, path =>
    match path.parent? with
    | some parent => path :: ancestorsWithin steps parent
    | none => [path]

/-- A path and all paths above it, the nearest first. -/
def ancestors (path : Path) : List Path :=
  ancestorsWithin (path.components.length) path

/-- The last name of a path that ends with a name. -/
def fileName? (path : Path) : Option String :=
  path.components.getLast?.bind Component.name?

/-- The text after the last dot of a file name that has another character before it. -/
def extension? (path : Path) : Option String := do
  let name ← path.fileName?
  let parts := Text.fields '.' name.toList
  -- A name whose only dot comes first is hidden and has no extension.
  if parts.length < 2 || parts.dropLast == [[]] then none
  else return String.ofList (← parts.getLast?)

/-- Paths in order, with equal neighbours taken once. -/
def dropRepeats : List Path → List Path
  | [] => []
  | [path] => [path]
  | first :: second :: rest =>
    if first.same second then dropRepeats (first :: rest) else first :: dropRepeats (second :: rest)

/-- The distinct paths of a list in order, the first of equal ones standing for all. -/
def sorted (paths : List Path) : List Path :=
  dropRepeats (paths.mergeSort fun first second => (first.order second).isLE)

end Path

end SolverHub
