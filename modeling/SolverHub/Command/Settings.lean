import SolverHub.Command.Line
import SolverHub.Files.Tree
import SolverHub.Hub.Error

/-! The settings of a server are what its command line gives, with defaults for the rest. -/

namespace SolverHub

/-- The surroundings in which a command line is understood. -/
structure Surroundings where
  /-- The directory from which relative paths start. -/
  current : Path
  /-- The home directory, if it is known. -/
  home : Option Path

/-- The settings of a server. -/
structure Settings where
  /-- Where to listen. -/
  bind : Address
  /-- The directory below which the collections have theirs. -/
  solversDir : Path
  /-- The number of workers, if it is given. -/
  threads : Option Nat
  /-- Whether files are watched. -/
  watch : Bool
  /-- The milliseconds without a change after which files are loaded again. -/
  debounce : Nat
  /-- The tags that built-in sets must have. -/
  tags : List String
  /-- The filter for log entries. -/
  logLevel : String
  /-- Whether log entries are written as JSON. -/
  logJson : Bool
deriving DecidableEq, Repr

namespace Settings

/-- A path that starts with a tilde starts at home. -/
def expand (home : Option Path) (path : Path) : Path :=
  match home, path.text.toList with
  | some home, ['~'] => home.join ⟨""⟩
  | some home, '~' :: '/' :: rest =>
    home.join ⟨String.ofList (rest.dropWhile (· = '/'))⟩
  | _, _ => path

/-- The path without links and dots if it leads somewhere, and otherwise as it is from the current directory. -/
def resolve {α : Type} (tree : Tree α) (current path : Path) : Path :=
  let whole := current.join path
  match tree.locate whole with
  | .ok location => ⟨"/" ++ "/".intercalate location⟩
  | .error _ => whole

/-- The address to listen on where none is given. -/
def defaultBind : Address := ⟨.short [127, 0, 0, 1], 5000⟩

/-- The directory of all solvers where none is given. -/
def defaultSolvers : Path := ⟨"./solvers"⟩

/-- The settings that a command line leads to. -/
def ofLine {α : Type} (surroundings : Surroundings) (tree : Tree α) (line : CommandLine) :
    Except HubError Settings :=
  if line.threads = some 0 then .error (.config "--threads must be at least 1")
  else
    let directory := line.solversDir.getD defaultSolvers
    .ok {
      bind := line.bind.getD defaultBind
      solversDir := resolve tree surroundings.current (expand surroundings.home directory)
      threads := line.threads
      watch := line.noWatch.isNone
      debounce := line.debounce.getD 250
      tags := line.tags
      logLevel := line.logLevel.getD "info"
      logJson := line.logJson.isSome }

end Settings

end SolverHub
