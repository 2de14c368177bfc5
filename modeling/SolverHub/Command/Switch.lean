import SolverHub.Text.Lines

/-! A switch is one of the options of the command line, with its names and its help. -/

namespace SolverHub

/-- The options of the command line, in the order of their help. -/
inductive Switch
  | bind
  | solversDir
  | threads
  | noWatch
  | debounce
  | tags
  | logLevel
  | logJson
  | help
  | version
deriving DecidableEq, Repr

namespace Switch

/-- All switches in order. -/
def all : List Switch :=
  [bind, solversDir, threads, noWatch, debounce, tags, logLevel, logJson, help, version]

/-- The name after two dashes. -/
def longName : Switch → String
  | bind => "bind"
  | solversDir => "solvers-dir"
  | threads => "threads"
  | noWatch => "no-watch"
  | debounce => "reload-debounce-ms"
  | tags => "tags"
  | logLevel => "log-level"
  | logJson => "log-json"
  | help => "help"
  | version => "version"

/-- The letter after one dash. -/
def letter? : Switch → Option Char
  | bind => some 'b'
  | solversDir => some 's'
  | tags => some 't'
  | help => some 'h'
  | version => some 'V'
  | _ => none

/-- The name of the value, for a switch that takes one. -/
def valueName? : Switch → Option String
  | bind => some "BIND"
  | solversDir => some "SOLVERS_DIR"
  | threads => some "THREADS"
  | debounce => some "RELOAD_DEBOUNCE_MS"
  | tags => some "TAGS"
  | logLevel => some "LOG_LEVEL"
  | _ => none

/-- A switch takes a value. -/
def takesValue (switch : Switch) : Bool := switch.valueName?.isSome

/-- A switch may be given more than once. -/
def mayRepeat (switch : Switch) : Bool := switch = tags

/-- The value of a switch that is not given. -/
def defaultValue? : Switch → Option String
  | bind => some "127.0.0.1:5000"
  | solversDir => some "./solvers"
  | debounce => some "250"
  | logLevel => some "info"
  | _ => none

/-- What a switch is for. -/
def purpose : Switch → String
  | bind => "Address to listen on"
  | solversDir => "Root directory of hot-reloadable solver plugins"
  | threads => "Number of threads for solver execution"
  | noWatch => "Do not watch the solvers directory for changes"
  | debounce => "Quiet period for coalescing file change events, in milliseconds"
  | tags => "Tags to filter built-in problem sets (comma-separated)"
  | logLevel => "Log filter used when RUST_LOG is not set"
  | logJson => "Emit logs as JSON lines"
  | help => "Print help"
  | version => "Print version"

/-- The switch with a name after two dashes. -/
def ofLongName? (name : String) : Option Switch :=
  all.find? fun switch => switch.longName = name

/-- The switch with a letter after one dash. -/
def ofLetter? (letter : Char) : Option Switch :=
  all.find? fun switch => switch.letter? = some letter

/-- The names of a switch and its value, lined up with those of other switches. -/
def usage (switch : Switch) : String :=
  let short := switch.letter?.elim "    " fun letter => String.ofList ['-', letter, ',', ' ']
  let value := switch.valueName?.elim "" fun name => " <" ++ name ++ ">"
  "  " ++ short ++ "--" ++ switch.longName ++ value

/-- The help for a switch. -/
def helpText (switch : Switch) : String :=
  let shown := switch.defaultValue?.elim "" fun value => " [default: " ++ value ++ "]"
  switch.usage ++ "\n          " ++ switch.purpose ++ shown ++ "\n"

end Switch

/-- The name of the program. -/
def programName : String := "puzzled"

/-- The version of the program. -/
def programVersion : String := "0.2.0"

/-- The text that tells what the program does and what its switches are for. -/
def helpText : String :=
  "Serve puzzle solvers over WebSocket\n\nUsage: " ++ programName ++ " [OPTIONS]\n\nOptions:\n" ++
    String.join (Switch.all.map Switch.helpText)

/-- The text that tells the version of the program. -/
def versionText : String := programName ++ " " ++ programVersion ++ "\n"

end SolverHub
