import SolverHub.Command.Settings
import SolverHub.Http.Reply
import SolverHub.Hub.Start
import SolverHub.Log.Filter

/-! The server starts from its command line, answers requests until it is stopped, and exits. -/

namespace SolverHub

/-- What the server depends on besides its command line. -/
structure Machine where
  /-- The directories in which the command line is understood. -/
  surroundings : Surroundings
  /-- The filter that comes before the one of the command line, if it is set. -/
  filter : Option String
  /-- The number of workers where none is given. -/
  cores : Nat
  /-- The reason for which an address cannot be listened at, if there is one. -/
  refuses : Address → Option String

/-- A server that runs. -/
structure Server where
  /-- The settings of the server. -/
  settings : Settings
  /-- The filter for log entries. -/
  filter : LogFilter
  /-- What the server serves. -/
  hub : Hub
  /-- The number of the registry that answers requests. -/
  registry : Nat

/-- The reasons for which the program ends without a server. -/
inductive Ending
  /-- The command line does not ask for a server. -/
  | usage (error : UsageError)
  /-- The server cannot run. -/
  | failed (error : HubError)
  /-- The program breaks down. -/
  | crashed
deriving DecidableEq, Repr

namespace UsageError

/-- The wording of a usage error. -/
def message : UsageError → String
  | unknownArgument => "unexpected argument"
  | invalidValue => "invalid value"
  | missingValue => "a value is required"
  | repeated => "an option cannot be used multiple times"
  | unexpectedValue => "unexpected value"
  | help => helpText
  | version => versionText

end UsageError

namespace Ending

/-- The exit code of the program. -/
def exitCode : Ending → Nat
  | usage .help | usage .version => 0
  | usage _ => 2
  | failed _ => 1
  | crashed => 101

/-- What the program writes to its output. -/
def output : Ending → String
  | usage .help => helpText
  | usage .version => versionText
  | _ => ""

/-- What the program complains about. -/
def complaint : Ending → String
  | usage .help | usage .version | crashed => ""
  | usage error => "error: " ++ error.message ++ "\n"
  | failed error => "Error: " ++ error.message ++ "\n"

/-- The ending when there is no filter. -/
def ofFilterFailure : FilterFailure → Ending
  | .refused error => failed (.logging error.message)
  | .crashed => crashed

end Ending

namespace Server

/-- The settings and the filter of a command line. -/
def prepare (machine : Machine) (tree : Tree Image) (arguments : List String) :
    Except Ending (Settings × LogFilter) := do
  let line ← (CommandLine.ofArguments arguments).mapError .usage
  let settings ← (Settings.ofLine machine.surroundings tree line).mapError .failed
  let filter ← (LogFilter.choose machine.filter settings.logLevel).mapError
    Ending.ofFilterFailure
  return (settings, filter)

/-- The settings that a hub starts with. -/
def startSettings (machine : Machine) (settings : Settings) : StartSettings :=
  ⟨settings.solversDir, settings.tags, settings.watch, settings.threads.getD machine.cores⟩

/-- The hub starts, and then the server listens if its address allows it. -/
def start (machine : Machine) (settings : Settings) (filter : LogFilter) (tree : Tree Image) :
    Logged (Except Ending Server) := do
  let (hub, registry) ← Hub.start (startSettings machine settings) tree
  match machine.refuses settings.bind with
  | some reason => return .error (.failed (.system reason))
  | none =>
    .entry .info .main "listening" [("addr", settings.bind.render)]
    return .ok ⟨settings, filter, hub, registry⟩

/-- The answer to a request, with the entries that pass the filter later. -/
def answer (server : Server) (request : Request) : Logged Reply :=
  match server.hub.hall.registry? server.registry with
  | some registry => Reply.answer server.hub.hall registry request
  | none => .quiet Reply.notFound

/-- The server stops. -/
def stop (server : Server) : Logged Unit := do
  let _ ← server.hub.stopWatch
  .entry .info .main "server stopped" []

end Server

end SolverHub
