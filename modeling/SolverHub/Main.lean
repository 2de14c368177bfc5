import SolverHub.Command.Serve
import SolverHub.Log.Record
import SolverHub.Update.Wire

/-! The program reads its command line and answers the request targets on its input, one to a line. -/

namespace SolverHub.Main

/-- The files below a directory, up to a number of levels, added to a tree. -/
def survey : Nat → IO.FS.DirEntry → Tree Image → IO (Tree Image)
  | 0, _, tree => return tree
  | levels + 1, entry, tree => do
    let path : Path := ⟨entry.path.toString⟩
    if ← entry.path.isDir then
      let made := (tree.makeDirectories path).toOption.elim tree (·.1)
      (← entry.path.readDir).foldlM (fun tree entry => survey levels entry tree) made
    else return ((tree.write path (.text "")).toOption.elim tree (·.1))

/-- The depth to which the directory of all solvers is looked through. -/
def surveyLevels : Nat := 32

/-- The machine on which the program runs. -/
def machine : IO Machine := do
  let current ← IO.currentDir
  let home ← IO.getEnv "HOME"
  return ⟨⟨⟨current.toString⟩, home.map Path.mk⟩, ← IO.getEnv "RUST_LOG", 1, fun _ => none⟩

/-- The directory of all solvers that some arguments name. -/
def solversOf (surroundings : Surroundings) (arguments : List String) : Path :=
  match CommandLine.ofArguments arguments with
  | .ok line => surroundings.current.join
      (Settings.expand surroundings.home (line.solversDir.getD Settings.defaultSolvers))
  | .error _ => surroundings.current

/-- The files that the server starts with. -/
def files (surroundings : Surroundings) (arguments : List String) : IO (Tree Image) := do
  let entry : IO.FS.DirEntry := ⟨← IO.currentDir, (solversOf surroundings arguments).text⟩
  if ← entry.path.pathExists then survey surveyLevels entry .empty else return .empty

/-- The entries that pass the filter are written. -/
def writeLog (settings : Settings) (filter : LogFilter) (log : List Entry) : IO Unit :=
  (log.filter filter.passes).forM fun entry =>
    IO.println (if settings.logJson then entry.record else entry.render)

/-- The line that answers a request. -/
def replyLine : Reply → String
  | .plain status .none => Text.natText status
  | .plain status (.text content) => Text.natText status ++ " " ++ content
  | .plain status (.json value) => Text.natText status ++ " " ++ value.render
  | .upgraded updates _ => "\n".intercalate (updates.map Update.encode)

/-- Each line of the input is answered until the input ends. -/
partial def answerLines (server : Server) (input : IO.FS.Stream) : IO Unit := do
  let line ← input.getLine
  if line.isEmpty then return
  let ⟨log, reply⟩ := server.answer ⟨"GET", line.trimAscii.toString, none⟩
  writeLog server.settings server.filter log
  IO.println (replyLine reply)
  answerLines server input

/-- The program ends without a server. -/
def finish (ending : Ending) : IO UInt32 := do
  IO.print ending.output
  IO.eprint ending.complaint
  return UInt32.ofNat ending.exitCode

/-- The program from its arguments to its exit code. -/
def run (arguments : List String) : IO UInt32 := do
  let machine ← machine
  let tree ← files machine.surroundings arguments
  match Server.prepare machine tree arguments with
  | .error ending => finish ending
  | .ok (settings, filter) =>
    let ⟨log, started⟩ := Server.start machine settings filter tree
    writeLog settings filter log
    match started with
    | .error ending => finish ending
    | .ok server =>
      answerLines server (← IO.getStdin)
      writeLog settings filter server.stop.log
      return 0

end SolverHub.Main

/-- The entry point of the program. -/
def main (arguments : List String) : IO UInt32 :=
  SolverHub.Main.run arguments
