import SolverHub.Files.Scan
import SolverHub.Loader.Compiler

/-! A loader error tells what went wrong between a directory of sources and the sets in them. -/

namespace SolverHub

/-- What goes wrong while loading. -/
inductive LoaderError
  /-- A file does not compile. -/
  | compile (error : CompileError)
  /-- Changes of files cannot be noticed. -/
  | watch (message : String)
  /-- A part of a directory cannot be read. -/
  | scan (directory : Path) (fault : ScanFault)
deriving DecidableEq, Repr

/-- The wording of a loader error. -/
def LoaderError.message : LoaderError → String
  | .compile error => error.message
  | .watch message => "File watcher error: " ++ message
  | .scan directory fault => "Failed to scan " ++ directory.text ++ ": " ++ fault.message

end SolverHub
