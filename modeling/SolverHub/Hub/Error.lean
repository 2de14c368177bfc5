import SolverHub.Loader.Error

/-! A hub error keeps a hub from running. -/

namespace SolverHub

/-- What keeps a hub from running. -/
inductive HubError
  | config (message : String)
  | logging (message : String)
  | threadPool (message : String)
  | loader (error : LoaderError)
  | system (message : String)
deriving DecidableEq, Repr

/-- The wording of a hub error. -/
def HubError.message : HubError → String
  | .config message => "Configuration error: " ++ message
  | .logging message => "Logging setup failed: " ++ message
  | .threadPool message => "Thread pool creation failed: " ++ message
  | .loader error => "Loader error: " ++ error.message
  | .system message => "IO error: " ++ message

end SolverHub
