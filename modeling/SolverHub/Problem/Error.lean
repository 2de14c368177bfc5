import SolverHub.Text.Lines

/-! A failed problem tells its own text and the texts of the causes below it on one line. -/

namespace SolverHub

/-- An error from elsewhere, with the texts of the errors below it in order. -/
structure Cause where
  /-- The text of the error itself. -/
  text : String
  /-- The texts of its sources, the nearest first. -/
  sources : List String
deriving DecidableEq, Repr

/-- An input does not have the form that a problem needs. -/
inductive ParseError
  | invalidFormat (message : String)
  | missingData (message : String)
  | other (message : String)
deriving DecidableEq, Repr

/-- A parsed input does not lead to an answer. -/
inductive SolveError
  /-- There is no answer for the input. -/
  | noSolution (message : String)
  /-- Something broke while solving. -/
  | solveFailed (cause : Cause)
deriving DecidableEq, Repr

/-- A problem ends without an answer. -/
inductive ProblemError
  | parse (error : ParseError)
  | solve (error : SolveError)
  | other (cause : Cause)
deriving DecidableEq, Repr

/-- The text of a parse error. -/
def ParseError.message : ParseError → String
  | .invalidFormat message => "Invalid format: " ++ message
  | .missingData message => "Missing data: " ++ message
  | .other message => "Parse error: " ++ message

/-- The text of a solve error. -/
def SolveError.message : SolveError → String
  | .noSolution message => "No solution: " ++ message
  | .solveFailed cause => "Solve failed: " ++ cause.text

namespace ProblemError

/-- An error with nothing but a message. -/
def msg (message : String) : ProblemError := .other ⟨message, []⟩

/-- The text of the error itself. -/
def message : ProblemError → String
  | parse error => error.message
  | solve error => error.message
  | other cause => cause.text

/-- The texts of the errors below it, the nearest first. -/
def sources : ProblemError → List String
  | parse _ => []
  | solve (.noSolution _) => []
  | solve (.solveFailed cause) => cause.text :: cause.sources
  | other cause => cause.sources

/-- A text ends with another. -/
def endsWith (text ending : String) : Bool :=
  (Text.dropTrailing? ending.toList text.toList).isSome

/-- The texts that say more than the last one kept before them. -/
def keepNews (last : String) : List String → List String
  | [] => []
  | text :: rest => if endsWith last text then keepNews last rest else text :: keepNews text rest

/-- The texts of an error and its sources, without those that the last one kept already ends with. -/
def chainTexts (error : ProblemError) : List String :=
  error.message :: keepNews error.message error.sources

/-- The error and its sources on one line. -/
def chain (error : ProblemError) : String :=
  ": ".intercalate error.chainTexts

end ProblemError

end SolverHub
