import SolverHub.Path
import SolverHub.Problem.Basic

/-! A compiler makes problem sets from the file at a path, or says what is wrong with it. -/

namespace SolverHub

/-- A file does not compile. -/
structure CompileError where
  /-- The path of the file. -/
  path : Path
  /-- What is wrong with the file. -/
  diagnostics : List String
deriving DecidableEq, Repr

/-- The wording of a compile error. -/
def CompileError.message (error : CompileError) : String :=
  "Failed to compile " ++ error.path.text ++ ": " ++ "; ".intercalate error.diagnostics

/-- A way to make problem sets from files. -/
structure Compiler (α : Type) where
  /-- A path has the form of a file to compile. -/
  accepts : Path → Bool
  /-- The sets in the file at a path, from its content where there is one, or what is wrong with it. -/
  compile : Path → Option α → Except CompileError (List ProblemSet)

/-- A compiler accepts exactly the paths with an extension. -/
def hasExtension (extension : String) (path : Path) : Bool :=
  path.extension? == some extension

end SolverHub
