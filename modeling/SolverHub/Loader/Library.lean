import SolverHub.Loader.Compiler

/-! A shared library is a plugin if it tells its version and has an entry point that hands out problem sets. -/

namespace SolverHub

/-- What a shared library offers. -/
structure Library where
  /-- The version of the interface that the library was built for, if it tells one. -/
  version : Option Nat
  /-- The sets that the entry point hands out, if there is one. -/
  entry : Option (List ProblemSet)

/-- The content of a file that may be a shared library. -/
inductive Image
  | text (content : String)
  | library (library : Library)

namespace Library

/-- The version of the interface. -/
def hostVersion : Nat := 1

/-- The extension of shared libraries. -/
def extension : String := "so"

/-- The sets that a library hands out, or the first thing that is wrong with it. -/
def sets (library : Library) : Except String (List ProblemSet) :=
  match library.version with
  | none => .error "not a puzzle plugin"
  | some version =>
    if version ≠ hostVersion then
      .error ("plugin ABI version " ++ Text.natText version ++ ", host expects " ++
        Text.natText hostVersion)
    else match library.entry with
      | none => .error "missing entry point"
      | some [] => .error "plugin exports no problem sets"
      | some sets => .ok sets

/-- The sets in an image, which can only be loaded if it is a library. -/
def setsOf : Option Image → Except String (List ProblemSet)
  | none => .error "copying to"
  | some (.text _) => .error "loading failed"
  | some (.library library) => library.sets

/-- The compiler for shared libraries. -/
def compiler : Compiler Image :=
  ⟨hasExtension extension, fun path image => (setsOf image).mapError fun fault => ⟨path, [fault]⟩⟩

end Library

end SolverHub
