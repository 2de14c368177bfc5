import SolverHub.Catalogue.Declaration
import SolverHub.Puzzles.Calibration
import SolverHub.Puzzles.Dial
import SolverHub.Puzzles.LineCount
import SolverHub.Puzzles.Platform

/-! The built-in puzzles are three sets in two collections, and tags select among them. -/

namespace SolverHub

/-- A problem set that is part of the program. -/
structure BuiltIn where
  /-- The module that the set comes from. -/
  path : String
  /-- The tags by which the set can be selected. -/
  tags : List String
  /-- The set, which makes its problems anew for each reading. -/
  set : ProblemSet

namespace BuiltIn

/-- The source of all built-in puzzles. -/
def sourceName : String := "Advent of Code"

/-- The collections that the program declares. -/
def declarations : List Declaration :=
  [⟨sourceName, 2023, "puzzle_solutions::advent_of_code::year_2023"⟩,
    ⟨sourceName, 2025, "puzzle_solutions::advent_of_code::year_2025"⟩]

/-- The start of a day in December, or the epoch where there is no such day. -/
def release (year : Int) (day : Nat) : Instant :=
  (Instant.adventRelease? year day).getD Instant.epoch

/-- A set that makes its problems anew for each reading. -/
def remadeSet (name : String) (released : Instant) (problems : List Problem) : ProblemSet :=
  ⟨name, released, problems, true, 0⟩

/-- All built-in sets. -/
def all : List BuiltIn :=
  [⟨"puzzle_solutions::advent_of_code::year_2023::khang::day_01", ["khang", "parsing"],
      remadeSet "Day 1: Trebuchet?!" (release 2023 1) Calibration.problems⟩,
    ⟨"puzzle_solutions::advent_of_code::year_2023::khang::day_14", ["khang", "grid"],
      remadeSet "Day 14: Parabolic Reflector Dish" (release 2023 14) Platform.problems⟩,
    ⟨"puzzle_solutions::advent_of_code::year_2025::khang::day_01", ["khang", "dial"],
      remadeSet "Day 1: Secret Entrance" (release 2025 1) Dial.problems⟩]

/-- The sets that have all of some tags, with their origins. -/
def tagged (tags : List String) : List (Origin × ProblemSet) :=
  (all.filter fun builtIn => tags.all builtIn.tags.contains).map fun builtIn =>
    (.inside builtIn.path, builtIn.set)

/-- The sample set under the name of its revision. -/
def sample (revision : String) : ProblemSet :=
  remadeSet LineCount.setName (release 2024 1) (LineCount.problems revision)

/-- The revision of the sample set where none is named. -/
def defaultRevision : String := "dev"

end BuiltIn

end SolverHub
