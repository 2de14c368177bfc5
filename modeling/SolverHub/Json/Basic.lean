import SolverHub.Json.Magnitude

/-! A JSON value is read from its text by a lexer and a stack of open lists and objects. -/

namespace SolverHub

/-- A JSON value, whose objects keep their entries in the written order, repeated names included. -/
inductive Json
  /-- The word `null`. -/
  | null
  /-- One of the words `true` and `false`. -/
  | bool (value : Bool)
  /-- A number written without fraction and exponent, other than minus zero. -/
  | int (value : Int)
  /-- Any other number, as its sign and its magnitude. -/
  | real (negative : Bool) (magnitude : Json.Magnitude)
  /-- A string. -/
  | text (value : String)
  /-- A list of values. -/
  | list (items : List Json)
  /-- A list of named values. -/
  | object (entries : List (String × Json))
  /-- An object with a name of digits that is written with escapes. -/
  | disguised (entries : List (String × Json))
  /-- A string with half a pair of code units, or an object with such a name. -/
  | broken
deriving Inhabited

namespace Json

/-- An optional string, where none is written as `null`. -/
def ofText? : Option String → Json
  | none => null
  | some value => text value

/-- A number without fraction. -/
def ofNat (n : Nat) : Json := int n

/-- A list of strings. -/
def ofTexts (texts : List String) : Json := list (texts.map text)

/-- The named values of an object. -/
def entries? : Json → Option (List (String × Json))
  | object entries | disguised entries => some entries
  | _ => none

/-- The string of a string value. -/
def text? : Json → Option String
  | text value => some value
  | _ => none

/-- The truth value of a word. -/
def bool? : Json → Option Bool
  | bool value => some value
  | _ => none

mutual
/-- The number of lists and objects around the most deeply nested value. -/
def depth : Json → Nat
  | list items => itemsDepth items + 1
  | object entries | disguised entries => entriesDepth entries + 1
  | _ => 0

/-- The greatest depth among the items of a list. -/
def itemsDepth : List Json → Nat
  | [] => 0
  | item :: items => max (depth item) (itemsDepth items)

/-- The greatest depth among the values of an object. -/
def entriesDepth : List (String × Json) → Nat
  | [] => 0
  | (_, value) :: entries => max (depth value) (entriesDepth entries)
end

mutual
/-- Every string in a value is a text, and every number has a finite double. -/
def isReadable : Json → Bool
  | int value => (Magnitude.ofNat value.natAbs).isFinite
  | real _ magnitude => magnitude.isFinite
  | list items => areReadable items
  | object entries | disguised entries => haveReadable entries
  | broken => false
  | _ => true

/-- Every item of a list is readable. -/
def areReadable : List Json → Bool
  | [] => true
  | item :: items => isReadable item && areReadable items

/-- Every value in an object is readable. -/
def haveReadable : List (String × Json) → Bool
  | [] => true
  | (_, value) :: entries => isReadable value && haveReadable entries
end

end Json

end SolverHub
