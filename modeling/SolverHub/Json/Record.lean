import SolverHub.Json.Basic

/-! A record is read from an object by names or from a list by positions. -/

namespace SolverHub.Json

/-- The value under a name, where a repeated name is a fault and an absent one is none. -/
def uniqueField (entries : List (String × Json)) (name : String) : Option (Option Json) :=
  match entries.filter fun entry => entry.1 == name with
  | [] => some none
  | [entry] => some (some entry.2)
  | _ => none

/-- The values of a record's fields in order, with none for a field that an object leaves out.

A list names no fields, so it has one item for each of them. -/
def fieldsOf? (names : List String) : Json → Option (List (Option Json))
  | object entries | disguised entries => names.mapM (uniqueField entries)
  | list items => if items.length = names.length then some (items.map some) else none
  | _ => none

/-- A field that must be there and hold a string. -/
def requiredText? (value : Option Json) : Option String :=
  value.bind text?

/-- A field that may be absent or null, and otherwise holds a string. -/
def optionalText? : Option Json → Option (Option String)
  | none | some null => some none
  | some (text value) => some (some value)
  | _ => none

/-- A number without fraction within bounds. -/
def boundedInt? (bounds : Bounds) : Json → Option Int
  | int value => if bounds.holds value then some value else none
  | _ => none

/-- A natural number below a power of two. -/
def unsigned? (bits : Nat) (value : Json) : Option Nat :=
  (boundedInt? (.unsigned bits) value).map Int.toNat

/-- A field that may be absent or null, and otherwise holds a signed number of a count of bits. -/
def optionalSigned? (bits : Nat) : Option Json → Option (Option Int)
  | none | some null => some none
  | some value => (boundedInt? (.signed bits) value).map some

/-- The items of a list, each read in the same way. -/
def itemsOf? {α : Type} (read : Json → Option α) : Json → Option (List α)
  | list items => items.mapM read
  | _ => none

end SolverHub.Json
