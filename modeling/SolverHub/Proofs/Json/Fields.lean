import Mathlib.Data.List.Basic
import Mathlib.Tactic.IntervalCases
import SolverHub.Identifier
import SolverHub.Proofs.Json.Printed

/-! What is written into the fields of a record is read from them. -/

namespace SolverHub

namespace Json

/-- A list is plain if its items are. -/
@[simp] theorem isPlain_list {items : List Json} :
    IsPlain (list items) ↔ ∀ item ∈ items, IsPlain item := by
  rw [IsPlain]
  -- The induction follows the items, since lists of values have a predicate of their own.
  induction items with
  | nil => simp [ArePlain]
  | cons item items ih => simp [ArePlain, ih]

/-- An object is plain if its values are. -/
@[simp] theorem isPlain_object {entries : List (String × Json)} :
    IsPlain (object entries) ↔ ∀ entry ∈ entries, IsPlain entry.2 := by
  rw [IsPlain]
  -- The induction follows the entries, since objects have a predicate of their own.
  induction entries with
  | nil => simp [HavePlain]
  | cons entry entries ih => simp [HavePlain, ih]

/-- A string is plain. -/
@[simp] theorem isPlain_text (value : String) : IsPlain (text value) := trivial

/-- A whole number is plain. -/
@[simp] theorem isPlain_int (value : Int) : IsPlain (int value) := trivial

/-- A truth value is plain. -/
@[simp] theorem isPlain_bool (value : Bool) : IsPlain (bool value) := trivial

/-- An optional string is plain. -/
@[simp] theorem isPlain_ofText? (value : Option String) : IsPlain (ofText? value) := by
  cases value <;> trivial

/-- Strings are plain. -/
@[simp] theorem isPlain_ofTexts (texts : List String) : IsPlain (ofTexts texts) := by
  simp [ofTexts]

section Names

variable {name other : String} {value : Json} {entries : List (String × Json)}

/-- Nothing is under any name where there are no entries. -/
@[simp] theorem uniqueField_nil : uniqueField [] name = some none := rfl

/-- An entry with another name makes no difference. -/
@[simp] theorem uniqueField_cons_of_ne (differs : other ≠ name) :
    uniqueField ((other, value) :: entries) name = uniqueField entries name := by
  -- An entry with another name is filtered out.
  simp [uniqueField, differs]

/-- An entry whose name does not come again is found under its name. -/
@[simp] theorem uniqueField_cons_self (once : name ∉ entries.map Prod.fst) :
    uniqueField ((name, value) :: entries) name = some (some value) := by
  -- No further entry has the name, so the field is not given twice.
  have absent : (entries.filter fun entry => entry.1 == name) = [] := by
    rw [List.filter_eq_nil_iff]
    intro entry member same
    exact once (List.mem_map.mpr ⟨entry, member, by simpa using same⟩)
  simp [uniqueField, absent]

end Names

section Reading

variable {α : Type} {read : Json → Option α} {write : α → Json} {values : List α}

/-- What is read back one by one in some form is read back as a whole in that form. -/
theorem mapM_map_of {β : Type} {read : β → Option α} {write : α → β} {form : α → α}
    (back : ∀ value ∈ values, read (write value) = some (form value)) :
    (values.map write).mapM read = some (values.map form) := by
  -- The induction follows the values, each of which is read before the others.
  induction values with
  | nil => rfl
  | cons value values ih =>
    have others := ih fun value member => back value (List.mem_cons_of_mem _ member)
    simp [List.mapM_cons, back value List.mem_cons_self, others]

/-- The items of a list are read back in some form if each one is. -/
theorem itemsOf?_map_of {form : α → α}
    (back : ∀ value ∈ values, read (write value) = some (form value)) :
    itemsOf? read (list (values.map write)) = some (values.map form) :=
  -- A list is read item by item.
  mapM_map_of back

/-- The items of a list are read back if each one is. -/
theorem itemsOf?_map (back : ∀ value ∈ values, read (write value) = some value) :
    itemsOf? read (list (values.map write)) = some values := by
  -- A value that is read back as it is keeps its form.
  have kept : itemsOf? read (list (values.map write)) = some (values.map id) := itemsOf?_map_of back
  rwa [List.map_id] at kept

/-- A string is read from a field that must be there. -/
@[simp] theorem requiredText?_text (value : String) : requiredText? (some (text value)) = some value := rfl

/-- No string is read from an absent field. -/
@[simp] theorem optionalText?_none : optionalText? none = some none := rfl

/-- A string is read from a field that may be absent. -/
@[simp] theorem optionalText?_text (value : String) :
    optionalText? (some (text value)) = some (some value) := rfl

/-- An optional string is read from a field that holds it or `null`. -/
@[simp] theorem optionalText?_ofText? (value : Option String) :
    optionalText? (some (ofText? value)) = some value := by
  -- An absent text is written as null, which reads as none.
  cases value <;> rfl

end Reading

end Json

namespace Identifier

/-- A year is read back from its number. -/
@[simp] theorem yearOfJson?_ofNat (year : Year) : yearOfJson? (.ofNat year.toNat) = some year := by
  have least : (0 : Int) ≤ year.toNat := Int.natCast_nonneg _
  have greatest : (year.toNat : Int) ≤ 65535 := by
    have := year.toNat_lt
    omega
  -- The number fits the word that a year is read into.
  have held : (Bounds.unsigned 16).holds year.toNat = true := by
    simp [Bounds.holds, Bounds.unsigned, greatest]
  simp [yearOfJson?, Json.unsigned?, Json.boundedInt?, Json.ofNat, held]

/-- An identifier is read back from its JSON form, valid or not. -/
theorem ofJson?_toJson (id : Identifier) : ofJson? id.toJson = some id := by
  simp [ofJson?, toJson, Json.fieldsOf?]

/-- The JSON form of an identifier is plain. -/
theorem isPlain_toJson (id : Identifier) : Json.IsPlain id.toJson := by
  simp [toJson, Json.ofNat]

end Identifier

end SolverHub
