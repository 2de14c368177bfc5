import SolverHub.Proofs.Json.Fields
import SolverHub.Update.Wire

/-! An update is read back from the text that it travels as. -/

namespace SolverHub

namespace Json

/-- A value has at most some levels of lists and objects, and all in it is readable. -/
structure Shallow (levels : Nat) (value : Json) : Prop where
  depth_le : depth value ≤ levels
  readable : isReadable value = true

section Shallow

variable {levels : Nat}

/-- A string has no levels. -/
theorem shallow_text (value : String) : Shallow levels (text value) :=
  ⟨Nat.zero_le _, rfl⟩

/-- An optional string has no levels. -/
theorem shallow_ofText? (value : Option String) : Shallow levels (ofText? value) := by
  cases value <;> exact ⟨Nat.zero_le _, rfl⟩

/-- A list has a level above its items. -/
theorem shallow_list {items : List Json} (inside : ∀ item ∈ items, Shallow levels item) :
    Shallow (levels + 1) (list items) := by
  -- The induction follows the items, the deepest of which sets the depth of the list.
  have all : itemsDepth items ≤ levels ∧ areReadable items = true := by
    induction items with
    | nil => exact ⟨Nat.zero_le _, rfl⟩
    | cons item items ih =>
      obtain ⟨first, rest⟩ := List.forall_mem_cons.mp inside
      simp [itemsDepth, areReadable, first.depth_le, first.readable, ih rest]
  exact ⟨Nat.succ_le_succ all.1, all.2⟩

/-- An object has a level above its values. -/
theorem shallow_object {entries : List (String × Json)}
    (inside : ∀ entry ∈ entries, Shallow levels entry.2) : Shallow (levels + 1) (object entries) := by
  -- The induction follows the entries, the deepest of which sets the depth of the object.
  have all : entriesDepth entries ≤ levels ∧ haveReadable entries = true := by
    induction entries with
    | nil => exact ⟨Nat.zero_le _, rfl⟩
    | cons entry entries ih =>
      obtain ⟨first, rest⟩ := List.forall_mem_cons.mp inside
      simp [entriesDepth, haveReadable, first.depth_le, first.readable, ih rest]
  exact ⟨Nat.succ_le_succ all.1, all.2⟩

/-- A list of strings has one level. -/
theorem shallow_ofTexts (texts : List String) : Shallow (levels + 1) (ofTexts texts) :=
  shallow_list (List.forall_mem_map.mpr fun value _ => shallow_text value)

end Shallow

namespace Magnitude

/-- Rounding to the precision of a double at most doubles a number. -/
theorem nearest_le {n : Nat} (positive : 0 < n) : nearest n ≤ 2 * n := by
  -- A number is rounded up by less than one unit, and no unit exceeds the number.
  have unit_le : Nat.pow 2 (n.log2 - 52) ≤ n :=
    (Nat.pow_le_pow_right (by decide) (Nat.sub_le _ _)).trans (Nat.log2_self_le positive.ne')
  have units_le : n / Nat.pow 2 (n.log2 - 52) * Nat.pow 2 (n.log2 - 52) ≤ n :=
    Nat.div_mul_le_self _ _
  unfold nearest
  dsimp only
  split
  · rw [Nat.add_mul, Nat.one_mul]
    omega
  · omega

/-- A number that a word holds has a finite double. -/
theorem isFinite_ofNat {n : Nat} (held : n ≤ greatestCount) : (ofNat n).isFinite = true := by
  rw [ofNat_of_le held]
  rcases Nat.eq_zero_or_pos n with rfl | positive
  · rfl
  · -- Twice the greatest word is far below the greatest double.
    have near : nearest n < doubleLimit := by
      have small : 2 * greatestCount < doubleLimit := by decide +kernel
      have rounded := nearest_le positive
      omega
    have one : nearest 1 = 1 := by decide
    simp [isFinite, greatestPower, one, near]

end Magnitude

end Json

namespace Glyph

/-- A glyph is read back from its JSON form. -/
theorem ofJson?_toJson (glyph : Glyph) : ofJson? glyph.toJson = some glyph := by
  obtain ⟨shown, foreground, background⟩ := glyph
  -- Absent colours are left out, so there are four forms.
  cases foreground <;> cases background <;>
    simp [ofJson?, toJson, padded, Json.fieldsOf?]

/-- The JSON form of a glyph is an object of strings. -/
theorem shallow_toJson (glyph : Glyph) : Json.Shallow 1 glyph.toJson := by
  refine Json.shallow_object fun entry member => ?_
  obtain ⟨shown, foreground, background⟩ := glyph
  -- A glyph is written with texts only, where colours are left out if there are none.
  have string : ∃ value, entry.2 = .text value := by
    cases foreground <;> cases background <;> simp at member <;> grind
  obtain ⟨value, same⟩ := string
  rw [same]
  exact Json.shallow_text value

/-- The JSON form of a glyph is plain. -/
theorem isPlain_toJson (glyph : Glyph) : Json.IsPlain glyph.toJson := by
  obtain ⟨shown, foreground, background⟩ := glyph
  -- Each colour is written or left out.
  cases foreground <;> cases background <;> simp [toJson]

end Glyph

namespace UpdateKind

/-- Strings are read back from a list of them. -/
theorem textsOf?_ofTexts (texts : List String) : textsOf? (.ofTexts texts) = some texts :=
  Json.itemsOf?_map fun _ _ => rfl

/-- A signed word is read back from its number. -/
theorem optionalSigned?_toInt (elapsed : Int64) :
    Json.optionalSigned? 64 (some (.int elapsed.toInt)) = some (some elapsed.toInt) := by
  -- The number comes from a word of 64 bits, so it fits one.
  have held : (Bounds.signed 64).holds elapsed.toInt = true := by
    have least : -9223372036854775808 ≤ elapsed.toInt := elapsed.le_toInt
    have greatest : elapsed.toInt < 9223372036854775808 := elapsed.toInt_lt
    have within : elapsed.toInt ≤ 9223372036854775807 := by omega
    simp [Bounds.holds, Bounds.signed, least, within]
  simp [Json.optionalSigned?, Json.boundedInt?, held]

/-- The word for a kind is read back. -/
theorem labelOf?_text (word : String) : labelOf? (.text word) = some word := rfl

/-- A kind is read back from its word and its payload, whatever the identifier is. -/
theorem ofEntries?_payload (kind : UpdateKind) (id : Json) :
    ofEntries? (("id", id) :: ("type", .text kind.label) :: kind.payload) = some kind := by
  cases kind with
  | start => simp [ofEntries?, needed?, label, labelOf?_text, payload]
  | text line => simp [ofEntries?, needed?, label, labelOf?_text, payload, Json.text?]
  | grid rows => simp [ofEntries?, needed?, label, labelOf?_text, payload, textsOf?_ofTexts]
  | glyphGrid rows =>
    have read : Json.itemsOf? (Json.itemsOf? Glyph.ofJson?)
        (.list (rows.map fun row => .list (row.map Glyph.toJson))) = some rows :=
      Json.itemsOf?_map fun row _ => Json.itemsOf?_map fun glyph _ => glyph.ofJson?_toJson
    simp [ofEntries?, needed?, label, labelOf?_text, payload, read]
  | table headers rows =>
    have read : Json.itemsOf? textsOf? (.list (rows.map Json.ofTexts)) = some rows :=
      Json.itemsOf?_map fun row _ => textsOf?_ofTexts row
    simp [ofEntries?, needed?, label, labelOf?_text, payload, textsOf?_ofTexts, read]
  | finished verdict =>
    obtain ⟨successful, solution, error, elapsed⟩ := verdict
    -- The time is a number or `null`, the other optional fields are strings or `null`.
    cases elapsed with
    | none => simp [ofEntries?, needed?, label, labelOf?_text, payload, Json.bool?, Json.optionalSigned?]
    | some elapsed =>
      simp [ofEntries?, needed?, label, labelOf?_text, payload, Json.bool?, optionalSigned?_toInt]

/-- No payload has more than three levels, and the time that it tells is a word. -/
theorem shallow_payload (kind : UpdateKind) : ∀ entry ∈ kind.payload, Json.Shallow 3 entry.2 := by
  -- The depth is counted by hand: glyphs in rows in a list are the deepest payload.
  have strings (texts : List String) : Json.Shallow 3 (.ofTexts texts) := Json.shallow_ofTexts texts
  cases kind with
  | start => exact List.forall_mem_nil _
  | text line => exact List.forall_mem_singleton.mpr (Json.shallow_text line)
  | grid rows => exact List.forall_mem_singleton.mpr (strings rows)
  | glyphGrid rows =>
    -- A row of glyphs is a list of objects, so there are three levels in all.
    refine List.forall_mem_singleton.mpr (Json.shallow_list ?_)
    refine List.forall_mem_map.mpr fun row _ => Json.shallow_list ?_
    exact List.forall_mem_map.mpr fun glyph _ => glyph.shallow_toJson
  | table headers rows =>
    have cells : Json.Shallow 3 (.list (rows.map Json.ofTexts)) :=
      Json.shallow_list (List.forall_mem_map.mpr fun row _ => Json.shallow_ofTexts row)
    exact List.forall_mem_cons.mpr ⟨strings headers, List.forall_mem_singleton.mpr cells⟩
  | finished verdict =>
    obtain ⟨successful, solution, error, elapsed⟩ := verdict
    have success : Json.Shallow 3 (.bool successful) := ⟨Nat.zero_le _, rfl⟩
    have solved : Json.Shallow 3 (.ofText? solution) := Json.shallow_ofText? solution
    have failed : Json.Shallow 3 (.ofText? error) := Json.shallow_ofText? error
    cases elapsed with
    | none =>
      have time : Json.Shallow 3 .null := ⟨Nat.zero_le _, rfl⟩
      simp only [payload, List.forall_mem_cons]
      exact ⟨success, solved, failed, time, List.forall_mem_nil _⟩
    | some elapsed =>
      have time : Json.Shallow 3 (.int elapsed.toInt) := by
        refine ⟨Nat.zero_le _, Json.Magnitude.isFinite_ofNat ?_⟩
        have least : -9223372036854775808 ≤ elapsed.toInt := elapsed.le_toInt
        have greatest : elapsed.toInt < 9223372036854775808 := elapsed.toInt_lt
        -- A time may be negative, but never as far from zero as numbers can be read.
        have word : Json.Magnitude.greatestCount = 18446744073709551615 := rfl
        omega
      simp only [payload, List.forall_mem_cons]
      exact ⟨success, solved, failed, time, List.forall_mem_nil _⟩

/-- A payload is plain. -/
theorem isPlain_payload (kind : UpdateKind) : ∀ entry ∈ kind.payload, Json.IsPlain entry.2 := by
  -- Only glyphs and verdicts are more than texts and lists of texts.
  cases kind with
  | glyphGrid rows => simp [payload, Glyph.isPlain_toJson]
  | finished verdict =>
    obtain ⟨successful, solution, error, elapsed⟩ := verdict
    cases elapsed <;> simp [payload, Json.IsPlain]
  | _ => simp [payload]

end UpdateKind

namespace Update

/-- The JSON form of an update is plain. -/
theorem isPlain_toJson (update : Update) : Json.IsPlain update.toJson := by
  -- The payload comes behind the identifier and the name of the kind.
  refine Json.isPlain_object.mpr (List.forall_mem_cons.mpr ⟨update.id.isPlain_toJson, ?_⟩)
  exact List.forall_mem_cons.mpr ⟨trivial, update.kind.isPlain_payload⟩

/-- An update is read back from its JSON form. -/
theorem ofJson?_toJson (update : Update) : ofJson? update.toJson = some update := by
  obtain ⟨id, kind⟩ := update
  -- Every entry but the identifier is kept aside until the kind is known, and all of them fit.
  have fits : ((("id", id.toJson) :: ("type", .text kind.label) :: kind.payload).all entryFits) = true := by
    simp only [List.all_cons, Bool.and_eq_true, List.all_eq_true]
    refine ⟨rfl, rfl, fun entry member => ?_⟩
    obtain ⟨depth_le, readable⟩ := kind.shallow_payload entry member
    have low : entry.2.depth ≤ maxDepth := depth_le.trans (by decide)
    simp [entryFits, low, readable]
  have names : "id" ∉ (("type", Json.text kind.label) :: kind.payload).map Prod.fst := by
    cases kind <;> simp [UpdateKind.payload]
  have found : UpdateKind.needed? (("id", id.toJson) :: ("type", .text kind.label) :: kind.payload) "id" =
      some id.toJson := by
    simp only [UpdateKind.needed?, Json.uniqueField_cons_self names]
    rfl
  simp only [ofJson?, toJson, Json.entries?]
  simp [fits, found, id.ofJson?_toJson, UpdateKind.ofEntries?_payload]

/-- The text of an update is the JSON text of one object, from which the update is read back. -/
theorem decode?_encode (update : Update) :
    Json.parse? update.encode = some update.toJson ∧ decode? update.encode = some update := by
  -- The text is the JSON text of one object, which holds the update.
  have parsed : Json.parse? update.encode = some update.toJson := Json.parse?_render update.isPlain_toJson
  exact ⟨parsed, by rw [decode?, parsed]; exact ofJson?_toJson update⟩

end Update

end SolverHub
