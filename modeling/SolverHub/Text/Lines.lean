/-! A text splits into lines at its line feeds and into fields at a separator. -/

namespace SolverHub.Text

/-- The lines of a text, each without its line feed or its carriage return and line feed.

A text that ends with a line feed has no empty line after it. -/
def lines : List Char → List (List Char)
  | [] => []
  | '\n' :: rest => [] :: lines rest
  | '\r' :: '\n' :: rest => [] :: lines rest
  | c :: rest =>
    match lines rest with
    | [] => [[c]]
    | line :: others => (c :: line) :: others

/-- The text left after a leading part, if the text starts with that part. -/
def dropLeading? : List Char → List Char → Option (List Char)
  | [], text => some text
  | _ :: _, [] => none
  | expected :: part, c :: text => if expected = c then dropLeading? part text else none

/-- The text left before a trailing part, if the text ends with that part. -/
def dropTrailing? (part text : List Char) : Option (List Char) :=
  (dropLeading? part.reverse text.reverse).map List.reverse

/-- A text occurs somewhere inside another. -/
def occursIn (part : List Char) : List Char → Bool
  | [] => part.isEmpty
  | c :: text => (dropLeading? part (c :: text)).isSome || occursIn part text

/-- The text before and after the first place where a separator occurs. -/
def splitOnce? (separator : List Char) : List Char → Option (List Char × List Char)
  | [] => if separator.isEmpty then some ([], []) else none
  | c :: text =>
    match dropLeading? separator (c :: text) with
    | some after => some ([], after)
    | none => (splitOnce? separator text).map fun halves => (c :: halves.1, halves.2)

/-- The fields of a text between single-character separators, at least one. -/
def fields (separator : Char) : List Char → List (List Char)
  | [] => [[]]
  | c :: text =>
    if c = separator then [] :: fields separator text
    else match fields separator text with
      | [] => [[c]]
      | field :: others => (c :: field) :: others

/-- The segments of a module path between double colons, at least one. -/
def segments : List Char → List (List Char)
  | [] => [[]]
  | ':' :: ':' :: text => [] :: segments text
  | c :: text =>
    match segments text with
    | [] => [[c]]
    | segment :: others => (c :: segment) :: others

/-- A text always has a first field. -/
theorem fields_ne_nil (separator : Char) (text : List Char) : fields separator text ≠ [] := by
  -- Each equation of the definition starts its answer with a field.
  induction text with
  | nil => simp [fields]
  | cons c text ih =>
    by_cases same : c = separator
    · simp [fields, same]
    · simp only [fields, if_neg same]
      cases found : fields separator text <;> simp

/-- Dropping a part from in front of a text that was put together from it gives the rest back. -/
theorem dropLeading?_append (part text : List Char) :
    dropLeading? part (part ++ text) = some text := by
  -- The two texts agree character by character for as long as the part lasts.
  induction part with
  | nil => rfl
  | cons c part ih => simp [dropLeading?, ih]

/-- A part can be dropped from in front of a text exactly when the text starts with it. -/
theorem dropLeading?_eq_some {part text rest : List Char} :
    dropLeading? part text = some rest ↔ text = part ++ rest := by
  -- One direction peels both texts together, the other is the equation for a joined text.
  constructor
  · induction part generalizing text with
    | nil => intro found; simpa [dropLeading?] using found
    | cons c part ih =>
      cases text with
      | nil => simp [dropLeading?]
      | cons d text =>
        by_cases same : c = d
        · intro found
          simp only [dropLeading?, if_pos same] at found
          simp [same, ih found]
        · simp [dropLeading?, same]
  · rintro rfl
    exact dropLeading?_append part rest

end SolverHub.Text
