import Mathlib.Data.List.Basic
import SolverHub.Path
import SolverHub.Files.Tree

/-! Names between slashes, and the steps of the paths that are put together from them. -/

namespace SolverHub

namespace Text

variable {separator : Char} {text front : List Char}

/-- No field contains the separator. -/
theorem separator_not_mem {field : List Char} (member : field ∈ fields separator text) :
    separator ∉ field := by
  -- The induction follows the text, whose characters each start a field or join the first one.
  induction text generalizing field with
  | nil => simp_all [fields]
  | cons c text ih =>
    rw [fields] at member
    split at member
    · rcases List.mem_cons.mp member with rfl | later
      · exact List.not_mem_nil
      · exact ih later
    · -- The character is not the separator, and joins a field without it.
      rename_i differs
      split at member
      · rw [List.mem_singleton.mp member, List.mem_singleton]
        exact Ne.symm differs
      · rename_i first others found
        rcases List.mem_cons.mp member with rfl | later
        · have earlier := ih (found ▸ List.mem_cons_self)
          simp_all [eq_comm]
        · exact ih (found ▸ List.mem_cons_of_mem _ later)

/-- A text without the separator is a single field. -/
theorem fields_eq_self (plain : separator ∉ text) : fields separator text = [text] := by
  -- The induction follows the text, each of whose characters joins the only field.
  induction text with
  | nil => rfl
  | cons c text ih =>
    obtain ⟨differs, plain⟩ := not_or.mp (mt List.mem_cons.mpr plain)
    rw [fields, if_neg (Ne.symm differs), ih plain]

/-- The fields on both sides of a separator come one after another. -/
theorem fields_append : fields separator (front ++ separator :: text) =
    fields separator front ++ fields separator text := by
  -- The induction follows the text before the separator, which has a field for it to end.
  induction front with
  | nil => simp [fields]
  | cons c front ih =>
    rw [List.cons_append, fields, fields, ih]
    split
    · rfl
    · cases found : fields separator front with
      | nil => exact absurd found (fields_ne_nil separator front)
      | cons field others => rfl

end Text

/-- A text can be the name of an entry. -/
def IsName (text : String) : Prop :=
  text.toList ≠ [] ∧ text.toList ≠ ['.'] ∧ '/' ∉ text.toList

/-- No field stands for the root. -/
theorem Component.ofField?_ne_root (field : List Char) : Component.ofField? field ≠ some .root := by
  -- A field gives a step up, a name or nothing.
  unfold Component.ofField?
  split
  · nofun
  · split <;> nofun

namespace Path

/-- The names in the steps of a path can be names of entries. -/
theorem isName_of_mem {path : Path} {text : String} (member : .name text ∈ path.components) :
    IsName text := by
  -- A name is a field between slashes that is neither empty nor a dot.
  rcases List.mem_append.mp member with lead | step
  · unfold lead? at lead
    split at lead <;> simp at lead
  · obtain ⟨field, found, named⟩ := List.mem_filterMap.mp step
    unfold Component.ofField? at named
    split at named
    · cases named
    · rename_i visible
      split at named
      · cases named
      · cases named
        obtain ⟨some, plain⟩ := not_or.mp visible
        have inside := Text.separator_not_mem found
        exact ⟨by simpa using some, by simpa using plain, by simpa using inside⟩

/-- A path is absolute if the root is its first step. -/
theorem isAbsolute_iff (path : Path) :
    path.isAbsolute = true ↔ path.components.head? = some .root := by
  have inside : (path.fields.filterMap Component.ofField?).head? ≠ some .root := by
    intro first
    obtain ⟨field, _, root⟩ := List.mem_filterMap.mp (List.mem_of_head? first)
    exact Component.ofField?_ne_root field root
  -- Without a slash in front neither a root nor an absolute path comes about.
  have relative (other : ∀ rest, path.text.toList = '/' :: rest → False) :
      path.text.toList.head? ≠ some '/' := by
    intro first
    obtain ⟨rest, starts⟩ := List.head?_eq_some_iff.mp first
    exact other rest starts
  unfold isAbsolute components lead?
  split
  · rename_i starts
    simp [starts]
  · rename_i other
    simp [relative other]
  · rename_i other _
    simpa [relative other] using inside

/-- Leading steps can be dropped exactly from in front of the steps that are left. -/
theorem dropComponents?_eq_some {base steps rest : List Component} :
    dropComponents? base steps = some rest ↔ steps = base ++ rest := by
  -- The cases are those of the two lists, whose first steps are compared.
  fun_induction dropComponents? base steps with
  | case1 => simp
  | case2 => simp
  | case3 first base steps ih => simp [ih]
  | case4 first base step steps differs => simp [Ne.symm differs]

/-- Leading steps can be dropped exactly from steps that start with them. -/
theorem dropComponents?_isSome {base steps : List Component} :
    (dropComponents? base steps).isSome = true ↔ base <+: steps := by
  -- There is a rest exactly behind a common start.
  rw [Option.isSome_iff_exists]
  simp only [dropComponents?_eq_some]
  exact exists_congr fun rest => eq_comm

/-- A path is at or below another one if its steps start with those of the other one. -/
theorem startsWith_iff {path above : Path} :
    path.startsWith above = true ↔ above.components <+: path.components := by
  -- A path starts with another one exactly if something is left below it.
  rw [startsWith, below?, dropComponents?_isSome]

/-- A name that continues a path is its last field. -/
theorem getLast?_fields_join (base : Path) {text : String} (name : IsName text) :
    (base.join ⟨text⟩).fields.getLast? = some text.toList := by
  obtain ⟨some, _, plain⟩ := name
  have relative : (⟨text⟩ : Path).isAbsolute = false := by
    unfold isAbsolute
    cases found : text.toList with
    | nil => rfl
    | cons c rest =>
      have differs : c ≠ '/' := fun same => plain (found ▸ same ▸ List.mem_cons_self)
      simpa using differs
  -- Whatever comes before the slash, the name is the field behind it.
  have behind (front : List Char) :
      (Text.fields '/' (front ++ '/' :: text.toList)).getLast? = .some text.toList := by
    rw [Text.fields_append, Text.fields_eq_self plain, List.getLast?_append]
    rfl
  unfold join fields
  rw [relative, if_neg Bool.false_ne_true]
  split
  · rename_i ends
    rw [String.toList_append]
    rcases Bool.or_eq_true_iff.mp ends with empty | slash
    · -- Nothing comes before the name.
      rw [String.isEmpty_iff.mp empty]
      exact congrArg List.getLast? (Text.fields_eq_self plain)
    · obtain ⟨front, ends⟩ := List.getLast?_eq_some_iff.mp (by simpa using slash)
      rw [ends, List.append_assoc]
      exact behind front
  · rw [String.toList_append, String.toList_append, List.append_assoc]
    exact behind base.text.toList

end Path

namespace Tree

/-- The steps along a path to a name are those of the path. -/
theorem stepsOf_join (base : Path) {text : String} (name : IsName text) :
    stepsOf (base.join ⟨text⟩) = (base.join ⟨text⟩).components := by
  unfold stepsOf
  rw [Path.getLast?_fields_join base name]
  -- Only a path that ends with a slash or a dot has a step more.
  obtain ⟨some, plain, _⟩ := name
  split <;> simp_all

end Tree

end SolverHub
