import SolverHub.Proofs.Files.Names

/-! A path that names continue has its own steps and then the names. -/

namespace SolverHub

/-- A text is the name of a file or of a directory: it stands neither for the directory itself nor for the one above. -/
def IsFileName (text : String) : Prop :=
  IsName text ∧ text ≠ ".."

namespace Path

variable {base path other : Path} {text : String}

/-- The step of a name is the name. -/
theorem ofField?_name (name : IsFileName text) :
    Component.ofField? text.toList = some (.name text) := by
  obtain ⟨⟨filled, visible, _⟩, below⟩ := name
  -- A file name is no step up, neither empty nor a dot.
  have level : text.toList ≠ ['.', '.'] := fun same =>
    below (by rw [← String.ofList_toList (s := text), same])
  simp [Component.ofField?, filled, visible, level]

/-- A path starts at the root or where it is, as its first character and its first field tell. -/
theorem lead?_eq (path : Path) : path.lead? =
    if path.isAbsolute then some .root
    else if path.fields.head? = some ['.'] then some .here else none := by
  -- A path is absolute exactly if a slash comes first.
  have relative (other : ∀ rest, path.text.toList = '/' :: rest → False) :
      path.isAbsolute = false := by
    refine Bool.eq_false_iff.mpr fun absolute => ?_
    obtain ⟨rest, starts⟩ := List.head?_eq_some_iff.mp (beq_iff_eq.mp absolute)
    exact other rest starts
  -- The first field decides, and behind a slash it is empty.
  unfold lead?
  split
  · rename_i starts
    simp [isAbsolute, starts]
  · rename_i dot other
    simp [relative other, dot]
  · rename_i other visible
    have differs : path.fields.head? ≠ some ['.'] := fun first => by
      obtain ⟨rest, dot⟩ := List.head?_eq_some_iff.mp first
      exact visible rest dot
    simp [relative other, differs]

/-- A path whose text is continued behind a slash has the step behind it as well. -/
theorem components_of_fields (front : List (List Char)) (name : IsFileName text)
    (absolute : path.isAbsolute = base.isAbsolute) (filled : front ≠ [])
    (own : base.fields = front ∨ base.fields = front ++ [[]])
    (split : path.fields = front ++ [text.toList]) :
    path.components = base.components ++ [.name text] := by
  -- Neither the lead nor the steps of the base see whether a slash ends it.
  have first : path.fields.head? = base.fields.head? := by
    obtain ⟨field, rest, rfl⟩ := List.exists_cons_of_ne_nil filled
    rcases own with same | same <;> rw [same, split] <;> rfl
  have steps : base.fields.filterMap Component.ofField? = front.filterMap Component.ofField? := by
    rcases own with same | same
    · rw [same]
    · rw [same, List.filterMap_append]
      exact List.append_nil _
  rw [components, components, lead?_eq, lead?_eq, absolute, first, steps, split,
    List.filterMap_append, List.append_assoc]
  simp [ofField?_name name]

/-- A name that continues a path is one more step. -/
theorem components_join (base : Path) (name : IsFileName text) :
    (base.join ⟨text⟩).components = base.components ++ [.name text] := by
  obtain ⟨⟨filled, visible, single⟩, below⟩ := name
  have name : IsFileName text := ⟨⟨filled, visible, single⟩, below⟩
  have relative : (⟨text⟩ : Path).isAbsolute = false :=
    Bool.eq_false_iff.mpr fun absolute => single (List.mem_of_head? (beq_iff_eq.mp absolute))
  have alone : (⟨text⟩ : Path).fields = [text.toList] := Text.fields_eq_self single
  unfold join
  rw [relative, if_neg Bool.false_ne_true]
  split
  · rename_i ends
    rcases Bool.or_eq_true_iff.mp ends with empty | slash
    · -- Nothing comes before the name.
      obtain ⟨written⟩ := base
      cases String.isEmpty_iff.mp empty
      show (⟨"" ++ text⟩ : Path).components = [.name text]
      rw [String.empty_append, components, lead?_eq, relative, alone]
      simp [visible, ofField?_name name]
    · -- The slash at the end of the base is the one in front of the name.
      obtain ⟨front, ends⟩ := List.getLast?_eq_some_iff.mp (beq_iff_eq.mp slash)
      refine components_of_fields (Text.fields '/' front) name ?_
        (Text.fields_ne_nil '/' front) (.inr ?_) ?_
      · simp [isAbsolute, String.toList_append, ends]
      · rw [fields, ends, Text.fields_append]
        rfl
      · rw [fields, String.toList_append, ends, List.append_assoc, List.singleton_append,
          Text.fields_append, Text.fields_eq_self single]
  · rename_i other
    have written : (base.text ++ "/" ++ text).toList = base.text.toList ++ '/' :: text.toList := by
      simp [String.toList_append]
    have filled : base.text.toList ≠ [] := fun empty => other (by simp_all)
    refine components_of_fields _ name ?_ (Text.fields_ne_nil '/' base.text.toList) (.inl rfl) ?_
    · rw [isAbsolute, isAbsolute, written, List.head?_append_of_ne_nil _ filled]
    · rw [fields, written, Text.fields_append, Text.fields_eq_self single]

/-- A path that names continue one after another. -/
def joinNames (base : Path) (names : List String) : Path :=
  names.foldl (fun path name => path.join ⟨name⟩) base

/-- Names that continue a path are steps behind its own. -/
theorem components_joinNames (base : Path) {names : List String}
    (formed : ∀ name ∈ names, IsFileName name) :
    (base.joinNames names).components = base.components ++ names.map .name := by
  -- The induction follows the names, each of which continues the path before it.
  induction names generalizing base with
  | nil => exact (List.append_nil _).symm
  | cons name rest ih =>
    obtain ⟨first, others⟩ := List.forall_mem_cons.mp formed
    have further := ih (base.join ⟨name⟩) others
    rw [components_join base first, List.append_assoc] at further
    exact further

end Path

end SolverHub
