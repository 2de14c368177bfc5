import Mathlib
import SolverHub.Catalogue.Declaration
import SolverHub.Proofs.Files.Joined
import SolverHub.Proofs.Text.Parts

/-! The submodules of a collection and the directories below it are named for the same authors. -/

namespace SolverHub

/-- A text is a segment of a module that a directory can be named for. -/
structure IsSegment (text : String) : Prop where
  fileName : IsFileName text
  plain : ':' ∉ text.toList

namespace Origin

variable {root path rest : List Char} {author : String}

/-- The author of what lies below a module is its first segment, unless that is empty. -/
theorem authorOfModule_append (root rest : List Char) :
    authorOfModule root (root ++ ':' :: ':' :: rest) = (Text.segments rest).head?.bind fun first =>
      if first.isEmpty then none else some (String.ofList first) := by
  -- A module that goes on behind the root is not the root itself.
  have longer : root ++ ':' :: ':' :: rest ≠ root := by simp
  have below : Text.dropLeading? [':', ':'] (':' :: ':' :: rest) = some rest := rfl
  rw [authorOfModule, if_neg longer, Text.dropLeading?_append]
  simp only [Option.bind_eq_bind, Option.bind_some, below]
  cases Text.segments rest <;> rfl

/-- A module has no author if it is neither the one of the collection nor goes on behind it. -/
theorem authorOfModule_eq_none (differs : path ≠ root)
    (apart : ∀ rest, path ≠ root ++ ':' :: ':' :: rest) : authorOfModule root path = none := by
  rw [authorOfModule, if_neg differs]
  refine Option.bind_eq_none_iff.mpr fun behind starts => Option.bind_eq_none_iff.mpr fun rest colons => ?_
  -- What is found behind the root and the colons would put the module below it.
  refine absurd ?_ (apart rest)
  rw [Text.dropLeading?_eq_some.mp starts, Text.dropLeading?_eq_some.mp colons]
  rfl

/-- A module has an author exactly if it is the one of the collection, or goes on with the author's segment. -/
theorem authorOfModule_eq_some_iff (plain : ∀ segment ∈ Text.segments root, ':' ∉ segment) :
    authorOfModule root path = some author ↔
      (Text.segments path = Text.segments root ∧ author = unknownAuthor) ∨
      ∃ first rest, first ≠ [] ∧ Text.segments path = Text.segments root ++ first :: rest ∧
        author = String.ofList first := by
  by_cases same : path = root
  · -- No segments go on behind all there are.
    subst same
    simp [authorOfModule, eq_comm]
  · have apart : Text.segments path ≠ Text.segments root := fun equal =>
      same (by rw [← Text.intercalate_segments path, equal, Text.intercalate_segments])
    by_cases below : ∃ rest, path = root ++ ':' :: ':' :: rest
    · obtain ⟨rest, rfl⟩ := below
      obtain ⟨filled, split⟩ := (Text.exists_append_iff plain).mp ⟨rest, rfl, rfl⟩
      rw [authorOfModule_append, split]
      cases found : Text.segments rest with
      | nil => exact absurd found filled
      | cons first others =>
        rw [List.head?_cons, Option.bind_some]
        by_cases empty : first = []
        · simp [empty]
        · simp [empty, eq_comm (a := author)]
    · rw [authorOfModule_eq_none same fun rest split => below ⟨rest, split⟩]
      refine iff_of_false nofun ?_
      rintro (⟨equal, _⟩ | ⟨first, rest, _, equal, _⟩)
      · exact apart equal
      · obtain ⟨behind, split, _⟩ :=
          (Text.exists_append_iff plain).mpr ⟨List.cons_ne_nil first rest, equal⟩
        exact below ⟨behind, split⟩

/-- The author of a module is the segment behind the collection's, whatever segments come behind it. -/
theorem authorOfModule_below (root : String) {author : String} {below : List String}
    (segment : IsSegment author) (others : ∀ segment ∈ below, IsSegment segment) :
    authorOfModule root.toList ("::".intercalate (root :: author :: below)).toList = some author := by
  -- No segment holds a colon, so the segments come apart where they were joined.
  have plain : ∀ part ∈ (author :: below).map String.toList, ':' ∉ part := by
    intro part member
    obtain ⟨text, listed, rfl⟩ := List.mem_map.mp member
    exact (List.forall_mem_cons.mpr ⟨segment, others⟩ text listed).plain
  have written : ("::".intercalate (root :: author :: below)).toList =
      root.toList ++ ':' :: ':' :: [':', ':'].intercalate ((author :: below).map String.toList) := by
    rw [String.toList_intercalate, List.map_cons, List.intercalate_cons_of_ne_nil (by simp),
      List.append_assoc]
    rfl
  have filled : author.toList.isEmpty = false := by
    simpa using segment.fileName.1.1
  rw [written, authorOfModule_append, Text.segments_intercalate (by simp) plain]
  simp only [List.map_cons, List.head?_cons, Option.bind_some, filled, Bool.false_eq_true, if_false,
    String.ofList_toList]

/-- A module that has a longer segment in place of the last one of the collection has no author there. -/
theorem authorOfModule_sibling {before rest : List (List Char)} {last more : List Char}
    (plain : ∀ segment ∈ Text.segments root, ':' ∉ segment)
    (ends : Text.segments root = before ++ [last]) (longer : more ≠ [])
    (sibling : Text.segments path = before ++ (last ++ more) :: rest) :
    authorOfModule root path = none := by
  refine Option.eq_none_iff_forall_ne_some.mpr fun author found => ?_
  -- An author has the last segment of the collection in the same place.
  have same : ∃ others, before ++ (last ++ more) :: rest = before ++ last :: others := by
    rcases (authorOfModule_eq_some_iff plain).mp found with ⟨equal, _⟩ | ⟨first, others, _, equal, _⟩
    · exact ⟨[], by rw [← sibling, equal, ends]⟩
    · exact ⟨first :: others, by rw [← sibling, equal, ends]; simp⟩
  obtain ⟨others, same⟩ := same
  have equal := (List.cons.inj (List.append_cancel_left same)).1
  exact longer (List.append_right_eq_self.mp equal)

/-- Names alone are the names of their steps. -/
theorem filterMap_name? (names : List String) :
    (names.map Component.name).filterMap Component.name? = names := by
  -- Every step is a name, so none is passed over.
  rw [List.filterMap_map]
  exact List.filterMap_some

end Origin

namespace Collection

variable {collection : Collection} {path : Path} {steps : List Component}

/-- The steps of a file behind those of the collection's directory decide on its author. -/
theorem authorOf?_file (below : path.components = collection.directory.components ++ steps) :
    collection.authorOf? (.file path) = Origin.authorOfSteps steps := by
  -- Behind the steps of the directory come exactly the others.
  have found : path.below? collection.directory = some steps :=
    Path.dropComponents?_eq_some.mpr below
  show (path.below? collection.directory).bind Origin.authorOfSteps = _
  rw [found, Option.bind_some]

/-- A file below a directory with a name belongs to the author of this name. -/
theorem authorOf?_joinNames {author file : String} {below : List String} (segment : IsFileName author)
    (others : ∀ segment ∈ below, IsFileName segment) (name : IsFileName file) :
    collection.authorOf? (.file (collection.directory.joinNames (author :: below ++ [file]))) =
      some author := by
  have names : ∀ name ∈ author :: below ++ [file], IsFileName name := by
    rw [List.cons_append, List.forall_mem_cons, List.forall_mem_append, List.forall_mem_singleton]
    exact ⟨segment, others, name⟩
  rw [authorOf?_file (Path.components_joinNames collection.directory names), Origin.authorOfSteps,
    Origin.filterMap_name?]
  -- At least the file comes behind the author.
  cases below <;> rfl

/-- A file directly in the directory has an unknown author. -/
theorem authorOf?_join {file : String} (name : IsFileName file) :
    collection.authorOf? (.file (collection.directory.join ⟨file⟩)) = some unknownAuthor :=
  -- A file right in the directory names itself and no author.
  authorOf?_file (Path.components_join collection.directory name)

end Collection

namespace Declaration

variable {declaration : Declaration} {segments : List String}

/-- The segments of a module that is joined from some are these, and a module without segments has an empty one. -/
theorem segments_root (joined : declaration.root = "::".intercalate segments)
    (named : ∀ segment ∈ segments, IsSegment segment) :
    Text.segments declaration.root.toList =
      if segments = [] then [[]] else segments.map String.toList := by
  rw [joined, String.toList_intercalate]
  -- The empty root is one empty segment, which no segment of a declaration is.
  split
  · rename_i empty
    rw [empty]
    rfl
  · rename_i filled
    refine Text.segments_intercalate (mt List.map_eq_nil_iff.mp filled) fun part member => ?_
    obtain ⟨segment, listed, rfl⟩ := List.mem_map.mp member
    exact (named segment listed).plain

/-- No segment of such a module has a colon. -/
theorem plain_root (joined : declaration.root = "::".intercalate segments)
    (named : ∀ segment ∈ segments, IsSegment segment) :
    ∀ segment ∈ Text.segments declaration.root.toList, ':' ∉ segment := by
  -- The segments are those of the declaration, none of which holds a colon.
  rw [segments_root joined named]
  split
  · simp
  · intro part member
    obtain ⟨segment, listed, rfl⟩ := List.mem_map.mp member
    exact (named segment listed).plain

/-- The directory of a collection has a step for each segment behind the first one. -/
theorem components_directoryUnder (joined : declaration.root = "::".intercalate segments)
    (named : ∀ segment ∈ segments, IsSegment segment) (solvers : Path) :
    (declaration.directoryUnder solvers).components =
      solvers.components ++ segments.tail.map .name := by
  -- The first segment names the crate and is no directory.
  have steps : declaration.steps = segments.tail.map Path.mk := by
    rw [steps, segments_root joined named]
    split
    · rename_i empty
      rw [empty]
      rfl
    · rw [← List.map_tail, List.map_map]
      exact List.map_congr_left fun segment _ => congrArg Path.mk String.ofList_toList
  rw [directoryUnder, steps, List.foldl_map]
  exact Path.components_joinNames solvers fun segment member =>
    (named segment (List.mem_of_mem_tail member)).fileName

/-- What lies below an author, in the module of a collection or in its directory, is the author's.

What lies directly there has an unknown author, and a module elsewhere has none. -/
theorem namespaces_agree (declaration : Declaration) {segments : List String}
    (joined : declaration.root = "::".intercalate segments)
    (named : ∀ segment ∈ segments, IsSegment segment) (solvers : Path) :
    -- The directory repeats the segments behind the first one.
    (declaration.directoryUnder solvers).components =
      solvers.components ++ segments.tail.map .name ∧
    (∀ author below file, IsSegment author → (∀ segment ∈ below, IsSegment segment) →
      IsFileName file →
      (declaration.collectionUnder solvers).authorOf?
          (.inside ("::".intercalate (declaration.root :: author :: below))) = some author ∧
        (declaration.collectionUnder solvers).authorOf?
          (.file ((declaration.directoryUnder solvers).joinNames (author :: below ++ [file]))) =
            some author) ∧
    (declaration.collectionUnder solvers).authorOf? (.inside declaration.root) = some unknownAuthor ∧
    (∀ file, IsFileName file →
      (declaration.collectionUnder solvers).authorOf?
        (.file ((declaration.directoryUnder solvers).join ⟨file⟩)) = some unknownAuthor) ∧
    (segments ≠ [] → Text.segments declaration.root.toList = segments.map String.toList) ∧
    (∀ path author, (declaration.collectionUnder solvers).authorOf? (.inside path) = some author ↔
      (Text.segments path.toList = Text.segments declaration.root.toList ∧ author = unknownAuthor) ∨
      ∃ first rest, first ≠ [] ∧
        Text.segments path.toList = Text.segments declaration.root.toList ++ first :: rest ∧
        author = String.ofList first) ∧
    -- A module whose last common segment is longer lies elsewhere.
    (∀ path before last more rest, Text.segments declaration.root.toList = before ++ [last] →
      more ≠ [] → Text.segments path.toList = before ++ (last ++ more) :: rest →
      (declaration.collectionUnder solvers).authorOf? (.inside path) = none) := by
  have plain := plain_root joined named
  refine ⟨components_directoryUnder joined named solvers, fun author below file segment others name =>
    ⟨Origin.authorOfModule_below declaration.root segment others,
      Collection.authorOf?_joinNames segment.fileName (fun text member => (others text member).fileName) name⟩,
    if_pos rfl, fun file name => Collection.authorOf?_join name,
    fun filled => by rw [segments_root joined named, if_neg filled],
    fun path author => Origin.authorOfModule_eq_some_iff plain,
    fun path before last more rest ends longer sibling =>
      Origin.authorOfModule_sibling plain ends longer sibling⟩

/-- A collection whose directory is reached by way of a directory above. -/
def roundabout : Declaration :=
  ⟨"Puzzles", 2031, "sets::winter"⟩

/-- Amy owns what lies below her, and not what lies below a module with a longer name. -/
theorem namespaces_agree_roundabout :
    roundabout.root = "::".intercalate ["sets", "winter"] ∧
      (∀ segment ∈ ["sets", "winter"], IsSegment segment) ∧
      (roundabout.collectionUnder ⟨"./srv/../all/"⟩).authorOf? (.inside "sets::winter::amy::one") =
        some "amy" ∧
      (roundabout.collectionUnder ⟨"./srv/../all/"⟩).authorOf?
        (.file ⟨"./srv/../all/winter/amy/one/a:b.solver"⟩) = some "amy" ∧
      (roundabout.collectionUnder ⟨"./srv/../all/"⟩).authorOf? (.inside "sets::winters::amy") = none := by
  have segment (text : String) (formed : text.toList ≠ [] ∧ text.toList ≠ ['.'] ∧ '/' ∉ text.toList)
      (below : text ≠ "..") (plain : ':' ∉ text.toList) : IsSegment text := ⟨⟨formed, below⟩, plain⟩
  have named : ∀ text ∈ ["sets", "winter"], IsSegment text :=
    List.forall_mem_cons.mpr ⟨segment "sets" (by decide) (by decide) (by decide),
      List.forall_mem_singleton.mpr (segment "winter" (by decide) (by decide) (by decide))⟩
  have joined : roundabout.root = "::".intercalate ["sets", "winter"] := by decide +kernel
  obtain ⟨_, owned, _, _, _, _, sibling⟩ := namespaces_agree roundabout joined named ⟨"./srv/../all/"⟩
  -- The directory is spelled with a step back, and the file name has a colon.
  obtain ⟨module, file⟩ := owned "amy" ["one"] "a:b.solver"
    (segment "amy" (by decide) (by decide) (by decide))
    (List.forall_mem_singleton.mpr (segment "one" (by decide) (by decide) (by decide)))
    ⟨⟨by decide, by decide, by decide⟩, by decide⟩
  refine ⟨joined, named, module, file, ?_⟩
  -- The other module has a longer last segment, so it lies beside this one.
  exact sibling "sets::winters::amy" ["sets".toList] "winter".toList ['s'] ["amy".toList]
    (by decide +kernel) (List.cons_ne_nil _ _) (by decide +kernel)

end Declaration

end SolverHub
