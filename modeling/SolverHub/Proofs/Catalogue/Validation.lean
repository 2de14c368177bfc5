import Mathlib.Logic.Basic
import SolverHub.Catalogue.Validation

/-! A snapshot that passes its check advertises nothing but identifiers that pass theirs. -/

namespace SolverHub

section Checks

variable {α ε : Type}

/-- Two checks in turn pass if both of them do. -/
theorem andThen_eq_ok {first second : Except ε Unit} :
    (do first; second) = .ok () ↔ first = .ok () ∧ second = .ok () := by
  -- The second check runs only if the first one has passed.
  cases first with
  | error _ => exact ⟨nofun, fun both => by cases both.1⟩
  | ok _ => exact ⟨fun passed => ⟨rfl, passed⟩, fun both => both.2⟩

/-- A check of some items passes if that of each item does. -/
theorem forM_eq_ok {check : α → Except ε Unit} {items : List α} :
    items.forM check = .ok () ↔ ∀ item ∈ items, check item = .ok () := by
  -- The induction follows the items, and the first one to fail ends the check.
  induction items with
  | nil => exact ⟨fun _ _ member => (List.not_mem_nil member).elim, fun _ => rfl⟩
  | cons item rest ih =>
    show (do check item; rest.forM check) = .ok () ↔ _
    rw [andThen_eq_ok, ih, List.forall_mem_cons]

/-- A condition passes if it holds. -/
theorem ensure_eq_ok {holds : Bool} {error : ValidationError} :
    ensure holds error = .ok () ↔ holds = true := by
  -- The check is the condition itself.
  cases holds <;> simp [ensure]

end Checks

/-- A set passes if it and its problems have names and it belongs to its year. -/
theorem SetInfo.validate_eq_ok {collection : CollectionInfo} {author : String} {set : SetInfo} :
    SetInfo.validate collection author set = .ok () ↔
      Text.isBlankText set.name = false ∧ set.released.year = collection.year.toNat ∧
        ∀ problem ∈ set.problems, Text.isBlankText problem.name = false := by
  -- The checks run one after another, the last one over all problems.
  simp only [SetInfo.validate, andThen_eq_ok, ensure_eq_ok, Bool.not_eq_true', beq_iff_eq,
    List.all_eq_true]

/-- An author passes if it has a name and its sets pass. -/
theorem CollectionInfo.validateAuthor_eq_ok {collection : CollectionInfo}
    {entry : String × List SetInfo} :
    collection.validateAuthor entry = .ok () ↔
      Text.isBlankText entry.1 = false ∧
        ∀ set ∈ entry.2, SetInfo.validate collection entry.1 set = .ok () := by
  -- The sets are checked behind the name of their author.
  simp only [CollectionInfo.validateAuthor, andThen_eq_ok, ensure_eq_ok, Bool.not_eq_true',
    forM_eq_ok]

/-- A collection passes if puzzles can be filed under it and its authors pass. -/
theorem CollectionInfo.validate_eq_ok {collection : CollectionInfo} :
    collection.validate = .ok () ↔
      yearInRange collection.year = true ∧ Text.isBlankText collection.source = false ∧
        ∀ entry ∈ collection.authors, collection.validateAuthor entry = .ok () := by
  -- The authors are checked behind the year and the source.
  simp only [CollectionInfo.validate, andThen_eq_ok, ensure_eq_ok, Bool.not_eq_true', forM_eq_ok]

/-- An identifier passes if puzzles can be filed under its year and each of its names is visible. -/
theorem Identifier.validate_eq_ok {id : Identifier} :
    id.validate = .ok () ↔
      yearInRange id.year = true ∧ Text.isBlankText id.source = false ∧
        Text.isBlankText id.author = false ∧ Text.isBlankText id.setName = false ∧
        Text.isBlankText id.problemName = false := by
  -- The first blank name decides, so that there is an error unless none is blank.
  unfold Identifier.validate
  cases yearInRange id.year with
  | false => simp
  | true =>
    have names : (id.names.find? fun name => Text.isBlankText name.2) = none ↔
        Text.isBlankText id.source = false ∧ Text.isBlankText id.author = false ∧
          Text.isBlankText id.setName = false ∧ Text.isBlankText id.problemName = false := by
      simp [List.find?_eq_none, Identifier.names]
    simp only [Bool.not_true, Bool.false_eq_true, if_false, true_and, ← names]
    cases id.names.find? fun name => Text.isBlankText name.2 <;> simp

/-- The identifiers that the description of a collection advertises. -/
def CollectionInfo.addresses (collection : CollectionInfo) : List Identifier :=
  collection.authors.flatMap fun (author, sets) =>
    sets.flatMap fun set =>
      set.problems.map fun problem =>
        ⟨collection.source, collection.year, author, set.name, problem.name⟩

/-- The identifiers that a snapshot advertises. -/
def Snapshot.addresses (snapshot : Snapshot) : List Identifier :=
  snapshot.collections.flatMap fun (_, collections) =>
    collections.flatMap CollectionInfo.addresses

/-- A collection advertises the names of its problems under those of its authors and sets. -/
theorem CollectionInfo.mem_addresses {collection : CollectionInfo} {id : Identifier} :
    id ∈ collection.addresses ↔
      ∃ entry ∈ collection.authors, ∃ set ∈ entry.2, ∃ problem ∈ set.problems,
        ⟨collection.source, collection.year, entry.1, set.name, problem.name⟩ = id := by
  -- Addresses are collected author by author, set by set and problem by problem.
  simp [CollectionInfo.addresses]

/-- A collection that passes its check advertises identifiers that pass theirs. -/
theorem CollectionInfo.validate_addresses {collection : CollectionInfo}
    (passed : collection.validate = .ok ()) {id : Identifier} (member : id ∈ collection.addresses) :
    id.validate = .ok () := by
  -- Each part of an identifier has been checked on its own level of the description.
  obtain ⟨year, source, authors⟩ := CollectionInfo.validate_eq_ok.mp passed
  obtain ⟨entry, listed, set, held, problem, shown, rfl⟩ := CollectionInfo.mem_addresses.mp member
  obtain ⟨author, sets⟩ := CollectionInfo.validateAuthor_eq_ok.mp (authors entry listed)
  obtain ⟨name, _, problems⟩ := SetInfo.validate_eq_ok.mp (sets set held)
  exact Identifier.validate_eq_ok.mpr ⟨year, source, author, name, problems problem shown⟩

/-- A snapshot that passes its check advertises identifiers that pass theirs. -/
theorem Snapshot.validate_addresses {snapshot : Snapshot} (passed : snapshot.validate = .ok ())
    {id : Identifier} (member : id ∈ snapshot.addresses) : id.validate = .ok () := by
  -- The address comes from a collection, which has passed with the whole snapshot.
  obtain ⟨entry, listed, address⟩ := List.mem_flatMap.mp member
  obtain ⟨collection, held, address⟩ := List.mem_flatMap.mp address
  have checked := forM_eq_ok.mp passed collection (List.mem_flatMap.mpr ⟨entry, listed, held⟩)
  exact CollectionInfo.validate_addresses checked address

end SolverHub
