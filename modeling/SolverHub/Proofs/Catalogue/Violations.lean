import Mathlib.Data.List.TakeWhile
import Mathlib.Order.Compare
import SolverHub.Proofs.Catalogue.Snapshot

/-! A snapshot that does not pass its check fails with what is wrong at the first place where something is. -/

namespace SolverHub

/-- A text is blank if nothing is left of it without the blanks around it. -/
theorem Text.isBlankText_iff {text : String} :
    Text.isBlankText text = true ↔ Text.trim text.toList = [] := by
  have front : Text.trimStart text.toList = [] ↔ Text.isBlankText text = true := by
    rw [Text.trimStart, List.dropWhile_eq_nil_iff, Text.isBlankText, List.all_eq_true]
  rw [Text.trim, Text.trimEnd, List.reverse_eq_nil_iff, List.dropWhile_eq_nil_iff, ← front]
  constructor
  · intro empty
    simp [empty]
  · -- The first character that is left in front is not blank.
    intro blank
    by_contra some
    have first : Text.isBlank ((Text.trimStart text.toList).head some) = false :=
      List.head_dropWhile_not Text.isBlank some
    rw [blank _ (List.mem_reverse.mpr (List.head_mem some))] at first
    cases first

/-- A name can be seen: something is left of it without the blanks around it. -/
def Visible (name : String) : Prop :=
  Text.trim name.toList ≠ []

/-- A name can be seen if it is not blank. -/
theorem isBlankText_eq_false {name : String} : Text.isBlankText name = false ↔ Visible name := by
  rw [Visible, ne_eq, ← Text.isBlankText_iff, Bool.not_eq_true]

section Places

/-- What is looked at in a set. -/
inductive SetInfo.Spot
  | name
  | release
  | problems
deriving DecidableEq

/-- What is looked at in a collection. -/
inductive CollectionInfo.Spot
  | year
  | source
  | author (name : String)
  | set (author : String) (position : Nat) (spot : SetInfo.Spot)
deriving DecidableEq

/-- What is looked at in a snapshot. -/
structure Snapshot.Spot where
  /-- The year under which the collection is. -/
  year : Year
  /-- The position of the collection among those of its year. -/
  position : Nat
  /-- What is looked at in the collection. -/
  inner : CollectionInfo.Spot
deriving DecidableEq

/-- The name of a set comes before its release, and its release before its problems. -/
def SetInfo.Spot.turn : SetInfo.Spot → Nat
  | name => 0
  | release => 1
  | problems => 2

/-- What is looked at earlier in a set. -/
def SetInfo.Spot.Before (first second : SetInfo.Spot) : Prop :=
  first.turn < second.turn

namespace CollectionInfo.Spot

/-- The year comes before the source, and the source before the authors. -/
def stage : Spot → Nat
  | year => 0
  | source => 1
  | author _ | set .. => 2

/-- The author whose name or sets are looked at. -/
def owner : Spot → String
  | year | source => ""
  | author name | set name .. => name

/-- The name of an author comes before the sets, and these come one after the other. -/
def number : Spot → Nat
  | year | source | author _ => 0
  | set _ position _ => position + 1

/-- The turn in the set that is looked at. -/
def turn : Spot → Nat
  | year | source | author _ => 0
  | set _ _ spot => spot.turn

/-- The order in which a collection is looked through. -/
def order : Spot → Spot → Ordering :=
  compareLex (compareOn stage) (compareLex (compareOn owner)
    (compareLex (compareOn number) (compareOn turn)))

/-- What is looked at earlier in a collection. -/
def Before (first second : Spot) : Prop :=
  first.order second = .lt

/-- A collection is looked through by stages, these by authors, and these set by set. -/
theorem before_iff {first second : Spot} : first.Before second ↔
    first.stage < second.stage ∨ first.stage = second.stage ∧
      (first.owner < second.owner ∨ first.owner = second.owner ∧
        (first.number < second.number ∨ first.number = second.number ∧ first.turn < second.turn)) := by
  -- Each comparison decides unless it finds both sides equal.
  -- The order compares the years first, then the positions, then what lies within.
  simp only [Before, order, compareLex, compareOn, Ordering.then_eq_lt, compare_lt_iff_lt,
    compare_eq_iff_eq]

/-- The order in which a collection is looked through is transitive. -/
instance : Std.TransCmp order :=
  inferInstanceAs (Std.TransCmp (compareLex _ (compareLex _ (compareLex _ _))))

/-- What is looked at in a collection is compared by the order in which it is looked through. -/
instance : Ord Spot := ⟨order⟩

/-- What is looked at in a collection has a transitive order. -/
instance : Std.TransOrd Spot := inferInstanceAs (Std.TransCmp order)

end CollectionInfo.Spot

namespace Snapshot.Spot

/-- The order in which a snapshot is looked through. -/
def order : Spot → Spot → Ordering :=
  compareLex (compareOn year) (compareLex (compareOn position) (compareOn inner))

/-- What is looked at earlier in a snapshot. -/
def Before (first second : Spot) : Prop :=
  first.order second = .lt

/-- A snapshot is looked through by years, these by their collections, and these on their own. -/
theorem before_iff {first second : Spot} : first.Before second ↔
    first.year < second.year ∨ first.year = second.year ∧
      (first.position < second.position ∨ first.position = second.position ∧
        first.inner.Before second.inner) := by
  simp only [Before, order, compareLex, compareOn, Ordering.then_eq_lt, Std.compare_eq_lt,
    Std.LawfulEqCmp.compare_eq_iff_eq]
  rfl

/-- The order in which a snapshot is looked through is transitive. -/
instance : Std.TransCmp order :=
  inferInstanceAs (Std.TransCmp (compareLex _ (compareLex _ _)))

end Snapshot.Spot

end Places

section Violations

/-- What is wrong in a set of an author, and the error that tells it. -/
inductive SetInfo.Violation (collection : CollectionInfo) (author : String) (set : SetInfo) :
    SetInfo.Spot → ValidationError → Prop
  | name (blank : ¬Visible set.name) :
    Violation collection author set .name (.emptySetName collection.source collection.year author)
  | release (other : set.released.year ≠ collection.year.toNat) :
    Violation collection author set .release
      (.releaseYearMismatch collection.source collection.year author set.name set.released.year)
  | problems {problem : ProblemInfo} (listed : problem ∈ set.problems) (blank : ¬Visible problem.name) :
    Violation collection author set .problems
      (.emptyProblemName collection.source collection.year author set.name)

/-- What is wrong in a collection, and the error that tells it. -/
inductive CollectionInfo.Violation (collection : CollectionInfo) :
    CollectionInfo.Spot → ValidationError → Prop
  | year (outside : ¬(2015 ≤ collection.year.toNat ∧ collection.year.toNat ≤ 2100)) :
    Violation collection .year (.yearOutOfRange collection.source collection.year)
  | source (blank : ¬Visible collection.source) :
    Violation collection .source (.emptySource collection.year)
  | author {author : String} {sets : List SetInfo} (listed : (author, sets) ∈ collection.authors)
    (blank : ¬Visible author) :
    Violation collection (.author author) (.emptyAuthor collection.source collection.year)
  | set {author : String} {sets : List SetInfo} {position : Nat} {set : SetInfo} {spot : SetInfo.Spot}
    {error : ValidationError} (listed : (author, sets) ∈ collection.authors)
    (here : sets[position]? = some set) (wrong : set.Violation collection author spot error) :
    Violation collection (.set author position spot) error

/-- What is wrong in a snapshot, and the error that tells it. -/
inductive Snapshot.Violation (snapshot : Snapshot) : Snapshot.Spot → ValidationError → Prop
  | collection {year : Year} {infos : List CollectionInfo} {position : Nat} {collection : CollectionInfo}
    {spot : CollectionInfo.Spot} {error : ValidationError} (listed : (year, infos) ∈ snapshot.collections)
    (here : infos[position]? = some collection) (wrong : collection.Violation spot error) :
    Violation snapshot ⟨year, position, spot⟩ error

/-- All years are in range, all names can be seen, and all sets are from the year of their collection. -/
def Snapshot.Valid (snapshot : Snapshot) : Prop :=
  ∀ entry ∈ snapshot.collections, ∀ collection ∈ entry.2,
    (2015 ≤ collection.year.toNat ∧ collection.year.toNat ≤ 2100) ∧ Visible collection.source ∧
      ∀ author ∈ collection.authors, Visible author.1 ∧
        ∀ set ∈ author.2, Visible set.name ∧ set.released.year = collection.year.toNat ∧
          ∀ problem ∈ set.problems, Visible problem.name

end Violations

section Faults

variable {σ τ α : Type}

/-- An error with its place, unless a condition holds. -/
def faultUnless (holds : Bool) (spot : σ) (error : ValidationError) : List (σ × ValidationError) :=
  if holds then [] else [(spot, error)]

/-- The errors of some numbered items, each with its place. -/
def numberedFaults (place : Nat → σ → τ) (faults : α → List (σ × ValidationError)) (items : List α) :
    List (τ × ValidationError) :=
  items.zipIdx.flatMap fun item => (faults item.1).map fun fault => (place item.2 fault.1, fault.2)

/-- All errors in a set of an author. -/
def SetInfo.faults (collection : CollectionInfo) (author : String) (set : SetInfo) :
    List (SetInfo.Spot × ValidationError) :=
  faultUnless (!Text.isBlankText set.name) .name
    (.emptySetName collection.source collection.year author) ++
  (faultUnless (set.released.year == collection.year.toNat) .release
    (.releaseYearMismatch collection.source collection.year author set.name set.released.year) ++
  faultUnless (set.problems.all fun problem => !Text.isBlankText problem.name) .problems
    (.emptyProblemName collection.source collection.year author set.name))

/-- All errors in what an author has in a collection. -/
def CollectionInfo.authorFaults (collection : CollectionInfo) (entry : String × List SetInfo) :
    List (CollectionInfo.Spot × ValidationError) :=
  faultUnless (!Text.isBlankText entry.1) (.author entry.1)
    (.emptyAuthor collection.source collection.year) ++
  numberedFaults (.set entry.1) (SetInfo.faults collection entry.1) entry.2

/-- All errors in a collection. -/
def CollectionInfo.faults (collection : CollectionInfo) : List (CollectionInfo.Spot × ValidationError) :=
  faultUnless (yearInRange collection.year) .year
    (.yearOutOfRange collection.source collection.year) ++
  (faultUnless (!Text.isBlankText collection.source) .source (.emptySource collection.year) ++
  collection.authors.flatMap collection.authorFaults)

/-- All errors in a snapshot. -/
def Snapshot.faults (snapshot : Snapshot) : List (Snapshot.Spot × ValidationError) :=
  snapshot.collections.flatMap fun entry => numberedFaults (.mk entry.1) CollectionInfo.faults entry.2

/-- There is an error where the condition does not hold. -/
theorem mem_faultUnless {holds : Bool} {spot : σ} {error : ValidationError} {fault : σ × ValidationError} :
    fault ∈ faultUnless holds spot error ↔ holds = false ∧ fault = (spot, error) := by
  -- There is a fault exactly where the condition fails.
  cases holds <;> simp [faultUnless]

/-- The errors of numbered items are those of each item, with its number. -/
theorem mem_numberedFaults {place : Nat → σ → τ} {faults : α → List (σ × ValidationError)}
    {items : List α} {fault : τ × ValidationError} : fault ∈ numberedFaults place faults items ↔
      ∃ position item inner error, items[position]? = some item ∧ (inner, error) ∈ faults item ∧
        (place position inner, error) = fault := by
  simp only [numberedFaults, List.mem_flatMap, List.mem_map, Prod.exists,
    List.mk_mem_zipIdx_iff_getElem?]
  -- The two sides name the item and its position in another order.
  constructor
  · rintro ⟨item, position, here, inner, error, wrong, same⟩
    exact ⟨position, item, inner, error, here, wrong, same⟩
  · rintro ⟨position, item, inner, error, here, wrong, same⟩
    exact ⟨item, position, here, inner, error, wrong, same⟩

/-- The errors in a set are what is wrong in it. -/
theorem SetInfo.mem_faults {collection : CollectionInfo} {author : String} {set : SetInfo}
    {spot : SetInfo.Spot} {error : ValidationError} :
    (spot, error) ∈ set.faults collection author ↔ set.Violation collection author spot error := by
  have some_blank : set.problems.all (fun problem => !Text.isBlankText problem.name) = false ↔
      ∃ problem ∈ set.problems, ¬Visible problem.name := by
    simp [List.all_eq_false, ← isBlankText_eq_false]
  -- Each test of a set stands for one way in which something is wrong.
  simp only [faults, List.mem_append, mem_faultUnless, some_blank, Bool.not_eq_false', beq_eq_false_iff_ne,
    Prod.mk.injEq]
  constructor
  · rintro (⟨blank, rfl, rfl⟩ | ⟨other, rfl, rfl⟩ | ⟨⟨problem, listed, blank⟩, rfl, rfl⟩)
    · exact .name (by simp [← isBlankText_eq_false, blank])
    · exact .release other
    · exact .problems listed blank
  · rintro (blank | other | ⟨listed, blank⟩)
    · exact .inl ⟨by simpa [← isBlankText_eq_false] using blank, rfl, rfl⟩
    · exact .inr (.inl ⟨other, rfl, rfl⟩)
    · exact .inr (.inr ⟨⟨_, listed, blank⟩, rfl, rfl⟩)

/-- The errors in what an author has are about the author or about one of the sets. -/
theorem CollectionInfo.mem_authorFaults {collection : CollectionInfo} {entry : String × List SetInfo}
    {fault : CollectionInfo.Spot × ValidationError} : fault ∈ collection.authorFaults entry ↔
      (¬Visible entry.1 ∧ fault = (.author entry.1, .emptyAuthor collection.source collection.year)) ∨
        ∃ position set spot error, entry.2[position]? = some set ∧
          set.Violation collection entry.1 spot error ∧ (.set entry.1 position spot, error) = fault := by
  -- A blank name is a fault of the author, any other fault is one of a set.
  rw [authorFaults, List.mem_append, mem_faultUnless, mem_numberedFaults, Bool.not_eq_false',
    ← isBlankText_eq_false, Bool.not_eq_false]
  simp only [SetInfo.mem_faults]

/-- The errors in a collection are what is wrong in it. -/
theorem CollectionInfo.mem_faults {collection : CollectionInfo} {spot : CollectionInfo.Spot}
    {error : ValidationError} : (spot, error) ∈ collection.faults ↔ collection.Violation spot error := by
  have range : yearInRange collection.year = false ↔
      ¬(2015 ≤ collection.year.toNat ∧ collection.year.toNat ≤ 2100) := by
    rw [← Bool.not_eq_true, yearInRange, Bool.and_eq_true, decide_eq_true_iff, decide_eq_true_iff]
    rfl
  -- The year and the source are tested once, and the rest once for each author.
  simp only [faults, List.mem_append, mem_faultUnless, List.mem_flatMap, mem_authorFaults, range,
    Bool.not_eq_false', Prod.mk.injEq]
  constructor
  · rintro (⟨outside, rfl, rfl⟩ | ⟨blank, rfl, rfl⟩ |
      ⟨⟨author, sets⟩, listed, ⟨blank, rfl, rfl⟩ | ⟨position, set, spot, _, here, wrong, rfl, rfl⟩⟩)
    · exact .year outside
    · exact .source (by simp [← isBlankText_eq_false, blank])
    · exact .author listed blank
    · exact .set listed here wrong
  · rintro (outside | blank | ⟨listed, blank⟩ | ⟨listed, here, wrong⟩)
    · exact .inl ⟨outside, rfl, rfl⟩
    · exact .inr (.inl ⟨by simpa [← isBlankText_eq_false] using blank, rfl, rfl⟩)
    · exact .inr (.inr ⟨_, listed, .inl ⟨blank, rfl, rfl⟩⟩)
    · exact .inr (.inr ⟨_, listed, .inr ⟨_, _, _, _, here, wrong, rfl, rfl⟩⟩)

/-- The errors in a snapshot are what is wrong in it. -/
theorem Snapshot.mem_faults {snapshot : Snapshot} {spot : Snapshot.Spot} {error : ValidationError} :
    (spot, error) ∈ snapshot.faults ↔ snapshot.Violation spot error := by
  simp only [faults, List.mem_flatMap, mem_numberedFaults, CollectionInfo.mem_faults, Prod.mk.injEq]
  -- A violation of a snapshot is one of a collection at its position in a year.
  constructor
  · rintro ⟨⟨year, infos⟩, listed, position, collection, inner, _, here, wrong, rfl, rfl⟩
    exact .collection listed here wrong
  · rintro ⟨listed, here, wrong⟩
    exact ⟨_, listed, _, _, _, _, here, wrong, rfl, rfl⟩

end Faults

section First

variable {σ τ α : Type} {error : ValidationError}

/-- The first of some errors, if there is one. -/
def firstError : List (σ × ValidationError) → Except ValidationError Unit
  | [] => .ok ()
  | fault :: _ => .error fault.2

/-- A condition fails with its error. -/
theorem firstError_faultUnless (holds : Bool) (spot : σ) :
    firstError (faultUnless holds spot error) = ensure holds error := by
  -- The only fault is the first one.
  cases holds <;> rfl

/-- Of two lists of errors the first one decides if it has any. -/
theorem firstError_append (faults others : List (σ × ValidationError)) :
    firstError (faults ++ others) = (do firstError faults; firstError others) := by
  -- The faults behind matter only where there are none before them.
  cases faults <;> rfl

/-- The places make no difference to which error is the first one. -/
theorem firstError_map (place : σ → τ) (faults : List (σ × ValidationError)) :
    firstError (faults.map fun fault => (place fault.1, fault.2)) = firstError faults := by
  -- Faults that are told at other places keep their errors.
  cases faults <;> rfl

/-- The first error in some items is that of the first item with an error. -/
theorem firstError_flatMap (items : List α) (faults : α → List (σ × ValidationError)) :
    firstError (items.flatMap faults) = items.forM fun item => firstError (faults item) := by
  -- The induction follows the items, the first of which decides if it has an error.
  induction items with
  | nil => rfl
  | cons item rest ih =>
    rw [List.flatMap_cons, firstError_append, ih]
    rfl

/-- The first error in some numbered items is that of the first item with an error. -/
theorem firstError_numberedFaults (place : Nat → σ → τ) (faults : α → List (σ × ValidationError))
    (items : List α) : firstError (numberedFaults place faults items) =
      items.forM fun item => firstError (faults item) := by
  -- The numbers only tell the places.
  have unnumbered : (items.zipIdx.map Prod.fst).forM (fun item => firstError (faults item)) =
      items.zipIdx.forM fun item => firstError (faults item.1) := List.forM_map
  rw [numberedFaults, firstError_flatMap]
  simp only [firstError_map]
  rw [← unnumbered, List.zipIdx_map_fst]

/-- The first of some errors in strict order is the one whose place comes before all others. -/
theorem firstError_eq_error_iff {order : σ → σ → Ordering} [Std.TransCmp order]
    {faults : List (σ × ValidationError)}
    (ordered : faults.Pairwise fun first second => order first.1 second.1 = .lt) :
    firstError faults = .error error ↔ ∃ place, (place, error) ∈ faults ∧
      ∀ other fault, (other, fault) ∈ faults → (order place other).isLE := by
  cases faults with
  | nil => simp [firstError]
  | cons first rest =>
    obtain ⟨before, _⟩ := List.pairwise_cons.mp ordered
    have least : ∀ other fault, (other, fault) ∈ first :: rest → (order first.1 other).isLE := by
      intro other fault member
      rcases List.mem_cons.mp member with rfl | later
      · have same : order other other = .eq := Std.ReflCmp.compare_self
        simp [same]
      · simp [before _ later]
    rw [firstError, Except.error.injEq]
    constructor
    · rintro rfl
      exact ⟨first.1, List.mem_cons_self, least⟩
    · rintro ⟨place, member, below⟩
      -- Whatever else came first would have to come before the first one.
      rcases List.mem_cons.mp member with rfl | later
      · rfl
      · have forth := before _ later
        have back := below first.1 first.2 List.mem_cons_self
        have turned : order place first.1 = (order first.1 place).swap := Std.OrientedCmp.eq_swap
        simp [turned, forth] at back

end First

section Checks

/-- The check of a set fails with the first error in it. -/
theorem SetInfo.validate_eq_firstError (collection : CollectionInfo) (author : String) (set : SetInfo) :
    SetInfo.validate collection author set = firstError (set.faults collection author) := by
  -- The errors are listed in the order in which the check comes to them.
  simp only [faults, firstError_append, firstError_faultUnless, SetInfo.validate]

/-- The check of what an author has fails with the first error in it. -/
theorem CollectionInfo.validateAuthor_eq_firstError (collection : CollectionInfo)
    (entry : String × List SetInfo) :
    collection.validateAuthor entry = firstError (collection.authorFaults entry) := by
  -- The checks run in the order in which the faults are listed.
  simp only [authorFaults, firstError_append, firstError_faultUnless, firstError_numberedFaults,
    ← SetInfo.validate_eq_firstError, validateAuthor]

/-- The check of a collection fails with the first error in it. -/
theorem CollectionInfo.validate_eq_firstError (collection : CollectionInfo) :
    collection.validate = firstError collection.faults := by
  -- The checks run in the order in which the faults are listed.
  simp only [faults, firstError_append, firstError_faultUnless, firstError_flatMap,
    ← validateAuthor_eq_firstError, validate]

/-- The check of a snapshot fails with the first error in it. -/
theorem Snapshot.validate_eq_firstError (snapshot : Snapshot) :
    snapshot.validate = firstError snapshot.faults := by
  have joined := firstError_flatMap (snapshot.collections.flatMap (·.2)) CollectionInfo.faults
  -- The collections of all years are looked through as if they were one list.
  rw [List.flatMap_assoc, firstError_flatMap] at joined
  simp only [firstError_flatMap, ← CollectionInfo.validate_eq_firstError] at joined
  simp only [faults, firstError_flatMap, firstError_numberedFaults, validate,
    ← CollectionInfo.validate_eq_firstError]
  exact joined.symm

end Checks

section Order

variable {σ τ α : Type}

/-- A condition that is tested first leaves errors in order. -/
theorem pairwise_faultUnless_append {before : σ → σ → Prop} {holds : Bool} {spot : σ}
    {error : ValidationError} {rest : List (σ × ValidationError)}
    (ordered : rest.Pairwise fun first second => before first.1 second.1)
    (first : ∀ fault ∈ rest, before spot fault.1) :
    (faultUnless holds spot error ++ rest).Pairwise fun first second => before first.1 second.1 := by
  -- A condition leaves one error at most, which is at the front.
  cases holds with
  | true => exact ordered
  | false => exact List.pairwise_cons.mpr ⟨first, ordered⟩

/-- The errors in numbered items come in order if those in each item do and the items follow each other. -/
theorem pairwise_numberedFaults {inner : σ → σ → Prop} {outer : τ → τ → Prop} {place : Nat → σ → τ}
    {faults : α → List (σ × ValidationError)} {items : List α}
    (inside : ∀ item ∈ items, (faults item).Pairwise fun first second => inner first.1 second.1)
    (within : ∀ position first second, inner first second →
      outer (place position first) (place position second))
    (across : ∀ position other first second, position < other →
      outer (place position first) (place other second)) :
    (numberedFaults place faults items).Pairwise fun first second => outer first.1 second.1 := by
  have numbers : items.zipIdx.Pairwise fun first second => first.2 < second.2 := by
    rw [← List.pairwise_map, List.zipIdx_map_snd]
    exact List.pairwise_lt_range'
  -- Two errors are in one item or in two, the first of which has the lower number.
  refine List.pairwise_flatMap.mpr
    ⟨fun item member => ?_, numbers.imp fun less first one second other => ?_⟩
  · refine List.pairwise_map.mpr ((inside item.1 ?_).imp fun before => within item.2 _ _ before)
    exact List.fst_mem_of_mem_zipIdx member
  · obtain ⟨_, _, rfl⟩ := List.mem_map.mp one
    obtain ⟨_, _, rfl⟩ := List.mem_map.mp other
    exact across _ _ _ _ less

/-- A set is looked through in turn. -/
theorem SetInfo.pairwise_faults (collection : CollectionInfo) (author : String) (set : SetInfo) :
    (set.faults collection author).Pairwise fun first second => first.1.Before second.1 := by
  have last : (faultUnless (set.problems.all fun problem => !Text.isBlankText problem.name)
      SetInfo.Spot.problems (.emptyProblemName collection.source collection.year author set.name)).Pairwise
        fun first second => first.1.Before second.1 := by
    unfold faultUnless
    split <;> simp
  -- The name is tested first, and the problems are tested last.
  refine pairwise_faultUnless_append (pairwise_faultUnless_append last ?_) ?_
  · intro fault member
    rw [(mem_faultUnless.mp member).2]
    exact Nat.one_lt_two
  · intro fault member
    rcases List.mem_append.mp member with release | problems
    · rw [(mem_faultUnless.mp release).2]
      exact Nat.zero_lt_one
    · rw [(mem_faultUnless.mp problems).2]
      exact Nat.zero_lt_two

namespace CollectionInfo

variable {collection : CollectionInfo} {entry : String × List SetInfo}

/-- What is looked at for an author is about the author, behind the source. -/
theorem spot_of_mem_authorFaults {fault : Spot × ValidationError}
    (member : fault ∈ collection.authorFaults entry) :
    fault.1.stage = 2 ∧ fault.1.owner = entry.1 := by
  -- The faults of an author are those of the name and those of the sets.
  rcases mem_authorFaults.mp member with ⟨_, rfl⟩ | ⟨_, _, _, _, _, _, rfl⟩ <;> exact ⟨rfl, rfl⟩

/-- What an author has is looked through in order, the name first. -/
theorem pairwise_authorFaults (collection : CollectionInfo) (entry : String × List SetInfo) :
    (collection.authorFaults entry).Pairwise fun first second => first.1.Before second.1 := by
  refine pairwise_faultUnless_append
    (pairwise_numberedFaults (fun set _ => set.pairwise_faults collection entry.1) ?_ ?_) ?_
  · intro position first second before
    exact Spot.before_iff.mpr (.inr ⟨rfl, .inr ⟨rfl, .inr ⟨rfl, before⟩⟩⟩)
  · intro position other first second less
    exact Spot.before_iff.mpr (.inr ⟨rfl, .inr ⟨rfl, .inl (Nat.succ_lt_succ less)⟩⟩)
  · -- The name has the number zero, which no set has.
    intro fault member
    obtain ⟨position, _, _, _, _, _, rfl⟩ := mem_numberedFaults.mp member
    exact Spot.before_iff.mpr (.inr ⟨rfl, .inr ⟨rfl, .inl (Nat.succ_pos position)⟩⟩)

/-- A collection with its authors in order is looked through in order. -/
theorem pairwise_faults (sorted : Keyed.Sorted collection.authors) :
    collection.faults.Pairwise fun first second => first.1.Before second.1 := by
  have authors : (collection.authors.flatMap collection.authorFaults).Pairwise
      fun first second => first.1.Before second.1 := by
    refine List.pairwise_flatMap.mpr ⟨fun entry _ => collection.pairwise_authorFaults entry,
      sorted.imp fun less first one second other => ?_⟩
    obtain ⟨stage, owner⟩ := spot_of_mem_authorFaults one
    obtain ⟨stage', owner'⟩ := spot_of_mem_authorFaults other
    exact Spot.before_iff.mpr
      (.inr ⟨stage.trans stage'.symm, .inl (by rw [owner, owner']; exact less)⟩)
  -- All that is about authors is behind the year and the source.
  have behind : ∀ fault ∈ collection.authors.flatMap collection.authorFaults, fault.1.stage = 2 := by
    intro fault member
    obtain ⟨entry, _, inside⟩ := List.mem_flatMap.mp member
    exact (spot_of_mem_authorFaults inside).1
  refine pairwise_faultUnless_append (pairwise_faultUnless_append authors ?_) ?_
  · intro fault member
    exact Spot.before_iff.mpr (.inl (by rw [behind fault member]; decide))
  · intro fault member
    rcases List.mem_append.mp member with source | author
    · rw [(mem_faultUnless.mp source).2]
      exact Spot.before_iff.mpr (.inl Nat.zero_lt_one)
    · exact Spot.before_iff.mpr (.inl (by rw [behind fault author]; decide))

end CollectionInfo

namespace Snapshot

variable {snapshot : Snapshot}

/-- A snapshot with its years and authors in order is looked through in order. -/
theorem pairwise_faults (ordered : snapshot.InOrder) :
    snapshot.faults.Pairwise fun first second => first.1.Before second.1 := by
  refine List.pairwise_flatMap.mpr ⟨fun entry listed => ?_,
    ordered.years.imp fun less first one second other => ?_⟩
  · -- Within a year the collections come one after the other.
    refine pairwise_numberedFaults (fun collection here =>
      CollectionInfo.pairwise_faults (ordered.authors entry listed collection here)) ?_ ?_
    · intro position first second before
      exact Spot.before_iff.mpr (.inr ⟨rfl, .inr ⟨rfl, before⟩⟩)
    · intro position other first second less
      exact Spot.before_iff.mpr (.inr ⟨rfl, .inl less⟩)
  · obtain ⟨_, _, _, _, _, _, rfl⟩ := mem_numberedFaults.mp one
    obtain ⟨_, _, _, _, _, _, rfl⟩ := mem_numberedFaults.mp other
    exact Spot.before_iff.mpr (.inl less)

/-- A snapshot passes its check exactly if it is valid. -/
theorem validate_eq_ok_iff : snapshot.validate = .ok () ↔ snapshot.Valid := by
  have range : ∀ year : Year, yearInRange year = true ↔ 2015 ≤ year.toNat ∧ year.toNat ≤ 2100 := by
    intro year
    rw [yearInRange, Bool.and_eq_true, decide_eq_true_iff, decide_eq_true_iff]
    rfl
  -- No check fails on the way, so every condition has been tested.
  simp only [validate, forM_eq_ok, CollectionInfo.validate_eq_ok, CollectionInfo.validateAuthor_eq_ok,
    SetInfo.validate_eq_ok, isBlankText_eq_false, range, Valid, List.mem_flatMap]
  exact ⟨fun passed entry listed collection here => passed collection ⟨entry, listed, here⟩,
    fun valid collection ⟨entry, listed, here⟩ => valid entry listed collection here⟩

/-- A snapshot passes its check exactly if it is valid, and fails with what is wrong at the first place.

Places come year by year and collection by collection; in a collection the year comes before the
source and the source before the authors, and for each author the name comes before the sets, in each
of which the name comes before the release and the release before the problems. -/
theorem validate_least (ordered : snapshot.InOrder) :
    (snapshot.validate = .ok () ↔ snapshot.Valid) ∧
    ∀ error, snapshot.validate = .error error ↔
      ∃ place, snapshot.Violation place error ∧
        ∀ other fault, snapshot.Violation other fault → (place.order other).isLE := by
  refine ⟨validate_eq_ok_iff, fun error => ?_⟩
  -- The check fails with the first of all errors, which is at the place before all others.
  rw [validate_eq_firstError, firstError_eq_error_iff (pairwise_faults ordered)]
  simp only [mem_faults]

/-- A snapshot with a valid collection, one with three errors in it, and one of a year out of range. -/
def flawed : Snapshot where
  collections := [
    (2023, [⟨"Advent of Code", 2023, []⟩,
      ⟨"Advent of Code", 2023, [
        ("amy", [⟨"Day 1", "amy", ⟨2023, 12, 1, 21600, 0, by decide⟩, [⟨"Part 1", none⟩]⟩,
          ⟨"Day 2", "amy", ⟨2022, 12, 2, 21600, 0, by decide⟩, [⟨" ", none⟩]⟩]),
        ("\u3000", [])]⟩]),
    (2024, [⟨"Advent of Code", 7, []⟩])]

/-- The first thing that is wrong is the release of the second set, before the name of its problem. -/
theorem validate_least_flawed :
    flawed.InOrder ∧
      flawed.validate = .error (.releaseYearMismatch "Advent of Code" 2023 "amy" "Day 2" 2022) ∧
      ∃ place, flawed.Violation place
          (.releaseYearMismatch "Advent of Code" 2023 "amy" "Day 2" 2022) ∧
        ∀ other fault, flawed.Violation other fault → (place.order other).isLE := by
  have years : Keyed.Sorted flawed.collections := by unfold Keyed.Sorted; decide
  have authors : ∀ entry ∈ flawed.collections, ∀ collection ∈ entry.2,
      Keyed.Sorted collection.authors := by unfold Keyed.Sorted; decide
  have ordered : flawed.InOrder := ⟨years, authors⟩
  -- One set of the second author was released in another year.
  have failed : flawed.validate =
      .error (.releaseYearMismatch "Advent of Code" 2023 "amy" "Day 2" 2022) := by decide +kernel
  exact ⟨ordered, failed, ((validate_least ordered).2 _).mp failed⟩

end Snapshot

end Order

end SolverHub
