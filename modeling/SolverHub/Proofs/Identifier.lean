import SolverHub.Identifier

/-! The order of identifiers is strict and total, so that their sorting has one outcome. -/

namespace SolverHub.Identifier

/-- The order of identifiers goes through their parts in turn. -/
theorem order_eq_compareLex : order =
    compareLex (compareOn source) (compareLex (compareOn year) (compareLex (compareOn author)
      (compareLex (compareOn setName) (compareOn problemName)))) := rfl

/-- The order of identifiers is transitive. -/
instance : Std.TransCmp order :=
  order_eq_compareLex ▸ inferInstance

/-- Only identifiers that are the same are equal in order. -/
instance : Std.LawfulEqCmp order where
  compare_self := Std.ReflCmp.compare_self
  eq_of_compare {first second} equal := by
    simp only [order, Ordering.then_eq_eq, Std.LawfulEqCmp.compare_eq_iff_eq] at equal
    obtain ⟨source, year, author, setName, problemName⟩ := equal
    cases first
    cases second
    simp only at source year author setName problemName
    rw [source, year, author, setName, problemName]

/-- An identifier that comes before another and differs from it comes strictly before it. -/
theorem order_eq_lt {first second : Identifier} (before : notAfter first second)
    (differs : first ≠ second) : order first second = .lt := by
  -- The two other outcomes are equality and the opposite order.
  cases found : order first second with
  | lt => rfl
  | eq => exact absurd (Std.LawfulEqCmp.eq_of_compare found) differs
  | gt => simp [notAfter, found] at before

/-- What comes before something comes before all that it comes before. -/
theorem notAfter_trans (first second third : Identifier) (before : notAfter first second)
    (later : notAfter second third) : notAfter first third :=
  -- The order is that of the standard library on five fields, which is transitive.
  Std.TransCmp.isLE_trans before later

/-- One of two identifiers comes before the other. -/
theorem notAfter_total (first second : Identifier) :
    (notAfter first second || notAfter second first) = true := by
  -- Swapping the identifiers swaps the outcome.
  unfold notAfter
  rw [show order second first = (order first second).swap from Std.OrientedCmp.eq_swap]
  cases order first second <;> rfl

/-- Different identifiers that have been sorted come in strict order. -/
theorem pairwise_mergeSort {ids : List Identifier} (distinct : ids.Nodup) :
    (ids.mergeSort notAfter).Pairwise fun first second => order first second = .lt := by
  -- What is in order without repetition is in strict order.
  have sorted : (ids.mergeSort notAfter).Pairwise fun first second => notAfter first second :=
    List.pairwise_mergeSort notAfter_trans notAfter_total ids
  have differ : (ids.mergeSort notAfter).Pairwise (· ≠ ·) :=
    (List.mergeSort_perm ids notAfter).nodup_iff.mpr distinct
  exact (sorted.and differ).imp fun ⟨before, differs⟩ => order_eq_lt before differs

end SolverHub.Identifier
