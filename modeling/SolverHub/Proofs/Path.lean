import Mathlib.Data.List.Sort
import SolverHub.Proofs.Loader.Pending

/-! The order of paths is that of their steps, so that sorting leaves each path once and in its place. -/

namespace SolverHub

namespace Component

/-- The place of a step among the kinds of steps. -/
def kind : Component → Nat
  | root => 0
  | here => 1
  | up => 2
  | name _ => 3

/-- The name of a step, which is empty where it has none. -/
def label (step : Component) : String :=
  step.name?.getD ""

/-- Steps are ordered by their kinds, and those of one kind by their names. -/
theorem order_eq_compareLex : order = compareLex (compareOn kind) (compareOn label) := by
  -- Steps of different kinds are told apart by the kind, names by their code points.
  funext first second
  cases first <;> cases second <;> rfl

/-- The order of steps is transitive. -/
instance : Std.TransCmp order :=
  order_eq_compareLex ▸ inferInstance

/-- Only steps that are the same are equal in order. -/
instance : Std.LawfulEqCmp order where
  compare_self := Std.ReflCmp.compare_self
  eq_of_compare {first second} equal := by
    -- Steps of different kinds are never equal, and names are compared as texts.
    cases first with
    | name first =>
      cases second with
      | name second =>
        exact congrArg name (compare_eq_iff_eq.mp equal)
      | _ => cases equal
    | _ => cases second <;> first | rfl | cases equal

end Component

namespace Path

/-- The order of lists of steps is the lexicographic one. -/
theorem orderComponents_eq_compareLex : orderComponents = List.compareLex Component.order := by
  -- The induction follows the first steps, with any second ones.
  funext first second
  induction first generalizing second with
  | nil => cases second <;> rfl
  | cons step first ih =>
    cases second with
    | nil => rfl
    | cons other second =>
      rw [orderComponents, ih, List.compareLex]
      cases step.order other <;> rfl

/-- Paths with the same steps are those that are equal in order. -/
theorem order_eq_eq_iff {first second : Path} :
    first.order second = .eq ↔ first.components = second.components := by
  -- Steps that compare as equal are equal, as in any lawful order.
  rw [order, orderComponents_eq_compareLex]
  exact Std.LawfulEqCmp.compare_eq_iff_eq

/-- The order of paths is transitive. -/
instance : Std.TransCmp order where
  eq_swap {first second} := by
    simp only [order, orderComponents_eq_compareLex]
    exact Std.OrientedCmp.eq_swap
  isLE_trans {first second third} before later := by
    simp only [order, orderComponents_eq_compareLex] at *
    exact Std.TransCmp.isLE_trans before later

/-- Paths in order without equal neighbours are in strict order. -/
theorem pairwise_dropRepeats {paths : List Path}
    (ordered : paths.Pairwise fun first second => (first.order second).isLE) :
    (dropRepeats paths).Pairwise fun first second => first.order second = .lt := by
  -- The induction follows the neighbours, each of which is equal to the next one or comes before it.
  fun_induction dropRepeats paths with
  | case1 => exact .nil
  | case2 only => exact List.pairwise_singleton _ _
  | case3 first second rest same ih =>
    obtain ⟨before, later⟩ := List.pairwise_cons.mp ordered
    exact ih (List.pairwise_cons.mpr
      ⟨fun path member => before path (.tail _ member), (List.pairwise_cons.mp later).2⟩)
  | case4 first second rest differs ih =>
    obtain ⟨before, later⟩ := List.pairwise_cons.mp ordered
    obtain ⟨behind, _⟩ := List.pairwise_cons.mp later
    have less : first.order second = .lt := by
      have apart : first.order second ≠ .eq := fun equal =>
        differs (same_iff.mpr (order_eq_eq_iff.mp equal))
      have least := before second List.mem_cons_self
      cases found : first.order second <;> simp_all
    -- What comes behind the second one comes behind the first one as well.
    refine List.pairwise_cons.mpr ⟨fun path kept => ?_, ih later⟩
    rcases List.mem_cons.mp (mem_of_mem_dropRepeats kept) with here | member
    · exact here ▸ less
    · exact Std.TransCmp.lt_of_lt_of_isLE less (behind path member)

/-- Sorted paths come in strict order, each of them once. -/
theorem pairwise_sorted (paths : List Path) :
    (sorted paths).Pairwise fun first second => first.order second = .lt := by
  refine pairwise_dropRepeats (List.pairwise_mergeSort (fun _ _ _ => Std.TransCmp.isLE_trans)
    (fun first second => ?_) paths)
  -- Swapping two paths swaps the outcome.
  rw [show second.order first = (first.order second).swap from Std.OrientedCmp.eq_swap]
  cases first.order second <;> rfl

/-- Paths in strict order have no equal neighbours. -/
theorem dropRepeats_of_pairwise {paths : List Path}
    (ordered : paths.Pairwise fun first second => first.order second = .lt) :
    dropRepeats paths = paths := by
  -- The induction follows the neighbours, of which none are the same.
  fun_induction dropRepeats paths with
  | case1 => rfl
  | case2 only => rfl
  | case3 first second rest same ih =>
    have less := (List.pairwise_cons.mp ordered).1 second List.mem_cons_self
    have equal := order_eq_eq_iff.mpr (same_iff.mp same)
    rw [less] at equal
    cases equal
  | case4 first second rest differs ih => rw [ih (List.pairwise_cons.mp ordered).2]

/-- Sorting leaves paths as they are where they come in strict order. -/
theorem sorted_of_pairwise {paths : List Path}
    (ordered : paths.Pairwise fun first second => first.order second = .lt) :
    sorted paths = paths := by
  -- Nothing has to move, and nothing is taken twice.
  have kept : paths.mergeSort (fun first second => (first.order second).isLE) = paths :=
    List.mergeSort_of_pairwise (ordered.imp fun less => by rw [less]; rfl)
  rw [sorted, kept, dropRepeats_of_pairwise ordered]

end Path

/-- Lists in the same strict order are equal if they have the same members. -/
theorem eq_of_strictly_ordered {α : Type} {cmp : α → α → Ordering} [Std.OrientedCmp cmp]
    {first second : List α} (ordered : first.Pairwise fun one other => cmp one other = .lt)
    (also : second.Pairwise fun one other => cmp one other = .lt)
    (same : ∀ item, item ∈ first ↔ item ∈ second) : first = second := by
  -- No two items come before each other, and none before itself.
  have : Std.Irrefl fun one other => cmp one other = .lt :=
    ⟨fun one less => by cases (Std.ReflCmp.compare_self : cmp one one = .eq).symm.trans less⟩
  have : Std.Antisymm fun one other => cmp one other = .lt :=
    ⟨fun one other less greater => by
      cases (Std.OrientedCmp.gt_iff_lt.mpr less).symm.trans greater⟩
  exact ordered.eq_of_mem_iff also same

end SolverHub
