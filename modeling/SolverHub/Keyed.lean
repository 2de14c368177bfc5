/-! A keyed list holds one value for each of its keys, in the order of the keys. -/

namespace SolverHub.Keyed

variable {κ α : Type} [LT κ] [DecidableLT κ] [DecidableEq κ]

/-- The value under a key. -/
def get? (key : κ) : List (κ × α) → Option α
  | [] => none
  | (other, value) :: rest => if key = other then some value else get? key rest

/-- The list after the value under a key, or its absence, has been changed. -/
def alter (key : κ) (change : Option α → α) : List (κ × α) → List (κ × α)
  | [] => [(key, change none)]
  | (other, value) :: rest =>
    if key = other then (other, change (some value)) :: rest
    else if key < other then (key, change none) :: (other, value) :: rest
    else (other, value) :: alter key change rest

/-- The list after a value has been put under a key. -/
def put (key : κ) (value : α) (entries : List (κ × α)) : List (κ × α) :=
  alter key (fun _ => value) entries

/-- The keyed list of some pairs, of which a later one replaces an earlier one with its key. -/
def ofPairs (pairs : List (κ × α)) : List (κ × α) :=
  pairs.foldl (fun entries pair => put pair.1 pair.2 entries) []

/-- A value is put under a key, which counts where nothing was under it. -/
def putCounted (key : κ) (value : α) (state : List (κ × α) × Nat) : List (κ × α) × Nat :=
  (put key value state.1, if (get? key state.1).isSome then state.2 else state.2 + 1)

/-- The list under a key, which is empty at first, is changed by something that counts. -/
def visit (key : κ) (change : List α × Nat → List α × Nat) (state : List (κ × List α) × Nat) :
    List (κ × List α) × Nat :=
  let inner := change ((get? key state.1).getD [], state.2)
  (put key inner.1 state.1, inner.2)

end SolverHub.Keyed
