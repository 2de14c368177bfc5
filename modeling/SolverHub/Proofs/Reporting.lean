import Mathlib.Data.List.Basic
import SolverHub.Problem.Basic

/-! Computations that report can be grouped in any way, and a list of them runs up to the first one that stops. -/

namespace SolverHub.Reporting

section Laws

variable {α β γ : Type} {first : Reporting α} {stop : Stop}

/-- A computation that stopped keeps the next one from its turn. -/
theorem bind_of_stop (stopped : first.outcome = .error stop) (next : α → Reporting β) :
    first >>= next = ⟨first.reports, .error stop⟩ := by
  -- What comes next is not run behind a stop.
  show first.andThen next = _
  rw [andThen, stopped]

/-- Nothing is added by going on with the value as it is. -/
theorem andThen_done (first : Reporting α) : first.andThen done = first := by
  -- Nothing is reported behind the end.
  obtain ⟨reports, outcome⟩ := first
  cases outcome <;> simp [andThen, done]

/-- Nothing is added by starting from a value. -/
theorem done_andThen (value : α) (next : α → Reporting β) : (done value).andThen next = next value := by
  simp [andThen, done]

/-- The reports of three computations come one after the other, however the three are grouped. -/
theorem andThen_assoc (first : Reporting α) (second : α → Reporting β) (third : β → Reporting γ) :
    (first.andThen second).andThen third =
      first.andThen fun value => (second value).andThen third := by
  obtain ⟨reports, outcome⟩ := first
  -- Only a first run that arrives lets the others run.
  cases outcome with
  | error stop => rfl
  | ok value =>
    simp only [andThen]
    cases (second value).outcome <;> simp

instance : LawfulMonad Reporting :=
  LawfulMonad.mk' Reporting andThen_done done_andThen andThen_assoc

end Laws

section Runs

variable {α β : Type} {run other : α → Reporting β} {entries before after : List α} {entry : α}
  {value : α → β} {stop : Stop}

/-- Two ways to run the entries of a list are the same if they are on each entry. -/
theorem mapM_congr (agree : ∀ entry ∈ entries, run entry = other entry) :
    entries.mapM run = entries.mapM other := by
  -- The induction follows the entries, on each of which the runs agree.
  induction entries with
  | nil => rfl
  | cons entry entries ih =>
    have others := ih fun later member => agree later (List.mem_cons_of_mem entry member)
    rw [List.mapM_cons, List.mapM_cons, agree entry (List.mem_cons_self ..), others]

/-- Entries that all lead to a value report one after the other and give the list of their values. -/
theorem mapM_of_ok (arrived : ∀ entry ∈ entries, (run entry).outcome = .ok (value entry)) :
    entries.mapM run = ⟨entries.flatMap fun entry => (run entry).reports, .ok (entries.map value)⟩ := by
  -- The induction follows the entries, behind each of which the run goes on.
  induction entries with
  | nil => rfl
  | cons entry entries ih =>
    have others := ih fun later member => arrived later (List.mem_cons_of_mem entry member)
    rw [List.mapM_cons, bind_of_ok (arrived entry (List.mem_cons_self ..)), others, bind_of_ok rfl]
    simp [pure, done]

/-- The first entry that stops ends the run of all entries. -/
theorem outcome_mapM_of_stop
    (arrived : ∀ entry ∈ before, ∃ value, (run entry).outcome = .ok value)
    (stopped : (run entry).outcome = .error stop) :
    ((before ++ entry :: after).mapM run).outcome = .error stop := by
  -- The induction follows the entries before the one that stops.
  induction before with
  | nil => rw [List.nil_append, List.mapM_cons, bind_of_stop stopped]
  | cons first before ih =>
    obtain ⟨value, found⟩ := arrived first (List.mem_cons_self ..)
    have others := ih fun later member => arrived later (List.mem_cons_of_mem first member)
    rw [List.cons_append, List.mapM_cons, bind_of_ok found]
    exact congrArg Reporting.outcome (bind_of_stop others _)

end Runs

end SolverHub.Reporting
