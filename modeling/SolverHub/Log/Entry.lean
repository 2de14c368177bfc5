/-! A log entry tells what happened at a place of the program, with named details. -/

namespace SolverHub

/-- How much an entry matters, the least first. -/
inductive Level
  | trace
  | debug
  | info
  | warn
  | error
deriving DecidableEq, Repr

namespace Level

/-- The word for a level. -/
def label : Level → String
  | trace => "TRACE"
  | debug => "DEBUG"
  | info => "INFO"
  | warn => "WARN"
  | error => "ERROR"

/-- The rank of a level, which grows with how much it matters. -/
def rank : Level → Nat
  | trace => 0
  | debug => 1
  | info => 2
  | warn => 3
  | error => 4

end Level

/-- The places that log. -/
inductive Place
  | collection
  | registry
  | session
  | server
  | loader
  | app
  | main
deriving DecidableEq, Repr

/-- The path under which a place can be selected. -/
def Place.path : Place → String
  | .collection => "puzzle_solver::collection"
  | .registry => "puzzle_solver::registry"
  | .session => "puzzle_server::session"
  | .server => "puzzle_server::server"
  | .loader => "puzzle_server::loader"
  | .app => "puzzle_server::app"
  | .main => "puzzled"

/-- One line of a log. -/
structure Entry where
  /-- How much the entry matters. -/
  level : Level
  /-- The place that logged it. -/
  place : Place
  /-- What happened. -/
  message : String
  /-- The details by name, in order. -/
  details : List (String × String)
deriving DecidableEq, Repr

namespace Entry

/-- The form of one detail. -/
def renderDetail (detail : String × String) : String :=
  " " ++ detail.1 ++ "=" ++ detail.2

/-- The level, the message and the details of an entry on one line. -/
def render (entry : Entry) : String :=
  entry.level.label ++ " " ++ entry.message ++ String.join (entry.details.map renderDetail)

end Entry

/-- A value with the entries that were logged on the way to it. -/
structure Logged (α : Type) where
  /-- The entries in order. -/
  log : List Entry
  /-- The value. -/
  value : α

namespace Logged

/-- A value on the way to which nothing was logged. -/
def quiet {α : Type} (value : α) : Logged α := ⟨[], value⟩

/-- The entries of a second computation follow those of the first. -/
def andThen {α β : Type} (first : Logged α) (second : α → Logged β) : Logged β :=
  ⟨first.log ++ (second first.value).log, (second first.value).value⟩

instance : Monad Logged where
  pure := quiet
  bind := andThen

/-- One entry. -/
def entry (level : Level) (place : Place) (message : String) (details : List (String × String)) :
    Logged Unit :=
  ⟨[⟨level, place, message, details⟩], ()⟩

variable {α β : Type}

/-- Nothing but the value comes out of a value. -/
@[simp] theorem value_pure (value : α) : (pure value : Logged α).value = value := rfl

/-- The value of two computations in turn is that of the second one. -/
@[simp] theorem value_bind (first : Logged α) (second : α → Logged β) :
    (first >>= second).value = (second first.value).value := rfl

/-- The value of a fold is the fold of the values. -/
theorem value_foldlM (next : β → α → Logged β) (items : List α) (first : β) :
    (items.foldlM next first).value =
      items.foldl (fun value item => (next value item).value) first := by
  -- Each item passes its value on to the next, whatever was logged.
  induction items generalizing first with
  | nil => rfl
  | cons item rest ih =>
    rw [List.foldlM_cons, value_bind, ih, List.foldl_cons]

end Logged

end SolverHub
