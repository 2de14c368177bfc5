import SolverHub.Command.Address
import SolverHub.Command.Switch
import SolverHub.Path

/-! A command line is read switch by switch, where the value of a switch may be the next argument. -/

namespace SolverHub

/-- The reasons for which a command line does not start the server. -/
inductive UsageError
  /-- An argument is no switch. -/
  | unknownArgument
  /-- A value does not have the form that its switch needs. -/
  | invalidValue
  /-- A value is missing or empty. -/
  | missingValue
  /-- A switch is given more than once. -/
  | repeated
  /-- A value is given to a switch that takes none. -/
  | unexpectedValue
  /-- The help is asked for. -/
  | help
  /-- The version is asked for. -/
  | version
deriving DecidableEq, Repr

/-- What a command line gives. -/
structure CommandLine where
  bind : Option Address
  solversDir : Option Path
  threads : Option Nat
  noWatch : Option Unit
  debounce : Option Nat
  tags : List String
  logLevel : Option String
  logJson : Option Unit
deriving DecidableEq, Repr

namespace CommandLine

/-- Nothing is given. -/
def empty : CommandLine := ⟨none, none, none, none, none, [], none, none⟩

/-- The words for numbers. -/
def word : Bounds := .unsigned 64

/-- The number that a value names. -/
def number (value : String) : Except UsageError Nat :=
  match Text.readInt word value.toList with
  | .ok n => .ok n.toNat
  | .error _ => .error .invalidValue

/-- The address that a value names. -/
def address (value : String) : Except UsageError Address :=
  match Address.ofText? value with
  | some address => .ok address
  | none => .error .invalidValue

/-- The directory that a value names, which is not empty. -/
def directory (value : String) : Except UsageError Path :=
  if value.isEmpty then .error .missingValue else .ok ⟨value⟩

/-- The tags that a value names, between commas. -/
def tagsOf (value : String) : List String :=
  (Text.fields ',' value.toList).map String.ofList

/-- A switch has been given. -/
def has (line : CommandLine) : Switch → Bool
  | .bind => line.bind.isSome
  | .solversDir => line.solversDir.isSome
  | .threads => line.threads.isSome
  | .noWatch => line.noWatch.isSome
  | .debounce => line.debounce.isSome
  | .tags => !line.tags.isEmpty
  | .logLevel => line.logLevel.isSome
  | .logJson => line.logJson.isSome
  | .help | .version => false

/-- The command line with the value of one more switch. -/
def set (line : CommandLine) (switch : Switch) (value : String) : Except UsageError CommandLine :=
  match switch with
  | .bind => do return { line with bind := some (← address value) }
  | .solversDir => do return { line with solversDir := some (← directory value) }
  | .threads => do return { line with threads := some (← number value) }
  | .noWatch => .ok { line with noWatch := some () }
  | .debounce => do return { line with debounce := some (← number value) }
  | .tags => .ok { line with tags := line.tags ++ tagsOf value }
  | .logLevel => .ok { line with logLevel := some value }
  | .logJson => .ok { line with logJson := some () }
  | .help => .error .help
  | .version => .error .version

/-- The command line with one more switch, whose value must be there if it takes one. -/
def give (line : CommandLine) (switch : Switch) (value : Option String) :
    Except UsageError CommandLine :=
  if switch.takesValue && value.isNone then .error .missingValue
  else if line.has switch && !switch.mayRepeat then .error .repeated
  else line.set switch (value.getD "")

/-- What a switch that waits for its value has got so far. -/
structure Waiting where
  /-- The switch. -/
  switch : Switch
  /-- Its value, once it has come. -/
  value : Option String
deriving DecidableEq, Repr

/-- A command line that is being read. -/
structure Draft where
  /-- What has been given. -/
  line : CommandLine
  /-- The switch that takes its value from the next argument, until another switch follows. -/
  waiting : Option Waiting
  /-- Only arguments that are no switches may follow. -/
  ended : Bool

namespace Draft

/-- The switch that waited is given. -/
def resolve (draft : Draft) : Except UsageError CommandLine :=
  match draft.waiting with
  | none => .ok draft.line
  | some waiting => draft.line.give waiting.switch waiting.value

/-- One more switch is given at once. -/
def giveNow (draft : Draft) (switch : Switch) (value : Option String) :
    Except UsageError Draft := do
  let line ← draft.resolve
  return { draft with line := ← line.give switch value, waiting := none }

/-- One more switch waits for its value. -/
def waitFor (draft : Draft) (switch : Switch) : Except UsageError Draft := do
  return { draft with line := ← draft.resolve, waiting := some ⟨switch, none⟩ }

/-- A switch with the value that is attached to it, if any. -/
def take (draft : Draft) (switch : Switch) (attached : Option String) : Except UsageError Draft :=
  if switch.takesValue then
    match attached with
    | some value => draft.giveNow switch (some value)
    | none => draft.waitFor switch
  else draft.giveNow switch none

/-- An argument after two dashes. -/
def long (draft : Draft) (argument : List Char) : Except UsageError Draft :=
  let name := argument.takeWhile (· ≠ '=')
  let attached := (argument.drop (name.length + 1))
  let value := if name.length < argument.length then some (String.ofList attached) else none
  match Switch.ofLongName? (String.ofList name) with
  | none => .error .unknownArgument
  | some switch =>
    if value.isSome && !switch.takesValue then .error .unexpectedValue else draft.take switch value

/-- The value attached to a letter, with or without an equals sign. -/
def attachedTo : List Char → Option String
  | [] => none
  | '=' :: value => some (String.ofList value)
  | value => some (String.ofList value)

/-- An argument after one dash, whose first letter decides since no switch goes on to another. -/
def short (draft : Draft) : List Char → Except UsageError Draft
  | [] => .ok draft
  | letter :: rest =>
    match Switch.ofLetter? letter with
    | none => .error .unknownArgument
    | some switch => draft.take switch (attachedTo rest)

/-- An argument that is no switch is the value that is waited for. -/
def plain (draft : Draft) (argument : String) : Except UsageError Draft :=
  match draft.waiting with
  | some ⟨switch, none⟩ => .ok { draft with waiting := some ⟨switch, some argument⟩ }
  | _ => .error .unknownArgument

/-- One more argument. -/
def read (draft : Draft) (argument : String) : Except UsageError Draft :=
  if draft.ended then .error .unknownArgument
  else match argument.toList with
    | ['-', '-'] => .ok { draft with ended := true }
    | '-' :: '-' :: rest => draft.long rest
    | '-' :: letter :: rest => draft.short (letter :: rest)
    | _ => draft.plain argument

end Draft

/-- What some arguments give. -/
def ofArguments (arguments : List String) : Except UsageError CommandLine := do
  let draft ← arguments.foldlM Draft.read ⟨empty, none, false⟩
  draft.resolve

end CommandLine

end SolverHub
