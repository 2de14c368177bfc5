import SolverHub.Log.Entry
import SolverHub.Pattern.Reader
import SolverHub.Text.Bytes
import SolverHub.Text.Real

/-! A filter lets log entries through by their level, at the places that its directives name. -/

namespace SolverHub

/-- The least level that passes, where none means that nothing passes. -/
abbrev Threshold := Option Level

/-- One rule of a filter. -/
structure Directive where
  /-- The start of the paths of the places that the rule is for, or all places. -/
  target : Option String
  /-- The span that must be entered, for a rule that has one. -/
  span : Option String
  /-- The details that an entry must have. -/
  fields : List String
  /-- The least level that passes. -/
  threshold : Threshold
deriving DecidableEq, Repr

/-- The reasons for which a text is no filter. -/
inductive FilterError
  | directive
  | level
  | detail (fault : Pattern.Fault)
deriving DecidableEq, Repr

/-- The wording of a filter error. -/
def FilterError.message : FilterError → String
  | .directive => "invalid filter directive"
  | .level =>
    "error parsing level filter: expected one of \"off\", \"error\", \"warn\", \"info\", " ++
      "\"debug\", \"trace\", or a number 0-5"
  | .detail fault => "invalid field filter: " ++ fault.message

/-- The ways in which a text is not read as a filter. -/
inductive FilterFailure
  /-- The text is no filter. -/
  | refused (error : FilterError)
  /-- A part of the text would begin or end inside of a character. -/
  | crashed
deriving DecidableEq, Repr

namespace Directive

/-- The thresholds by name and by number. -/
def thresholds : List (String × Threshold) :=
  [("off", none), ("error", some .error), ("warn", some .warn), ("info", some .info),
    ("debug", some .debug), ("trace", some .trace)]

/-- A letter in lower case. -/
def lowered (c : Char) : Char :=
  if 'A' ≤ c ∧ c ≤ 'Z' then Char.ofNat (c.toNat + 32) else c

/-- The words for the numbers of thresholds. -/
def word : Bounds := .unsigned 64

/-- The threshold that a text names, as a word in either case or as a number. -/
def threshold? (text : List Char) : Option Threshold :=
  match Text.readInt word text with
  | .ok n => thresholds[n.toNat]?.map (·.2)
  | .error _ => thresholds.lookup (String.ofList (text.map lowered))

/-- The threshold after an equals sign, where nothing lets everything pass. -/
def thresholdAfter (text : List Char) : Except FilterFailure Threshold :=
  if text.isEmpty then .ok (some .trace)
  else match threshold? text with
    | some threshold => .ok threshold
    | none => .error (.refused .level)

/-- A directive can start with a character. -/
def mayStart (c : Char) : Bool :=
  c = '-' || c = ':' || c = '_' || Text.isWordLike c

/-- A directive as it was written, with what is left of it without the blanks at its ends.

Places are counted in the latter, and parts are cut from the former. -/
structure Source where
  /-- The text as it was written. -/
  written : List Char
  /-- The text without the blanks at its ends. -/
  text : List Char

namespace Source

/-- The source of a directive. -/
def ofText (written : List Char) : Source := ⟨written, Text.trim written⟩

/-- A part of a source, which must begin and end between characters. -/
def wholly (part : Option (List Char)) : Except FilterFailure (List Char) :=
  part.elim (.error .crashed) .ok

/-- The part between two places. -/
def part (source : Source) (start stop : Nat) : Except FilterFailure String := do
  return String.ofList (← wholly (Text.cut? start stop source.written))

/-- The part from a place on. -/
def partFrom (source : Source) (start : Nat) : Except FilterFailure (List Char) :=
  wholly ((Text.splitAtByte? start source.written).map (·.2))

/-- The text from a place on. -/
def textFrom (source : Source) (start : Nat) : List Char :=
  (Text.splitAtByte? start source.text).elim [] (·.2)

/-- The place of the first character from a place on that ends a part. -/
def placeFrom (source : Source) (start : Nat) (ends : Char → Bool) : Nat :=
  start + Text.byteCount ((source.textFrom start).takeWhile fun c => !ends c)

/-- The character at a place. -/
def charAt? (source : Source) (place : Nat) : Option Char := (source.textFrom place).head?

end Source

/-- The part of a directive after its span. -/
def ofTail (source : Source) (target span : Option String) (fields : List String) (place : Nat) :
    Except FilterFailure Directive :=
  match source.charAt? place with
  | none => .ok ⟨target, span, fields, some .trace⟩
  | some '=' => do
    return ⟨target, span, fields, ← thresholdAfter (← source.partFrom (place + 1))⟩
  | some _ => .error (.refused .directive)

/-- The name of a span, where an empty one stands for all. -/
def spanName (name : String) : Option String :=
  if name.isEmpty then none else some name

/-- What is wrong with the value of a detail, which is a number or else a pattern. -/
def valueFault? (value : List Char) : Option Pattern.Fault :=
  if Text.isReal value then none else Pattern.fault? value

/-- A detail with or without a value after an equals sign. -/
def checkDetail (detail : String) : Except FilterFailure Unit :=
  match (Text.fields '=' detail.toList)[1]?.bind valueFault? with
  | none => .ok ()
  | some fault => .error (.refused (.detail fault))

/-- The part of a directive within curly brackets, and the part after them. -/
def ofDetail (source : Source) (target span : Option String) (start : Nat) :
    Except FilterFailure Directive := do
  let stop := source.placeFrom start fun c => c = '\x7d'
  if (source.charAt? stop).isNone then throw (.refused .directive)
  let detail ← source.part start stop
  if detail.isEmpty then throw (.refused .directive)
  checkDetail detail
  if source.charAt? (stop + 1) = some ']' then ofTail source target span [detail] (stop + 2)
  else throw (.refused .directive)

/-- The part of a directive within square brackets, and the part after them. -/
def ofSpan (source : Source) (target : Option String) (start : Nat) :
    Except FilterFailure Directive := do
  let stop := source.placeFrom start fun c => c = ']' || c = '\x7b'
  match source.charAt? stop with
  | none => throw (.refused .directive)
  | some ']' => ofTail source target (some (← source.part start stop)) [] (stop + 1)
  | some _ => ofDetail source target (spanName (← source.part start stop)) (stop + 1)

/-- A directive without brackets or an equals sign is a threshold or else a target. -/
def ofWord (word : List Char) : Directive :=
  match threshold? word with
  | some threshold => ⟨none, none, [], threshold⟩
  | none => ⟨some (String.ofList word), none, [], some .trace⟩

/-- The directive that a source stands for. -/
def ofSource (source : Source) : Except FilterFailure Directive :=
  match source.text with
  | [] => .error (.refused .directive)
  | '[' :: _ => ofSpan source none 1
  | c :: _ =>
    if !mayStart c then .error (.refused .directive)
    else
      let stop := source.placeFrom 0 fun c => c = '=' || c = '['
      match source.charAt? stop with
      | none => .ok (ofWord source.written)
      | some '=' => do
        let target ← source.part 0 stop
        return ⟨some target, none, [], ← thresholdAfter (← source.partFrom (stop + 1))⟩
      | some _ => do ofSpan source (some (← source.part 0 stop)) (stop + 1)

/-- A directive decides about entries without regard to spans and the values of details. -/
def isPlain (directive : Directive) : Bool :=
  directive.span.isNone && directive.fields.all fun field => !field.toList.contains '='

/-- The places and details of an entry are those that a directive is for. -/
def covers (directive : Directive) (entry : Entry) : Bool :=
  directive.target.all (fun target =>
      (Text.dropLeading? target.toList entry.place.path.toList).isSome) &&
    directive.fields.all fun field => field = "message" || (entry.details.lookup field).isSome

/-- A number that grows with the length of the target. -/
def targetLength (directive : Directive) : Nat :=
  directive.target.elim 0 fun target => target.utf8ByteSize + 1

/-- Directives are ordered by the length of the target, the count of details and then their texts. -/
def order (first second : Directive) : Ordering :=
  (compare first.targetLength second.targetLength).then <|
    (compare first.fields.length second.fields.length).then <|
      (compare (first.target.getD "") (second.target.getD "")).then <|
        compare first.fields second.fields

/-- A directive is at least as specific as another. -/
def notVaguer (first second : Directive) : Bool :=
  (order second first).isLE

end Directive

/-- The rules by which log entries pass. -/
structure LogFilter where
  /-- The rules, of which the first one for an entry decides. -/
  directives : List Directive
deriving DecidableEq, Repr

namespace LogFilter

/-- The directives of a text between commas. -/
def directivesOf (text : String) : Except FilterFailure (List Directive) :=
  ((Text.fields ',' text.toList).filter fun field => !field.isEmpty).mapM fun field =>
    Directive.ofSource (.ofText field)

/-- The filter that a text stands for.

A later directive comes before an earlier one that is as specific, and nothing passes without any. -/
def ofText (text : String) : Except FilterFailure LogFilter := do
  let directives ← directivesOf text
  return ⟨(directives.filter Directive.isPlain).reverse.mergeSort Directive.notVaguer⟩

/-- An entry passes. -/
def passes (filter : LogFilter) (entry : Entry) : Bool :=
  match filter.directives.find? fun directive => directive.covers entry with
  | some ⟨_, _, _, some least⟩ => least.rank ≤ entry.level.rank
  | _ => false

/-- The first of two texts that is given and is a filter, or what is wrong with the second.

A crash over the first is final. -/
def choose (preferred : Option String) (other : String) : Except FilterFailure LogFilter :=
  match preferred.map ofText with
  | some (.ok filter) => .ok filter
  | some (.error .crashed) => .error .crashed
  | _ => ofText other

end LogFilter

end SolverHub
