import Mathlib.Data.List.Forall2
import SolverHub.Json.Reader
import SolverHub.Proofs.Json.Strings
import SolverHub.Proofs.Text.Decimal

/-! A printed value is read back as that value. -/

namespace SolverHub.Json

mutual
/-- A value is made of words, whole numbers, strings, lists and objects alone. -/
def IsPlain : Json → Prop
  | real _ _ | disguised _ | broken => False
  | list items => ArePlain items
  | object entries => HavePlain entries
  | _ => True

/-- Every item of a list is plain. -/
def ArePlain : List Json → Prop
  | [] => True
  | item :: items => IsPlain item ∧ ArePlain items

/-- Every value in an object is plain. -/
def HavePlain : List (String × Json) → Prop
  | [] => True
  | (_, value) :: entries => IsPlain value ∧ HavePlain entries
end

/-- What follows a value ends it: a comma, a closing mark or the end of the text. -/
def Ends (text : List Char) : Prop :=
  ∀ c ∈ text.head?, c = ',' ∨ c = ']' ∨ c = '\x7d'

/-- A reader arrives at a value after the tokens of a text. -/
def Leads (reading : Reading) (text : List Char) (value : Json) : Prop :=
  ∃ tokens, (∀ steps, text.length ≤ steps → scanTokens steps text = some tokens) ∧
    (tokens.foldlM Reading.step reading >>= Reading.result?) = some value

variable {reading next : Reading} {text rest after : List Char} {value last : Json}
  {frames : List Frame}

/-- A text leads to the value that is parsed from it. -/
theorem Leads.parse? {text : String} (leads : Leads .start text.toList value) :
    Json.parse? text = some value := by
  -- The tokens are scanned with one step for each character, which is enough.
  obtain ⟨tokens, scanned, read⟩ := leads
  rw [Json.parse?, tokens?, scanned _ (Nat.le_refl _)]
  exact read

/-- A value with nothing behind it is the result. -/
theorem leads_ended : Leads ⟨.ended value, []⟩ [] value :=
  ⟨[], fun _ _ => by rw [scanTokens], rfl⟩

/-- A token leads a reader one step on. -/
theorem Leads.advance {c : Char} {token : Token} (shown : isSpace c = false)
    (scanned : scanToken (c :: text) = some (token, after)) (behind : after <:+ text)
    (step : reading.step token = some next) (leads : Leads next after value) :
    Leads reading (c :: text) value := by
  obtain ⟨tokens, others, read⟩ := leads
  refine ⟨token :: tokens, fun steps enough => ?_, ?_⟩
  · -- At least one step is left for the token.
    cases steps with
    | zero => exact absurd enough (by simp)
    | succ steps =>
      have left : after.length ≤ steps := by
        have shorter := behind.length_le
        simp only [List.length_cons] at enough
        omega
      rw [scanTokens, shown, if_neg Bool.false_ne_true, scanned]
      simp [others steps left]
  · simpa [List.foldlM_cons, step] using read

/-- A string leads a reader on by the spelling of the string. -/
theorem Leads.textForm {value : String}
    (step : ∀ spelling, spelling.meaning = some value → spelling.hidesDigits = false →
      ∃ next, reading.step (.text spelling) = some next ∧ Leads next rest last) :
    Leads reading (textForm value ++ rest) last := by
  obtain ⟨meaning, hides⟩ := spellingOf_escapes value rest
  obtain ⟨next, moved, leads⟩ := step _ meaning hides
  -- The quotes stand around the escaped characters, which the scan reads back.
  have form : Json.textForm value ++ rest =
      '"' :: (value.toList.flatMap escaped ++ '"' :: rest) := by
    simp [Json.textForm]
  rw [form]
  refine leads.advance (by decide) ?_ ⟨value.toList.flatMap escaped ++ ['"'], by simp⟩ moved
  simp [scanToken, scanText_escapes]

/-- No fraction and no exponent stand behind a number that ends. -/
theorem Ends.scan (ends : Ends rest) :
    Text.DigitFree rest ∧ scanFraction rest = some ([], rest) ∧
      scanExponent rest = some (none, rest) := by
  cases rest with
  | nil => exact ⟨nofun, rfl, rfl⟩
  | cons c rest =>
    -- The first character is one of three.
    rcases ends c rfl with rfl | rfl | rfl
    all_goals exact ⟨fun _ first => Option.some.inj first ▸ rfl, rfl, rfl⟩

/-- The digits of a number are scanned as that number. -/
theorem scanNumber_natDigits (negative : Bool) {n : Nat} (ends : Ends rest)
    (signed : negative = true → n ≠ 0) :
    scanNumber negative (Text.natDigits n ++ rest) =
      some (int (if negative then -(n : Int) else n), rest) := by
  obtain ⟨free, fraction, exponent⟩ := ends.scan
  have digits : Text.spanDigits (Text.natDigits n ++ rest) = (Text.natDigits n, rest) :=
    Text.spanDigits_append (fun _ => Text.isDigit_of_mem_natDigits) free
  have nonempty : (Text.natDigits n).isEmpty = false := by simp [Text.natDigits_ne_nil]
  -- A number above zero starts with another digit, and zero has no second digit.
  have leading : ((Text.natDigits n).head? == some '0' && (Text.natDigits n).length > 1) = false := by
    rcases Nat.eq_zero_or_pos n with rfl | positive
    · simp [Text.natDigits]
    · simp [Text.head?_natDigits_ne positive]
  rw [scanNumber, digits]
  simp only [nonempty, leading, fraction, exponent, Text.digitsValue?_natDigits, Bool.or_self,
    Bool.false_eq_true, if_false, Option.bind_eq_bind, Option.bind_some, List.isEmpty_nil,
    Option.isNone_none, Bool.true_and]
  -- Nothing but a zero with a sign would be read as another kind of number.
  have notMinusZero : negative = false ∨ n ≠ 0 := by
    cases negative <;> simp_all
  rw [if_pos (by simpa using notMinusZero)]
  rfl

/-- No digit is a blank. -/
theorem isSpace_digit {c : Char} (digit : Text.isDigit c = true) : isSpace c = false := by
  cases space : isSpace c with
  | false => rfl
  | true =>
    -- There are four blanks, none of which is a digit.
    simp only [isSpace, Bool.or_eq_true, decide_eq_true_eq] at space
    rcases space with ((rfl | rfl) | rfl) | rfl <;> cases digit

/-- A text that starts with a digit starts with a number. -/
theorem scanToken_digit {c : Char} (digit : Text.isDigit c = true) :
    scanToken (c :: text) =
      (scanNumber false (c :: text)).map fun found => (.scalar found.1, found.2) := by
  rw [scanToken.eq_def]
  -- No other token starts with a digit.
  split
  case h_12 => rfl
  all_goals
    rename_i same
    cases same
    exact absurd digit (by decide)

/-- A whole number leads a reader on by one token. -/
theorem Leads.intForm {value : Int} (ends : Ends rest)
    (step : reading.step (.scalar (int value)) = some next) (leads : Leads next rest last) :
    Leads reading (intForm value ++ rest) last := by
  unfold Json.intForm
  split
  · -- The sign is scanned first, and the digits behind it are not those of zero.
    rename_i negative
    have nonzero : value.natAbs ≠ 0 := by omega
    have scanned := scanNumber_natDigits true ends fun _ => nonzero
    have same : (-(value.natAbs : Int)) = value := by omega
    rw [if_pos rfl, same] at scanned
    refine leads.advance (by decide) ?_ ⟨_, rfl⟩ step
    exact congrArg (Option.map fun found => (Token.scalar found.1, found.2)) scanned
  · rename_i positive
    have scanned := scanNumber_natDigits false (n := value.natAbs) ends nofun
    have same : (value.natAbs : Int) = value := by omega
    rw [if_neg Bool.false_ne_true, same] at scanned
    cases digits : Text.natDigits value.natAbs with
    | nil => exact absurd digits (Text.natDigits_ne_nil _)
    | cons c others =>
      have digit : Text.isDigit c = true :=
        Text.isDigit_of_mem_natDigits (n := value.natAbs) (by simp [digits])
      rw [digits] at scanned
      refine leads.advance (isSpace_digit digit) ?_ ⟨_, rfl⟩ step
      rw [scanToken_digit digit]
      exact congrArg (Option.map fun found => (Token.scalar found.1, found.2)) scanned

/-- A reader is about to read a value inside some lists and objects. -/
def Begins (reading : Reading) (frames : List Frame) : Prop :=
  ∀ token, token ≠ .closeList → reading.step token = Reading.beginValue frames token

/-- A reader begins with any value where one must come. -/
theorem begins_value : Begins ⟨.value, frames⟩ frames := fun _ _ => rfl

/-- A reader begins with a value where the first item of a list may come. -/
theorem begins_firstItem : Begins ⟨.firstItem, .items [] :: frames⟩ (.items [] :: frames) := by
  intro token other
  -- Any mark but the closing one is read as it is where a value must come.
  cases token
  case closeList => exact absurd rfl other
  all_goals rfl

/-- The name and the value of an entry as they have been read. -/
def Spells (read : Spelling × Json) (entry : String × Json) : Prop :=
  read.1.meaning = some entry.1 ∧ read.1.hidesDigits = false ∧ read.2 = entry.2

/-- One more entry is read behind earlier ones. -/
theorem spells_concat {before : List (Spelling × Json)} {earlier : List (String × Json)}
    {read : Spelling × Json} {entry : String × Json}
    (spelled : List.Forall₂ Spells before.reverse earlier) (spells : Spells read entry) :
    List.Forall₂ Spells (read :: before).reverse (earlier ++ [entry]) := by
  -- Entries are put in front as they are read, so the list is turned round.
  rw [List.reverse_cons]
  exact List.rel_append spelled (.cons spells .nil)

/-- A name leads a reader to its colon. -/
theorem step_name {before : List (Spelling × Json)} {first : Bool} (name : Spelling) :
    Reading.step ⟨.name before first, frames⟩ (.text name) = some ⟨.colon before name, frames⟩ := by
  -- The first name of an object is read like any other one.
  cases first <;> rfl

/-- Entries without hidden digits are those of an object. -/
theorem ofEntries_spells {read : List (Spelling × Json)} {entries : List (String × Json)}
    (spelled : List.Forall₂ Spells read entries) : Reading.ofEntries read = object entries := by
  -- The induction follows the entries, whose names all have a meaning.
  have meant : (read.mapM fun entry => entry.1.meaning.map (·, entry.2)) = some entries ∧
      (read.any fun entry => entry.1.hidesDigits) = false := by
    induction spelled with
    | nil => exact ⟨rfl, rfl⟩
    | cons first _ ih =>
      obtain ⟨meaning, shown, same⟩ := first
      exact ⟨by simp [List.mapM_cons, meaning, same, ih.1], by simp [shown, ih.2]⟩
  rw [Reading.ofEntries, meant.1, meant.2]
  rfl

/-- The value of a string that has been scanned is the string. -/
theorem ofText_meaning {spelling : Spelling} {value : String}
    (meaning : spelling.meaning = some value) : Reading.ofText spelling = Json.text value := by
  -- A string without a lone half of a pair has a meaning.
  rw [Reading.ofText, meaning]
  rfl

/-- A mark leads a reader one step on. -/
theorem Leads.mark {c : Char} {token : Token} (shown : isSpace c = false)
    (scanned : scanToken (c :: rest) = some (token, rest)) (step : reading.step token = some next)
    (leads : Leads next rest last) : Leads reading (c :: rest) last :=
  -- A mark is a token of one character.
  leads.advance shown scanned (List.suffix_refl rest) step

/-- A mark that closes or separates ends what stands before it. -/
theorem ends_cons {c : Char} (mark : c = ',' ∨ c = ']' ∨ c = '\x7d') : Ends (c :: rest) :=
  fun _ first => Option.some.inj first ▸ mark

/-- A comma stands between two items of a list. -/
theorem itemsForm_cons (item second : Json) (items : List Json) :
    itemsForm (item :: second :: items) = form item ++ ',' :: itemsForm (second :: items) := by
  -- The second case is for a single item, which this is not.
  rw [itemsForm]
  nofun

/-- A comma stands between two entries of an object. -/
theorem entriesForm_cons (name : String) (second : String × Json) (entries : List (String × Json)) :
    entriesForm ((name, value) :: second :: entries) =
      textForm name ++ ':' :: form value ++ ',' :: entriesForm (second :: entries) := by
  -- The second case is for a single entry, which this is not.
  rw [entriesForm]
  nofun

mutual

/-- The form of a value leads a reader to the end of the value. -/
theorem leads_form {reading : Reading} {frames : List Frame} {rest : List Char}
    (begins : Begins reading frames) (ends : Ends rest) :
    (value : Json) → IsPlain value → Leads ⟨.ended value, frames⟩ rest last →
      Leads reading (form value ++ rest) last
  -- The recursion follows the value; each case reads its own tokens and then what is behind.
  | .null, _, leads => leads.advance (by decide) rfl ⟨['u', 'l', 'l'], rfl⟩ (begins _ nofun)
  | .bool true, _, leads => leads.advance (by decide) rfl ⟨['r', 'u', 'e'], rfl⟩ (begins _ nofun)
  | .bool false, _, leads =>
    leads.advance (by decide) rfl ⟨['a', 'l', 's', 'e'], rfl⟩ (begins _ nofun)
  | .int value, _, leads => by
    rw [form]
    exact leads.intForm ends (begins _ nofun)
  | .text value, _, leads => by
    rw [form]
    refine Leads.textForm fun spelling meaning _ => ⟨_, begins _ nofun, ?_⟩
    rw [ofText_meaning meaning]
    exact leads
  | .list [], _, leads => by
    rw [form, itemsForm]
    exact .mark (by decide) rfl (begins _ nofun) (leads.mark (by decide) rfl rfl)
  | .list (item :: items), plain, leads => by
    rw [form]
    refine .mark (by decide) rfl (begins _ nofun) ?_
    exact leads_itemsForm begins_firstItem (item :: items) (List.cons_ne_nil _ _) plain leads
  | .object [], _, leads => by
    rw [form, entriesForm]
    exact .mark (by decide) rfl (begins _ nofun) (leads.mark (by decide) rfl rfl)
  | .object (entry :: entries), plain, leads => by
    rw [form]
    refine .mark (by decide) rfl (begins _ nofun) ?_
    exact leads_entriesForm .nil (entry :: entries) (List.cons_ne_nil _ _) plain leads

/-- The form of the items of a list leads a reader to the end of the list. -/
theorem leads_itemsForm {reading : Reading} {frames : List Frame} {rest : List Char}
    {before : List Json} (begins : Begins reading (.items before :: frames)) :
    (items : List Json) → items ≠ [] → ArePlain items →
      Leads ⟨.ended (list (before.reverse ++ items)), frames⟩ rest last →
        Leads reading (itemsForm items ++ rest) last
  -- The recursion follows the items, behind those that have been read before.
  | [], some_item, _, _ => absurd rfl some_item
  | [item], _, plain, leads => by
    rw [itemsForm, List.append_assoc]
    refine leads_form begins (ends_cons (.inr (.inl rfl))) item plain.1 ?_
    refine leads.mark (by decide) rfl ?_
    simp [Reading.step, Reading.afterValue]
  | item :: second :: items, _, plain, leads => by
    rw [itemsForm_cons, List.append_assoc]
    refine leads_form begins (ends_cons (.inl rfl)) item plain.1 ?_
    refine .mark (by decide) rfl rfl ?_
    refine leads_itemsForm begins_value (second :: items) (List.cons_ne_nil _ _) plain.2 ?_
    simpa using leads

/-- The form of the entries of an object leads a reader to the end of the object. -/
theorem leads_entriesForm {frames : List Frame} {rest : List Char} {before : List (Spelling × Json)}
    {earlier : List (String × Json)} {first : Bool}
    (spelled : List.Forall₂ Spells before.reverse earlier) :
    (entries : List (String × Json)) → entries ≠ [] → HavePlain entries →
      Leads ⟨.ended (object (earlier ++ entries)), frames⟩ rest last →
        Leads ⟨.name before first, frames⟩ (entriesForm entries ++ rest) last
  -- The recursion follows the entries, behind those that have been read before.
  | [], some_entry, _, _ => absurd rfl some_entry
  | [(name, value)], _, plain, leads => by
    rw [entriesForm, List.append_assoc, List.cons_append, List.append_assoc]
    refine Leads.textForm fun spelling meaning shown => ⟨_, step_name spelling, ?_⟩
    refine .mark (by decide) rfl rfl ?_
    refine leads_form begins_value (ends_cons (.inr (.inr rfl))) value plain.1 ?_
    refine leads.mark (by decide) rfl ?_
    -- The entry that has been read joins the earlier ones.
    have entry : Spells (spelling, value) (name, value) := ⟨meaning, shown, rfl⟩
    rw [← ofEntries_spells (spells_concat spelled entry)]
    rfl
  | (name, value) :: second :: entries, _, plain, leads => by
    rw [entriesForm_cons, List.append_assoc, List.cons_append, List.append_assoc]
    refine Leads.textForm fun spelling meaning shown => ⟨_, step_name spelling, ?_⟩
    refine .mark (by decide) rfl rfl ?_
    refine leads_form begins_value (ends_cons (.inl rfl)) value plain.1 ?_
    refine .mark (by decide) rfl rfl ?_
    have entry : Spells (spelling, value) (name, value) := ⟨meaning, shown, rfl⟩
    refine leads_entriesForm (spells_concat spelled entry) (second :: entries)
      (List.cons_ne_nil _ _) plain.2 ?_
    simpa using leads

end

/-- A value that is made of words, whole numbers, strings, lists and objects is read back. -/
theorem parse?_render (plain : IsPlain value) : Json.parse? value.render = some value := by
  -- The text is all there is, so the value ends with it.
  refine Leads.parse? ?_
  rw [render, String.toList_ofList, ← List.append_nil (form value)]
  exact leads_form begins_value (fun _ first => by cases first) value plain leads_ended

end SolverHub.Json
