import Mathlib.Data.List.Basic
import SolverHub.Proofs.Channel.Stream

/-! Whatever reporters and reader do, each update reaches the reader once and in order, or waits for it. -/

namespace SolverHub.Channel

/-- A stream has yielded some updates if it goes on with the later ones unless it is over. -/
def Stream.Yielded (stream : Stream) (updates : List Update) : Prop :=
  ∀ later, upToFinished (updates ++ later) =
    updates ++ if stream.finished then [] else upToFinished later

/-- A stream that has just been opened has yielded nothing. -/
theorem yielded_nil (opened : Nat) : (Stream.mk opened false).Yielded [] := by
  -- Nothing handed over is no finish, and any run starts with nothing.
  intro later
  simp

/-- A stream that goes on yields one more update, after which it is over if that one is finished. -/
theorem Stream.Yielded.concat {stream : Stream} {updates : List Update}
    (yielded : stream.Yielded updates) (going : stream.finished = false) (update : Update) :
    ({ stream with finished := update.isFinished } : Stream).Yielded (updates ++ [update]) := by
  -- What is still to come now is what came after the update before.
  intro later
  have further := yielded (update :: later)
  rw [going, upToFinished] at further
  rw [← List.append_cons, further, List.append_assoc]
  cases update.isFinished <;> rfl

/-- The reporters that are there are those that were made and not given up. -/
structure Attendance (reporters : List Bool) (made : Nat) (dropped : List Nat) : Prop where
  counted : reporters.length = made
  bounded : ∀ reporter ∈ dropped, reporter < made
  present : ∀ reporter, reporters[reporter]?.getD false = true ↔
    reporter < made ∧ reporter ∉ dropped

namespace Attendance

variable {reporters : List Bool} {made : Nat} {dropped : List Nat}

/-- The first reporter is there from the start. -/
theorem single : Attendance [true] 1 [] := by
  -- The one reporter there is at first is the only one that counts.
  refine ⟨rfl, by simp, fun reporter => ?_⟩
  cases reporter <;> simp

/-- One more reporter gets a number that nobody had. -/
theorem clone (attendance : Attendance reporters made dropped) :
    Attendance (reporters ++ [true]) (made + 1) dropped := by
  obtain ⟨length, bounded, present⟩ := attendance
  refine ⟨by simp [length], fun reporter gone => Nat.lt_succ_of_lt (bounded reporter gone),
    fun reporter => ?_⟩
  rcases Nat.lt_trichotomy reporter made with less | same | greater
  · rw [List.getElem?_append_left (by omega), present]
    simp only [less, Nat.lt_succ_of_lt less]
  · -- The new number cannot have been given up.
    have fresh : made ∉ dropped := fun gone => Nat.lt_irrefl _ (bounded made gone)
    subst same
    simp [← length] at fresh ⊢
    exact fresh
  · rw [List.getElem?_eq_none (by simp [length]; omega)]
    have beyond : ¬reporter < made + 1 := by omega
    simp [beyond]

/-- A reporter that is given up is no longer there. -/
theorem drop (attendance : Attendance reporters made dropped) {reporter : Nat}
    (there : reporters[reporter]?.getD false = true) :
    Attendance (reporters.set reporter false) made (dropped ++ [reporter]) := by
  obtain ⟨length, bounded, present⟩ := attendance
  have less : reporter < made := ((present reporter).mp there).1
  refine ⟨by rw [List.length_set, length], fun other gone => ?_, fun other => ?_⟩
  · rcases List.mem_append.mp gone with earlier | last
    · exact bounded other earlier
    · exact List.mem_singleton.mp last ▸ less
  · rw [List.getElem?_set, List.mem_append, List.mem_singleton]
    -- Only the reporter that is given up changes.
    by_cases same : reporter = other
    · subst same
      simp [length, less]
    · simp [same, Ne.symm same, present]

/-- Nobody is there exactly if every reporter that was made has been given up. -/
theorem any_eq_false (attendance : Attendance reporters made dropped) :
    reporters.any (·) = false ↔ ∀ reporter < made, reporter ∈ dropped := by
  rw [List.any_eq_false]
  refine ⟨fun nobody reporter less => ?_, fun all present member => ?_⟩
  · -- A reporter that was not given up would be there.
    by_contra kept
    have there := (attendance.present reporter).mpr ⟨less, kept⟩
    rw [List.getElem?_eq_getElem (by rw [attendance.counted]; exact less), Option.getD_some] at there
    exact nobody _ (List.getElem_mem _) there
  · -- One who is there has a number, and that number was not given up.
    intro here
    obtain ⟨reporter, bound, rfl⟩ := List.mem_iff_getElem.mp member
    have there : reporters[reporter]?.getD false = true := by
      rw [List.getElem?_eq_getElem bound, Option.getD_some]
      exact here
    obtain ⟨less, kept⟩ := (attendance.present reporter).mp there
    exact kept (all reporter less)

end Attendance

namespace Usage

/-- Each update that was reported to a reader was handed over or waits, in the order of the reports. -/
structure Sound (usage : Usage) : Prop where
  conserved : usage.handed ++ usage.unread ++ usage.channel.queue = usage.reported
  attended : usage.channel.reading = true → usage.unread = []
  deserted : usage.channel.reading = false → usage.channel.queue = [] ∧ usage.stream = none
  attendance : Attendance usage.channel.reporters usage.made usage.dropped
  streaming : ∀ stream, usage.stream = some stream → stream.opened ≤ usage.handed.length ∧
    stream.Yielded (usage.handed.drop stream.opened)

variable {usage : Usage}

/-- A new channel is sound. -/
theorem sound_start (id : Identifier) : (start id).Sound where
  -- Nothing is reported, handed over or queued yet.
  conserved := rfl
  attended _ := rfl
  deserted gone := by cases gone
  attendance := .single
  streaming _ opened := by cases opened

/-- A report changes nothing where the reader is gone. -/
theorem perform_report_of_gone (gone : usage.channel.reading = false) (reporter : Nat)
    (update : Update) : usage.perform (.report reporter update) = usage := by
  -- A report without a reader is dropped.
  simp [perform, Channel.report, gone]

/-- A report waits behind the others where the reader is there. -/
theorem perform_report (here : usage.channel.reading = true) (reporter : Nat) (update : Update) :
    usage.perform (.report reporter update) =
      { usage with
        channel := { usage.channel with queue := usage.channel.queue ++ [update] }
        reported := usage.reported ++ [update] } := by
  -- The queue has no bound, so a report always finds room.
  simp [perform, Channel.report, here]

/-- A reader gets nothing where nothing waits. -/
theorem perform_read_nil (queued : usage.channel.queue = []) : usage.perform .read = usage := by
  cases left : usage.channel.anyReporter <;> simp [perform, Channel.read, queued, left, hand]

/-- A reader gets the oldest update. -/
theorem perform_read_cons {update : Update} {rest : List Update}
    (queued : usage.channel.queue = update :: rest) :
    usage.perform .read =
      { usage with
        channel := { usage.channel with queue := rest }
        handed := usage.handed ++ [update] } := by
  -- A read takes the head of the queue.
  simp [perform, Channel.read, queued, hand]

/-- A stream that is over, or that finds nothing, leaves everything as it is. -/
theorem perform_poll_idle {stream : Stream} (opened : usage.stream = some stream)
    (idle : stream.finished = true ∨ usage.channel.queue = []) : usage.perform .poll = usage := by
  obtain ⟨channel, open?, reported, handed, unread, made, dropped⟩ := usage
  obtain ⟨start, finished⟩ := stream
  cases opened
  -- An ended stream is not polled, and one that goes on finds nothing.
  cases finished with
  | true => rfl
  | false =>
    have queued : channel.queue = [] := idle.resolve_left Bool.false_ne_true
    simp only [perform, poll_nil queued]
    cases channel.anyReporter <;> rfl

/-- A stream that goes on yields the oldest update. -/
theorem perform_poll_cons {stream : Stream} (opened : usage.stream = some stream)
    (going : stream.finished = false) {update : Update} {rest : List Update}
    (queued : usage.channel.queue = update :: rest) :
    usage.perform .poll =
      { usage with
        channel := { usage.channel with queue := rest }
        handed := usage.handed ++ [update]
        stream := some { stream with finished := update.isFinished } } := by
  -- The stream hands the head over and ends if it is a finish.
  simp only [perform, opened, going, poll_cons queued, hand]

namespace Sound

/-- While the reader is there, what was reported was handed over or waits. -/
theorem all_of_attended (sound : usage.Sound) (here : usage.channel.reading = true) :
    usage.handed ++ usage.channel.queue = usage.reported := by
  -- Nothing has been left behind.
  rw [← sound.conserved, sound.attended here, List.append_nil]

/-- Once the reader has left, what was reported to it was handed over or discarded. -/
theorem all_of_deserted (sound : usage.Sound) (gone : usage.channel.reading = false) :
    usage.handed ++ usage.unread = usage.reported := by
  -- Nothing waits where nobody reads.
  rw [← sound.conserved, (sound.deserted gone).1, List.append_nil]

/-- The oldest update that waits is handed over, and waits no longer. -/
theorem hand_next (sound : usage.Sound) (here : usage.channel.reading = true) {update : Update}
    {rest : List Update} (queued : usage.channel.queue = update :: rest) :
    usage.handed ++ [update] ++ usage.unread ++ rest = usage.reported := by
  -- Nothing has been left behind, so what was handed over borders on the queue.
  rw [← sound.conserved, sound.attended here, queued]
  simp

/-- A report keeps a channel sound. -/
theorem report (sound : usage.Sound) (reporter : Nat) (update : Update) :
    (usage.perform (.report reporter update)).Sound := by
  cases reading : usage.channel.reading with
  | false =>
    rw [perform_report_of_gone reading]
    exact sound
  | true =>
    rw [perform_report reading]
    refine ⟨?_, sound.attended, fun gone => absurd (reading.symm.trans gone) nofun,
      sound.attendance, sound.streaming⟩
    -- What is reported is queued behind all that waits.
    show _ ++ (_ ++ [update]) = _ ++ [update]
    rw [← List.append_assoc, sound.conserved]

/-- A poll keeps a channel sound. -/
theorem poll (sound : usage.Sound) {stream : Stream} (opened : usage.stream = some stream) :
    (usage.perform .poll).Sound := by
  -- Only a reader that is there can have a stream open.
  have here : usage.channel.reading = true := by
    by_contra gone
    have closed := (sound.deserted (Bool.eq_false_iff.mpr gone)).2
    rw [opened] at closed
    cases closed
  by_cases idle : stream.finished = true ∨ usage.channel.queue = []
  · rw [perform_poll_idle opened idle]
    exact sound
  · obtain ⟨going, waiting⟩ := not_or.mp idle
    have going : stream.finished = false := Bool.eq_false_iff.mpr going
    obtain ⟨update, rest, queued⟩ := List.exists_cons_of_ne_nil waiting
    obtain ⟨start, yielded⟩ := sound.streaming stream opened
    rw [perform_poll_cons opened going queued]
    refine ⟨sound.hand_next here queued, sound.attended,
      fun gone => absurd (here.symm.trans gone) nofun, sound.attendance, fun other same => ?_⟩
    cases same
    -- The stream started before what has just been handed over.
    refine ⟨Nat.le_trans start ?_, ?_⟩
    · rw [List.length_append]
      exact Nat.le_add_right _ _
    · rw [List.drop_append_of_le_length start]
      exact yielded.concat going update

/-- Every possible operation keeps a channel sound. -/
theorem perform (sound : usage.Sound) {operation : Operation}
    (allowed : usage.allows operation = true) : (usage.perform operation).Sound := by
  -- Reporters change who is there, and the reader moves the border between had and waiting.
  cases operation with
  | report reporter update => exact sound.report reporter update
  | clone reporter =>
    exact ⟨sound.conserved, sound.attended, sound.deserted, sound.attendance.clone,
      sound.streaming⟩
  | dropReporter reporter =>
    exact ⟨sound.conserved, sound.attended, sound.deserted, sound.attendance.drop allowed,
      sound.streaming⟩
  | read =>
    obtain ⟨here, alone⟩ := Bool.and_eq_true_iff.mp allowed
    cases queued : usage.channel.queue with
    | nil =>
      rw [perform_read_nil queued]
      exact sound
    | cons update rest =>
      rw [perform_read_cons queued]
      refine ⟨sound.hand_next here queued, sound.attended,
        fun gone => absurd (here.symm.trans gone) nofun, sound.attendance, fun stream opened => ?_⟩
      -- A reader that reads on its own has no stream open.
      rw [opened] at alone
      cases alone
  | drain =>
    obtain ⟨here, alone⟩ := Bool.and_eq_true_iff.mp allowed
    refine ⟨?_, sound.attended, fun gone => ⟨rfl, (sound.deserted gone).2⟩, sound.attendance,
      fun stream opened => ?_⟩
    · show usage.handed ++ usage.channel.queue ++ usage.unread ++ [] = usage.reported
      rw [sound.attended here, List.append_nil, List.append_nil, sound.all_of_attended here]
    · have opened : usage.stream = some stream := opened
      rw [opened] at alone
      cases alone
  | openStream =>
    obtain ⟨here, _⟩ := Bool.and_eq_true_iff.mp allowed
    refine ⟨sound.conserved, sound.attended, fun gone => absurd (here.symm.trans gone) nofun,
      sound.attendance, fun stream opened => ?_⟩
    -- The stream starts behind everything that has been handed over.
    cases opened
    refine ⟨Nat.le_refl _, ?_⟩
    show Stream.Yielded _ (usage.handed.drop usage.handed.length)
    rw [List.drop_length]
    exact yielded_nil _
  | poll =>
    obtain ⟨stream, opened⟩ := Option.isSome_iff_exists.mp allowed
    exact sound.poll opened
  | closeStream =>
    exact ⟨sound.conserved, sound.attended, fun gone => ⟨(sound.deserted gone).1, rfl⟩,
      sound.attendance, nofun⟩
  | dropReader =>
    obtain ⟨here, alone⟩ := Bool.and_eq_true_iff.mp allowed
    refine ⟨?_, nofun, fun _ => ⟨rfl, Option.isNone_iff_eq_none.mp alone⟩, sound.attendance,
      sound.streaming⟩
    -- The queue becomes what is left behind.
    show usage.handed ++ usage.channel.queue ++ [] = usage.reported
    rw [List.append_nil, sound.all_of_attended here]

/-- Any operation keeps a channel sound, whether it is possible or not. -/
theorem step (sound : usage.Sound) (operation : Operation) : (usage.step operation).Sound := by
  unfold Usage.step
  -- An operation that is not allowed leaves everything as it is.
  split
  · rename_i allowed
    exact sound.perform allowed
  · exact sound

/-- A channel is sound after any operations. -/
theorem play (sound : usage.Sound) (operations : List Operation) :
    (usage.play operations).Sound := by
  -- The induction follows the operations.
  induction operations generalizing usage with
  | nil => exact sound
  | cons operation rest ih => exact ih (sound.step operation)

/-- A stream that is open has yielded the front of what there was for it, and the others wait. -/
theorem available (sound : usage.Sound) {stream : Stream} (opened : usage.stream = some stream) :
    usage.reported.drop stream.opened =
      usage.handed.drop stream.opened ++ usage.channel.queue := by
  obtain ⟨start, _⟩ := sound.streaming stream opened
  -- A reader that has a stream open has not left anything behind.
  have unread : usage.unread = [] := by
    cases reading : usage.channel.reading with
    | true => exact sound.attended reading
    | false =>
      have closed := (sound.deserted reading).2
      rw [opened] at closed
      cases closed
  rw [← sound.conserved, unread, List.append_nil, List.drop_append_of_le_length start]

end Sound

/-- A poll of a stream yields the next update for it, and yields none only after all that there are. -/
theorem poll_yields {stream : Stream} {yielded queue : List Update} {channel : Channel}
    (through : stream.Yielded yielded) (queued : channel.queue = queue) :
    yielded <+: upToFinished (yielded ++ queue) ∧
      (∀ update, (channel.poll stream.finished).1 = .update update →
        yielded ++ [update] <+: upToFinished (yielded ++ queue)) ∧
      ((∀ update, (channel.poll stream.finished).1 ≠ .update update) →
        yielded = upToFinished (yielded ++ queue)) := by
  rw [through queue]
  refine ⟨List.prefix_append _ _, ?_⟩
  -- A stream that is over has yielded all, and any other one yields the head of the queue.
  cases finished : stream.finished with
  | true => exact ⟨nofun, fun _ => (List.append_nil _).symm⟩
  | false =>
    cases queue with
    | nil =>
      rw [poll_nil queued]
      refine ⟨fun update taken => ?_, fun _ => (List.append_nil _).symm⟩
      cases left : channel.anyReporter <;> simp [left] at taken
    | cons update rest =>
      rw [poll_cons queued]
      refine ⟨fun other taken => ?_, fun nothing => absurd rfl (nothing update)⟩
      cases taken
      -- The update comes first in what the stream has yet to yield, finished or not.
      rw [upToFinished]
      cases update.isFinished
      · exact ⟨upToFinished rest, by simp⟩
      · exact ⟨[], by simp⟩

/-- Whatever is done with a channel, its reader gets each update once and in the order of the reports.

While the reader is there, what it got and what waits is all that was reported. When it leaves, what
still waits is discarded, and what it got and what was discarded is all that was reported before. A
reader gets the oldest update that waits; where none does it learns whether all reporters that were
ever made are gone. A stream yields the updates that came since it was opened, up to and including
the first finished one, and all others wait on. -/
theorem conserved_after (id : Identifier) (operations : List Operation) :
    let usage := (start id).play operations
    let channel := usage.channel
    usage.handed ++ usage.unread ++ channel.queue = usage.reported ∧
    (channel.reading = true → usage.unread = [] ∧
      usage.handed ++ channel.queue = usage.reported) ∧
    (channel.reading = false → channel.queue = [] ∧
      usage.handed ++ usage.unread = usage.reported) ∧
    (∀ update rest, channel.queue = update :: rest →
      channel.read = (.update update, { channel with queue := rest })) ∧
    (channel.queue = [] → channel.read =
      (if ∀ reporter < usage.made, reporter ∈ usage.dropped then .closed else .pending,
        channel)) ∧
    (∀ stream, usage.stream = some stream →
      let yielded := usage.handed.drop stream.opened
      let available := usage.reported.drop stream.opened
      available = yielded ++ channel.queue ∧
      yielded <+: upToFinished available ∧
      (∀ update, (channel.poll stream.finished).1 = .update update →
        yielded ++ [update] <+: upToFinished available) ∧
      ((∀ update, (channel.poll stream.finished).1 ≠ .update update) →
        yielded = upToFinished available) ∧
      usage.step .closeStream = { usage with stream := none }) ∧
    (∀ wanted, channel.stream wanted =
        channel.pull false (wanted.getD (channel.queue.length + 1)) ∧
      (channel.stream wanted).1 =
        (upToFinished channel.queue).take (wanted.getD channel.queue.length) ∧
      (channel.stream wanted).1 ++ (channel.stream wanted).2.2.queue = channel.queue) ∧
    (channel.reading = false →
      ∀ reporter update, usage.step (.report reporter update) = usage) := by
  intro usage channel
  have sound : usage.Sound := (sound_start id).play operations
  refine ⟨sound.conserved, fun here => ⟨sound.attended here, sound.all_of_attended here⟩,
    fun gone => ⟨(sound.deserted gone).1, sound.all_of_deserted gone⟩,
    fun update rest queued => ?_, fun queued => ?_, fun stream opened => ?_,
    fun wanted => ⟨stream_eq_pull channel wanted, stream_yields channel wanted⟩,
    fun gone reporter update => ?_⟩
  · rw [read, queued]
  · -- An empty queue is closed once nobody is there who could report.
    have nobody := sound.attendance.any_eq_false
    rw [read, queued]
    by_cases all : ∀ reporter < usage.made, reporter ∈ usage.dropped
    · rw [if_pos all, anyReporter, nobody.mpr all]
      rfl
    · rw [if_neg all, anyReporter, (Bool.not_eq_false _).mp (mt nobody.mp all)]
      rfl
  · intro yielded available
    have split : available = yielded ++ channel.queue := sound.available opened
    have through : stream.Yielded yielded := (sound.streaming stream opened).2
    obtain ⟨front, next, last⟩ := poll_yields through (rfl : channel.queue = channel.queue)
    rw [← split] at front next last
    refine ⟨split, front, next, last, ?_⟩
    have allowed : usage.allows .closeStream = true := by rw [allows, opened, Option.isSome_some]
    rw [step, if_pos allowed, perform]
  · rw [step, perform_report_of_gone gone, ite_self]

/-- An update that still waits when the reader leaves is neither handed over nor queued any more. -/
theorem not_conserved_deserted :
    ¬∀ (id : Identifier) (operations : List Operation),
      let usage := (start id).play operations
      usage.handed ++ usage.channel.queue = usage.reported := by
  intro conserved
  -- One report that nobody reads is discarded with the reader.
  let id : Identifier := ⟨"Advent of Code", 2023, "alice", "Day 1", "Part 1"⟩
  have lost := conserved id [.report 0 ⟨id, .text "a"⟩, .dropReader]
  cases lost

-- A stream that is given up after one update leaves the next one to a read.
example (id : Identifier) (first second : String) :
    let text (line : String) : Update := ⟨id, .text line⟩
    ((start id).play [.openStream, .poll, .report 0 (text first), .poll, .report 0 (text second),
      .closeStream, .dropReporter 0, .read, .read]).handed = [text first, text second] := by cbv

end Usage

end SolverHub.Channel
