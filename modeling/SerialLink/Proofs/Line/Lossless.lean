import SerialLink.Proofs.History
import SerialLink.Proofs.Line.Receiving

namespace SerialLink

open Reassembler

/-! Any number of calls on a receiver.

Whatever the calls do in between, wait, give up, report a failure or an end, no byte that the line
has delivered is lost or seen twice, and what is handed out is the script's own story.
-/

variable {receiver after : Receiver} {line : Line} {reads : List ReadAction}

theorem failures_frames (frames : List Bytes) :
    (frames.map Delivery.frame).filterMap Delivery.failure? = [] := by
  simp [List.filterMap_eq_nil_iff, Delivery.failure?]

theorem failures_upcoming (reassembler : Reassembler) (reads : List ReadAction) :
    (reassembler.upcoming reads).filterMap Delivery.failure? = Line.failures reads := by
  induction reads generalizing reassembler with
  | nil => rfl
  | cons action rest ih =>
      cases action with
      | finish => exact ih reassembler
      | fail kind => exact congrArg (IoError.ofKind kind :: ·) (ih reassembler)
      | wait milliseconds begun => exact ih reassembler
      | data bytes =>
          simp only [Reassembler.upcoming]
          split
          · exact ih reassembler
          · simp only [List.filterMap_append, failures_frames, List.nil_append, ih, Line.failures]

private theorem filterMap_singleton (f : α → Option β) (a : α) :
    [a].filterMap f = (f a).toList := by
  cases found : f a <;> simp [found]

namespace Receiver

theorem failures_upcoming (receiver : Receiver) (reads : List ReadAction) :
    (receiver.upcoming reads).filterMap Delivery.failure? = Line.failures reads := by
  simp only [upcoming, List.filterMap_append, failures_frames, List.nil_append,
    SerialLink.failures_upcoming]
  split <;> rfl

def call (state : Receiver × Line) (deadline : Deadline) : Option Delivery × (Receiver × Line) :=
  let attempt := state.1.next state.2 deadline
  (attempt.outcome, attempt.owner, attempt.line)

/-- What calls have made of a script: all that they have handed out, and what is left. -/
structure Reception (before : Receiver × Line) (entries : List (Deadline × Option Delivery))
    (state : Receiver × Line) : Prop where
  consumes : ∃ consumed,
    before.1.buffer ++ Line.delivered before.2.reads =
        consumed ++ (state.1.buffer ++ Line.delivered state.2.reads) ∧
      before.1.reassembler.feedAll consumed =
        (entries.filterMap (·.2.bind Delivery.frame?), state.1.reassembler)
  drains : ∀ entry, entries.getLast? = some entry → entry.2.bind Delivery.frame? = none →
    state.1.buffer = []
  story : ∃ spare, entries.filterMap (·.2) ++ state.1.upcoming state.2.reads =
    before.1.upcoming before.2.reads ++ List.replicate spare .ended
  answers : (none, none) ∈ entries → before.2.readsHang = true ∧ state.2.reads = []
  settled : state.1.Settled
  hangs : state.2.readsHang = before.2.readsHang

theorem call_reading {state : Receiver × Line} (settled : state.1.Settled) (deadline : Deadline) :
    Reading deadline state.2.readsHang state.1 state.2.reads (call state deadline).1
      (call state deadline).2.1 (call state deadline).2.2.reads :=
  next_reading settled state.2 deadline

theorem call_readsHang (state : Receiver × Line) (deadline : Deadline) :
    (call state deadline).2.2.readsHang = state.2.readsHang := by
  unfold call next
  split
  · rfl
  · split <;> rfl

theorem call_reads_nil {state : Receiver × Line} (used : state.2.reads = [])
    (deadline : Deadline) : (call state deadline).2.2.reads = [] := by
  unfold call next
  split
  · exact used
  · split
    · exact used
    · simp only [used, pull]
      split <;> rfl

theorem reception_start (layout : Layout) (line : Line) :
    Reception (.start layout, line) [] (.start layout, line) :=
  ⟨⟨[], rfl, rfl⟩, by simp, ⟨0, by simp⟩, by simp, settled_of_live rfl, rfl⟩

theorem Reception.step {before state : Receiver × Line}
    {entries : List (Deadline × Option Delivery)} (reception : Reception before entries state)
    (deadline : Deadline) :
    Reception before (entries ++ [(deadline, (call state deadline).1)]) (call state deadline).2 := by
  obtain ⟨⟨consumed, split, fedAll⟩, _, ⟨spare, story⟩, answers, settled, hangs⟩ := reception
  obtain ⟨⟨next, nextSplit, nextFed⟩, drains, ahead, answered, nextSettled⟩ :=
    call_reading settled deadline
  refine ⟨⟨consumed ++ next, ?_, ?_⟩, ?_, ?_, ?_, nextSettled, ?_⟩
  · rw [split, nextSplit, List.append_assoc]
  · rw [feedAll_append, fedAll, nextFed, List.filterMap_append, filterMap_singleton]
  · intro entry last
    rw [List.getLast?_concat] at last
    cases last
    exact drains
  · rw [List.filterMap_append, filterMap_singleton]
    rcases ahead with ahead | ⟨ended, nothing, stillNothing⟩
    · rw [← ahead, ← List.append_assoc] at story
      exact ⟨spare, story⟩
    -- The script is used up: each further call adds an end that is not in it.
    · rw [nothing, List.append_nil] at story
      refine ⟨spare + 1, ?_⟩
      rw [story, ended, stillNothing, List.append_nil, List.replicate_succ', List.append_assoc]
      rfl
  · intro member
    rcases List.mem_append.mp member with earlier | now
    · obtain ⟨hang, used⟩ := answers earlier
      exact ⟨hang, call_reads_nil used deadline⟩
    · have same := List.mem_singleton.mp now
      rw [Prod.mk.injEq] at same
      rw [← hangs]
      exact answered same.1.symm same.2.symm
  · exact (call_readsHang state deadline).trans hangs

theorem reception_history (layout : Layout) (line : Line) (deadlines : List Deadline) :
    let run := history call (start layout, line) deadlines
    Reception (start layout, line) run.1 run.2 :=
  history_induction (motive := Reception (start layout, line))
    (fun _ _ deadline reception => Reception.step reception deadline)
    (reception_start layout line) deadlines

/-- After any calls at all on a fresh receiver, each with a deadline of its own or none. -/
theorem history_lossless (layout : Layout) (line : Line) (deadlines : List Deadline) :
    let run := history call (start layout, line) deadlines
    let frames := run.1.filterMap (·.2.bind Delivery.frame?)
    let receiver := run.2.1
    let left := run.2.2.reads
    (∃ read, Line.delivered line.reads = read ++ Line.delivered left ∧
        frames.flatten ++ receiver.reassembler.buffer.toList ++ receiver.buffer = read ∧
        frames <+: ((empty layout).feedAll read).1 ∧
        ∀ entry, run.1.getLast? = some entry → entry.2.bind Delivery.frame? = none →
          frames = ((empty layout).feedAll read).1) ∧
      run.1.filterMap (·.2.bind Delivery.failure?) ++ Line.failures left =
        Line.failures line.reads ∧
      (∃ spare, run.1.filterMap (·.2) ++ receiver.upcoming left =
        (empty layout).upcoming line.reads ++ List.replicate spare .ended) ∧
      ((none, none) ∈ run.1 → line.readsHang = true ∧ left = []) := by
  intro run frames receiver left
  obtain ⟨⟨consumed, split, fedAll⟩, drains, ⟨spare, story⟩, answers, _, _⟩ :=
    reception_history layout line deadlines
  have fed : (empty layout).feedAll consumed = (frames, receiver.reassembler) := fedAll
  have whole := (feedAll_consistent (consistent_empty layout) consumed).2.flatten
  rw [fed] at whole
  refine ⟨⟨consumed ++ receiver.buffer, ?_, ?_, ?_, ?_⟩, ?_, ⟨spare, story⟩, answers⟩
  · rw [List.append_assoc]
    exact split
  · rw [whole]
    rfl
  · rw [feedAll_append, fed]
    exact List.prefix_append _ _
  · intro entry last quiet
    rw [show receiver.buffer = [] from drains entry last quiet, List.append_nil, fed]
  · have reported := congrArg (List.filterMap Delivery.failure?) story
    have silent : (List.replicate spare Delivery.ended).filterMap Delivery.failure? = [] := by
      simp [Delivery.failure?]
    rw [List.filterMap_append, List.filterMap_append, failures_upcoming, failures_upcoming, silent,
      List.append_nil, List.filterMap_filterMap] at reported
    exact reported

end Receiver

end SerialLink
