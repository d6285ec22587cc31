import SerialLink.Frame.Request
import SerialLink.Frame.Response
import SerialLink.Proofs.History
import SerialLink.Proofs.Line.Writing
import SerialLink.Proofs.Stream.Carrying

namespace SerialLink

/-! Any number of calls on a sender.

The bytes that it accepts come to the line in the order in which they were accepted, each of them
once, whatever the line does.  What the line has taken and what is still pending is together all that
was ever accepted.
-/

namespace Sender

variable {sender : Sender} {line : Line} {deadline : Deadline}

inductive Item where
  | request (request : Request)
  | response (response : Response)

def Item.encode : Item → Bytes
  | .request wanted => wanted.encode
  | .response answer => answer.encode

inductive Call where
  | feed (item : Item)
  | send (item : Item)
  | flush
  | close

def Call.item? : Call → Option Item
  | .feed item | .send item => some item
  | .flush | .close => none

/-- Whether a call writes all that is pending before it succeeds. -/
def Call.writesOut : Call → Bool
  | .feed _ => false
  | .send _ | .flush | .close => true

def attempt (sender : Sender) (line : Line) (deadline : Deadline) :
    Call → Attempt (Except LinkError Unit) Sender
  | .feed item => sender.feed item.encode line deadline
  | .send item => sender.send item.encode line deadline
  | .flush => sender.flush line deadline
  | .close => sender.close line deadline

def accepted? (sender : Sender) (line : Line) (deadline : Deadline) (call : Call) : Option Item :=
  call.item?.filter fun item => sender.accepts item.encode line deadline

/-- A call on a sender and its line: what it handed over, and what came of it. -/
def perform (state : Sender × Line) (call : Call × Deadline) :
    (Option Item × Option (Except LinkError Unit)) × (Sender × Line) :=
  let made := state.1.attempt state.2 call.2 call.1
  ((state.1.accepted? state.2 call.2 call.1, made.outcome), made.owner, made.line)

theorem accepted?_flatten (sender : Sender) (line : Line) (deadline : Deadline) (item : Item) :
    (((some item).filter fun item => sender.accepts item.encode line deadline).toList.map
        Item.encode).flatten =
      if sender.accepts item.encode line deadline then item.encode else [] := by
  by_cases accepted : sender.accepts item.encode line deadline = true
  · simp [Option.filter, accepted]
  · simp [Option.filter, accepted]

theorem attempt_moves (sender : Sender) (line : Line) (deadline : Deadline) (call : Call) :
    Moves sender line ((sender.accepted? line deadline call).toList.map Item.encode).flatten
      (sender.attempt line deadline call) := by
  cases call with
  | feed item =>
      have fed := feed_moves sender item.encode line deadline
      rw [← accepted?_flatten] at fed
      exact fed
  | send item =>
      have sent := send_moves sender item.encode line deadline
      rw [← accepted?_flatten] at sent
      exact sent
  | flush => exact flush_moves sender line deadline
  | close => exact close_moves sender line deadline

theorem attempt_ok {call : Call}
    (succeeded : (sender.attempt line deadline call).outcome = some (.ok ())) :
    sender.accepted? line deadline call = call.item? ∧
      (call.writesOut = true → (sender.attempt line deadline call).owner.pending = []) := by
  cases call with
  | feed item =>
      have accepted := accepts_iff.mpr succeeded
      exact ⟨by simp [accepted?, Call.item?, accepted], nofun⟩
  | send item =>
      obtain ⟨accepted, drained⟩ := send_ok_iff.mp succeeded
      exact ⟨by simp [accepted?, Call.item?, accepted], fun _ => drained⟩
  | flush => exact ⟨rfl, fun _ => flush_ok_iff.mp succeeded⟩
  | close => exact ⟨rfl, fun _ => close_ok succeeded⟩

structure Written (line : Line)
    (entries : List ((Call × Deadline) × (Option Item × Option (Except LinkError Unit))))
    (state : Sender × Line) : Prop where
  conserves : ∃ taken, state.2.written = line.written ++ taken ∧
    taken ++ state.1.pending = ((entries.filterMap (·.2.1)).map Item.encode).flatten
  accepts : ∀ entry ∈ entries, entry.2.2 = some (.ok ()) → entry.2.1 = entry.1.1.item?
  offered : ∀ entry ∈ entries, ∀ item, entry.2.1 = some item → entry.1.1.item? = some item
  drains : ∀ entry, entries.getLast? = some entry → entry.1.1.writesOut = true →
    entry.2.2 = some (.ok ()) → state.1.pending = []

theorem Written.step {state : Sender × Line}
    {entries : List ((Call × Deadline) × (Option Item × Option (Except LinkError Unit)))}
    (written : Written line entries state) (call : Call × Deadline) :
    Written line (entries ++ [(call, (perform state call).1)]) (perform state call).2 := by
  obtain ⟨⟨taken, reached, conserved⟩, accepted, offered, _⟩ := written
  obtain ⟨more, reachedMore, conservedMore⟩ := attempt_moves state.1 state.2 call.2 call.1
  refine ⟨⟨taken ++ more, ?_, ?_⟩, ?_, ?_, ?_⟩
  · rw [← List.append_assoc, ← reached]
    exact reachedMore
  · rw [filterMap_concat, List.map_append, List.flatten_append, ← conserved, List.append_assoc,
      List.append_assoc]
    exact congrArg (taken ++ ·) conservedMore
  · intro entry member succeeded
    rcases List.mem_append.mp member with earlier | now
    · exact accepted entry earlier succeeded
    · obtain rfl := List.mem_singleton.mp now
      exact (attempt_ok succeeded).1
  · intro entry member item handed
    rcases List.mem_append.mp member with earlier | now
    · exact offered entry earlier item handed
    · obtain rfl := List.mem_singleton.mp now
      exact (Option.filter_eq_some_iff.mp handed).1
  · intro entry last writesOut succeeded
    rw [List.getLast?_concat] at last
    cases last
    exact (attempt_ok succeeded).2 writesOut

end Sender

end SerialLink
