import SerialLink.Connection
import SerialLink.Proofs.Frame.Wire
import SerialLink.Proofs.History
import SerialLink.Proofs.Line.Receiving
import SerialLink.Proofs.Traffic

namespace SerialLink

/-! Calls on a connection, in any order and over any line.

A connection meets two kinds of failure: those of its line, and the end of the stream inside a frame.
A response that does not decode is not among them.
-/

namespace Sender

variable {sender : Sender} {frame : Bytes} {line : Line} {deadline : Deadline}
  {outcome : Except LinkError Unit}

theorem flush_spared (flushed : (sender.flush line deadline).outcome = some outcome) :
    LinkError.Spared outcome := by
  obtain ⟨result, _, rfl⟩ := Option.map_eq_some_iff.mp flushed
  cases result with
  | ok done => exact LinkError.spared_ok done
  | error fault => exact LinkError.spared_line fault

theorem feed_spared (fed : (sender.feed frame line deadline).outcome = some outcome) :
    LinkError.Spared outcome := by
  unfold feed at fed
  split at fed
  · cases fed
    exact LinkError.spared_ok ()
  · simp only at fed
    split at fed
    · exact flush_spared fed
    · exact flush_spared fed

end Sender

namespace Connection

variable {connection : Connection} {frame : Bytes} {line : Line}

/-- What a read of a response makes of a frame. -/
def responseOf : Except LinkError (Option Bytes) → Except LinkError (Option Response)
  | .error error => .error error
  | .ok none => .ok none
  | .ok (some frame) =>
      match Response.decodeInPlace frame with
      | .ok response => .ok (some response)
      | .error error => .error (.protocol error)

theorem responseOf_eq_none_iff {read : Except LinkError (Option Bytes)} :
    responseOf read = .ok none ↔ read = .ok none := by
  cases read with
  | error error => simp [responseOf]
  | ok found =>
      cases found with
      | none => simp [responseOf]
      | some frame => cases decoded : Response.decodeInPlace frame <;> simp [responseOf, decoded]

theorem responseOf_eq_closed_iff {read : Except LinkError (Option Bytes)} :
    responseOf read = .error .closed ↔ read = .error .closed := by
  cases read with
  | error error => simp [responseOf]
  | ok found =>
      cases found with
      | none => simp [responseOf]
      | some frame => cases decoded : Response.decodeInPlace frame <;> simp [responseOf, decoded]

theorem readResponse_readFrame (connection : Connection) (line : Line) (deadline : Deadline) :
    let read := connection.readFrame line deadline
    let response := connection.readResponse line deadline
    response.outcome = read.outcome.map responseOf ∧
      response.owner.receiver = read.owner.receiver ∧ response.line = read.line := by
  intro read response
  simp only [response, readResponse]
  split
  · rename_i silent
    exact ⟨by simp [read, silent], rfl, rfl⟩
  · rename_i error failed
    exact ⟨by simp [read, failed, responseOf], rfl, rfl⟩
  · rename_i ended
    exact ⟨by simp [read, ended, responseOf], rfl, rfl⟩
  · rename_i frame found
    simp only [read, found, Option.map_some, responseOf, decode, and_true]
    cases Response.decodeInPlace frame with
    | ok decoded => exact ⟨rfl, rfl⟩
    | error error => exact ⟨rfl, rfl⟩

theorem readResponse_next (connection : Connection) (line : Line) (deadline : Deadline) :
    let received := connection.receiver.next line deadline
    let read := connection.readResponse line deadline
    read.outcome.isSome = received.outcome.isSome ∧ read.line = received.line := by
  intro received read
  obtain ⟨outcome, _, after⟩ := connection.readResponse_readFrame line deadline
  refine ⟨?_, after⟩
  rw [outcome, Option.isSome_map]
  exact Option.isSome_map

theorem readResponse_silent {deadline : Deadline}
    (silent : (connection.receiver.next line deadline).outcome = none) :
    connection.readResponse line deadline =
      ⟨none, { connection with receiver := (connection.receiver.next line deadline).owner },
        (connection.receiver.next line deadline).line⟩ := by
  simp only [readResponse, readFrame, silent, Option.map_none]

structure Sound (connection : Connection) : Prop where
  reassembler : connection.receiver.reassembler.Consistent .response
  settled : connection.receiver.Settled
  traffic : connection.traffic.Clean

/-- What every operation on a sound connection comes to. -/
structure Keeps (attempt : Attempt (Except LinkError α) Connection) : Prop where
  sound : attempt.owner.Sound
  spared : ∀ outcome, attempt.outcome = some outcome → LinkError.Spared outcome

theorem Keeps.of_none (sound : connection.Sound) :
    Keeps (⟨none, connection, line⟩ : Attempt (Except LinkError α) Connection) :=
  ⟨sound, nofun⟩

theorem Keeps.of_some {outcome : Except LinkError α} (sound : connection.Sound)
    (spared : LinkError.Spared outcome) : Keeps ⟨some outcome, connection, line⟩ := by
  refine ⟨sound, ?_⟩
  intro other same
  cases same
  exact spared

theorem sound_start : start.Sound :=
  ⟨Reassembler.consistent_empty _, Receiver.settled_of_live rfl, Traffic.clean_zero⟩

theorem Sound.enqueue (sound : connection.Sound) (request : Request) (line : Line)
    (deadline : Deadline) : Keeps (connection.enqueue request line deadline) :=
  ⟨⟨sound.reassembler, sound.settled, sound.traffic⟩, fun _ fed => Sender.feed_spared fed⟩

theorem Sound.finishSend (sound : connection.Sound) (line : Line) (deadline : Deadline) :
    Keeps (connection.finishSend line deadline) := by
  refine ⟨⟨sound.reassembler, sound.settled, ?_⟩, fun _ flushed => Sender.flush_spared flushed⟩
  simp only [Connection.finishSend, Attempt.mapOwner]
  split
  · exact sound.traffic.recordSent
  · exact sound.traffic

theorem Sound.sendRequest (sound : connection.Sound) (request : Request) (line : Line)
    (deadline : Deadline) : Keeps (connection.sendRequest request line deadline) := by
  have queued := sound.enqueue request line deadline
  simp only [Connection.sendRequest]
  split
  · exact queued.sound.finishSend _ deadline
  · exact queued

theorem frameOf_spared (isPartial : Bool) (delivery : Delivery) :
    LinkError.Spared (frameOf isPartial delivery) := by
  cases delivery with
  | frame bytes => exact LinkError.spared_ok (some bytes)
  | failed fault => exact LinkError.spared_line fault
  | ended =>
      cases isPartial with
      | true => exact LinkError.spared_closed
      | false => exact LinkError.spared_ok none

theorem Sound.readFrame (sound : connection.Sound) (line : Line) (deadline : Deadline) :
    Keeps (connection.readFrame line deadline) ∧
      ∀ frame, (connection.readFrame line deadline).outcome = some (.ok (some frame)) →
        Layout.response.IsFrame frame := by
  have reading := Receiver.next_reading sound.settled line deadline
  obtain ⟨consistent, whole⟩ := reading.keeps sound.reassembler
  refine ⟨⟨⟨consistent, reading.settled, sound.traffic⟩, ?_⟩, ?_⟩
  · intro outcome read
    obtain ⟨delivery, _, rfl⟩ := Option.map_eq_some_iff.mp read
    exact frameOf_spared _ delivery
  · intro frame read
    obtain ⟨delivery, received, same⟩ := Option.map_eq_some_iff.mp read
    cases delivery with
    | frame bytes =>
        cases same
        exact whole frame received
    | failed fault => cases same
    | ended =>
        simp only [frameOf] at same
        split at same <;> cases same

theorem Sound.decode (sound : connection.Sound) (whole : Layout.response.IsFrame frame) :
    (connection.decode frame).2.Sound ∧ LinkError.Spared (connection.decode frame).1 := by
  obtain ⟨response, decoded⟩ := Response.decodeInPlace_of_isFrame whole
  simp only [Connection.decode, decoded]
  exact ⟨⟨sound.reassembler, sound.settled, sound.traffic.recordValid⟩,
    LinkError.spared_ok (some response)⟩

theorem Sound.readResponse (sound : connection.Sound) (line : Line) (deadline : Deadline) :
    Keeps (connection.readResponse line deadline) := by
  obtain ⟨⟨readSound, spared⟩, whole⟩ := sound.readFrame line deadline
  simp only [Connection.readResponse]
  split
  · exact .of_none readSound
  · rename_i error read
    exact .of_some readSound (spared _ read).relay
  · exact .of_some readSound (LinkError.spared_ok none)
  · rename_i frame read
    obtain ⟨decodedSound, decodedSpared⟩ := readSound.decode (whole frame read)
    exact .of_some decodedSound decodedSpared

theorem Sound.request (sound : connection.Sound) (request : Request) (line : Line)
    (deadline : Deadline) : Keeps (connection.request request line deadline) := by
  obtain ⟨sentSound, sentSpared⟩ := sound.sendRequest request line deadline
  simp only [Connection.request]
  split
  · exact .of_none sentSound
  · rename_i error sent
    exact .of_some sentSound (sentSpared _ sent).relay
  · obtain ⟨readSound, readSpared⟩ := sentSound.readResponse
      (connection.sendRequest request line deadline).line deadline
    refine ⟨readSound, ?_⟩
    intro outcome read
    obtain ⟨result, received, rfl⟩ := Option.map_eq_some_iff.mp read
    cases result with
    | error error => exact (readSpared _ received).relay
    | ok response =>
        cases response with
        | none => exact LinkError.spared_closed
        | some response => exact LinkError.spared_ok response

inductive Call where
  | sendRequest (request : Request)
  | readFrame
  | readResponse
  | request (request : Request)
  | recordTimeout

inductive Reply where
  | sent (outcome : Option (Except LinkError Unit))
  | frame (outcome : Option (Except LinkError (Option Bytes)))
  | response (outcome : Option (Except LinkError (Option Response)))
  | answer (outcome : Option (Except LinkError Response))
  | recorded

/-- A call on a connection and its line, with a deadline of its own. -/
def perform : Connection × Line → Call × Deadline → Reply × (Connection × Line)
  | (connection, line), (.sendRequest request, deadline) =>
      let attempt := connection.sendRequest request line deadline
      (.sent attempt.outcome, attempt.owner, attempt.line)
  | (connection, line), (.readFrame, deadline) =>
      let attempt := connection.readFrame line deadline
      (.frame attempt.outcome, attempt.owner, attempt.line)
  | (connection, line), (.readResponse, deadline) =>
      let attempt := connection.readResponse line deadline
      (.response attempt.outcome, attempt.owner, attempt.line)
  | (connection, line), (.request request, deadline) =>
      let attempt := connection.request request line deadline
      (.answer attempt.outcome, attempt.owner, attempt.line)
  | (connection, line), (.recordTimeout, _) => (.recorded, connection.recordTimeout, line)

def Reply.Spared : Reply → Prop
  | .sent reply => ∀ outcome, reply = some outcome → LinkError.Spared outcome
  | .frame reply => ∀ outcome, reply = some outcome → LinkError.Spared outcome
  | .response reply => ∀ outcome, reply = some outcome → LinkError.Spared outcome
  | .answer reply => ∀ outcome, reply = some outcome → LinkError.Spared outcome
  | .recorded => True

theorem Sound.perform {state : Connection × Line} (sound : state.1.Sound)
    (call : Call × Deadline) :
    (Connection.perform state call).1.Spared ∧ (Connection.perform state call).2.1.Sound := by
  obtain ⟨connection, line⟩ := state
  obtain ⟨call, deadline⟩ := call
  cases call with
  | sendRequest request =>
      have kept := sound.sendRequest request line deadline
      exact ⟨kept.spared, kept.sound⟩
  | readFrame =>
      have kept := (sound.readFrame line deadline).1
      exact ⟨kept.spared, kept.sound⟩
  | readResponse =>
      have kept := sound.readResponse line deadline
      exact ⟨kept.spared, kept.sound⟩
  | request request =>
      have kept := sound.request request line deadline
      exact ⟨kept.spared, kept.sound⟩
  | recordTimeout =>
      exact ⟨trivial, sound.reassembler, sound.settled, sound.traffic.recordTimeout⟩

theorem history_sound (line : Line) (calls : List (Call × Deadline)) :
    (∀ entry ∈ (history perform (start, line) calls).1, entry.2.Spared) ∧
      (history perform (start, line) calls).2.1.Sound :=
  history_keeps (fun state : Connection × Line => state.1.Sound) (fun _ => Reply.Spared)
    (fun _ call sound => sound.perform call) sound_start calls

end Connection

end SerialLink
