import SerialLink.Proofs.Client
import SerialLink.Proofs.Line.Writing
import SerialLink.Proofs.Posting

namespace SerialLink

open Dispatch
open scoped List

/-! Requests on their way to the line, whether a client or a bare connection sends them. -/

/-- How far a connection has come on a line that had taken some bytes before. -/
structure Mailed (origin : Bytes) (dispatches : List Dispatch) (connection : Connection)
    (line : Line) : Prop where
  counted : connection.traffic.sent = (sentOf dispatches).length
  posted : ∃ taken, line.written = origin ++ taken ∧
    Posted dispatches taken connection.sender.pending

/-- Nothing has been sent in between. -/
structure Unsent (connection : Connection) (line : Line) (after : Connection) (later : Line) :
    Prop where
  sender : after.sender = connection.sender
  sent : after.traffic.sent = connection.traffic.sent
  written : later.written = line.written

theorem Unsent.trans {connection after last : Connection} {line later latest : Line}
    (first : Unsent connection line after later) (second : Unsent after later last latest) :
    Unsent connection line last latest :=
  ⟨second.sender.trans first.sender, second.sent.trans first.sent,
    second.written.trans first.written⟩

theorem Mailed.of_unsent {origin : Bytes} {dispatches : List Dispatch}
    {connection after : Connection} {line later : Line}
    (mailed : Mailed origin dispatches connection line)
    (unsent : Unsent connection line after later) : Mailed origin dispatches after later := by
  obtain ⟨counted, taken, reached, posted⟩ := mailed
  refine ⟨unsent.sent.trans counted, taken, unsent.written.trans reached, ?_⟩
  rw [unsent.sender]
  exact posted

namespace Connection

variable {connection : Connection} {line : Line}

def dispatch (connection : Connection) (request : Request) (line : Line) (deadline : Deadline) :
    Dispatch :=
  ⟨request, connection.sender.accepts request.encode line deadline,
    (connection.sendRequest request line deadline).outcome⟩

/-- A connection sends as its sender does, and counts. -/
theorem sendRequest_eq (connection : Connection) (request : Request) (line : Line)
    (deadline : Deadline) :
    let sent := connection.sender.send request.encode line deadline
    let traffic :=
      match sent.outcome with
      | some (.ok ()) => connection.traffic.recordSent
      | _ => connection.traffic
    connection.sendRequest request line deadline =
      ⟨sent.outcome, { connection with sender := sent.owner, traffic }, sent.line⟩ := by
  by_cases accepted : connection.sender.accepts request.encode line deadline = true
  · have fed := Sender.accepts_iff.mp accepted
    let queued := connection.enqueue request line deadline
    have finished : connection.sendRequest request line deadline =
        queued.owner.finishSend queued.line deadline := by
      simp only [sendRequest, queued, enqueue, Attempt.mapOwner, fed]
    rw [Sender.send_of_accepts accepted, finished]
    rfl
  · have refused : ¬ (connection.sender.feed request.encode line deadline).outcome =
        some (.ok ()) := fun fed => accepted (Sender.accepts_iff.mpr fed)
    rw [Sender.send_of_refuses accepted]
    simp only [sendRequest, enqueue, Attempt.mapOwner]

theorem dispatch_sent_iff {request : Request} {deadline : Deadline} :
    (connection.dispatch request line deadline).sent = true ↔
      (connection.sender.send request.encode line deadline).outcome = some (.ok ()) := by
  rw [Dispatch.sent_iff, dispatch, sendRequest_eq]

theorem sendRequest_traffic (connection : Connection) (request : Request) (line : Line)
    (deadline : Deadline) :
    (connection.sendRequest request line deadline).owner.traffic =
      if (connection.dispatch request line deadline).sent then connection.traffic.recordSent
      else connection.traffic := by
  rw [sendRequest_eq]
  by_cases sent : (connection.dispatch request line deadline).sent = true
  · simp only [dispatch_sent_iff.mp sent, sent, if_true]
  · have failed := mt dispatch_sent_iff.mpr sent
    rw [if_neg sent]
    simp only

theorem sendRequest_sent (connection : Connection) (request : Request) (line : Line)
    (deadline : Deadline) :
    (connection.sendRequest request line deadline).owner.traffic.sent =
      connection.traffic.sent +
        if (connection.dispatch request line deadline).sent then 1 else 0 := by
  rw [sendRequest_eq]
  by_cases sent : (connection.dispatch request line deadline).sent = true
  · simp only [dispatch_sent_iff.mp sent, sent, if_true]
    rfl
  · have failed := mt dispatch_sent_iff.mpr sent
    rw [if_neg sent]
    simp only
    rfl

theorem dispatch_posting (connection : Connection) (request : Request) (line : Line)
    (deadline : Deadline) :
    let dispatched := connection.sendRequest request line deadline
    ∃ more, dispatched.line.written = line.written ++ more ∧
      Posting (connection.dispatch request line deadline) connection.sender.pending more
        dispatched.owner.sender.pending := by
  obtain ⟨more, reached, conserved⟩ :=
    connection.sender.send_moves request.encode line deadline
  simp only [sendRequest_eq]
  refine ⟨more, reached, conserved, ?_, Sender.accepts_of_pending_nil⟩
  rw [dispatch_sent_iff]
  exact Sender.send_ok_iff

theorem readFrame_unsent (connection : Connection) (line : Line) (deadline : Deadline) :
    let read := connection.readFrame line deadline
    Unsent connection line read.owner read.line := by
  obtain ⟨clock, reads, read⟩ := connection.receiver.next_line line deadline
  refine ⟨rfl, rfl, ?_⟩
  simp only [readFrame, read]

theorem readResponse_unsent (connection : Connection) (line : Line) (deadline : Deadline) :
    let read := connection.readResponse line deadline
    Unsent connection line read.owner read.line := by
  have unsent := connection.readFrame_unsent line deadline
  simp only [readResponse]
  split
  · exact unsent
  · exact unsent
  · exact unsent
  · rename_i frame found
    refine unsent.trans ⟨?_, ?_, rfl⟩
    · simp only [decode]
      split <;> rfl
    · simp only [decode]
      split <;> rfl

theorem request_unsent (connection : Connection) (request : Request) (line : Line)
    (deadline : Deadline) :
    let sent := connection.sendRequest request line deadline
    let answered := connection.request request line deadline
    Unsent sent.owner sent.line answered.owner answered.line := by
  intro sent answered
  simp only [answered, Connection.request]
  split
  · exact ⟨rfl, rfl, rfl⟩
  · exact ⟨rfl, rfl, rfl⟩
  · exact sent.owner.readResponse_unsent sent.line deadline

def Call.dispatch? (state : Connection × Line) (call : Call × Deadline) : Option Dispatch :=
  match call.1 with
  | .sendRequest wanted | .request wanted => some (state.1.dispatch wanted state.2 call.2)
  | .readFrame | .readResponse | .recordTimeout => none

/-- A call, with the attempt to send that it makes. -/
def dispatching (state : Connection × Line) (call : Call × Deadline) :
    (Reply × Option Dispatch) × (Connection × Line) :=
  (((perform state call).1, Call.dispatch? state call), (perform state call).2)

end Connection

variable {origin : Bytes} {dispatches : List Dispatch} {connection : Connection} {line : Line}

theorem Mailed.sendRequest (mailed : Mailed origin dispatches connection line) (request : Request)
    (deadline : Deadline) :
    let sent := connection.sendRequest request line deadline
    Mailed origin (dispatches ++ [connection.dispatch request line deadline]) sent.owner
      sent.line := by
  intro sent
  obtain ⟨counted, taken, reached, posted⟩ := mailed
  obtain ⟨more, reachedMore, posting⟩ := connection.dispatch_posting request line deadline
  refine ⟨?_, taken ++ more, ?_, posted.concat posting⟩
  · rw [Connection.sendRequest_sent, counted, sentOf_concat, List.length_append]
    split <;> rfl
  · rw [← List.append_assoc, ← reached]
    exact reachedMore

theorem Mailed.perform {state : Connection × Line} (mailed : Mailed origin dispatches state.1 state.2)
    (call : Connection.Call × Deadline) :
    Mailed origin (dispatches ++ (Connection.Call.dispatch? state call).toList)
      (Connection.perform state call).2.1 (Connection.perform state call).2.2 := by
  obtain ⟨connection, line⟩ := state
  obtain ⟨call, deadline⟩ := call
  cases call with
  | sendRequest request => exact mailed.sendRequest request deadline
  | readFrame =>
      have read := mailed.of_unsent (connection.readFrame_unsent line deadline)
      rwa [← List.append_nil dispatches] at read
  | readResponse =>
      have read := mailed.of_unsent (connection.readResponse_unsent line deadline)
      rwa [← List.append_nil dispatches] at read
  | request request =>
      exact (mailed.sendRequest request deadline).of_unsent
        (connection.request_unsent request line deadline)
  | recordTimeout =>
      have recorded : Mailed origin dispatches connection.recordTimeout line :=
        mailed.of_unsent ⟨rfl, rfl, rfl⟩
      rwa [← List.append_nil dispatches] at recorded

namespace Client

theorem awaitUntimed_unsent (client : Client) (line : Line) (deadline : Deadline) :
    let awaited := client.awaitUntimed line deadline
    Unsent client.connection line awaited.owner.connection awaited.line :=
  client.connection.readResponse_unsent line deadline

theorem awaitTimed_unsent (client : Client) (timeout : Duration) (line : Line)
    (deadline : Deadline) :
    let awaited := client.awaitTimed timeout line deadline
    Unsent client.connection line awaited.owner.connection awaited.line := by
  obtain ⟨sender, sent, written⟩ := client.connection.readResponse_unsent
    { line with clock := line.clock.rested }
    (some (deadline.orSooner (line.now + timeout.milliseconds)))
  simp only [awaitTimed]
  split
  · exact ⟨sender, sent, written⟩
  · split
    · exact ⟨sender, sent, written⟩
    · exact ⟨sender, sent, written⟩

theorem await_unsent (client : Client) (line : Line) (deadline : Deadline) :
    let awaited := client.await line deadline
    Unsent client.connection line awaited.owner.connection awaited.line := by
  simp only [await]
  split
  · exact client.awaitUntimed_unsent line deadline
  · split
    · exact client.awaitUntimed_unsent line deadline
    · exact client.awaitTimed_unsent _ line deadline

theorem send_unsent (client : Client) (request : Request) (line : Line) (deadline : Deadline) :
    let sent := client.connection.sendRequest request line deadline
    let answered := client.send request line deadline
    Unsent sent.owner sent.line answered.owner.connection answered.line := by
  intro sent answered
  simp only [answered, Client.send]
  split
  · exact ⟨rfl, rfl, rfl⟩
  · exact ⟨rfl, rfl, rfl⟩
  · exact (client.withConnection sent.owner).await_unsent sent.line deadline

def Call.dispatch? (state : Client × Line) (call : Call × Deadline) : Option Dispatch :=
  match call.1.prepare state.1.settings with
  | .error _ => none
  | .ok wanted => some (state.1.connection.dispatch wanted state.2 call.2)

def dispatching (state : Client × Line) (call : Call × Deadline) :
    (Option (Except ClientError Response) × Option Dispatch) × (Client × Line) :=
  (((perform state call).1, Call.dispatch? state call), (perform state call).2)

end Client

theorem Mailed.cycle {state : Client × Line}
    (mailed : Mailed origin dispatches state.1.connection state.2) (call : Client.Call × Deadline) :
    Mailed origin (dispatches ++ (Client.Call.dispatch? state call).toList)
      (Client.perform state call).2.1.connection (Client.perform state call).2.2 := by
  obtain ⟨client, line⟩ := state
  obtain ⟨call, deadline⟩ := call
  rw [Client.perform_eq]
  simp only [Client.Call.dispatch?]
  cases call.prepare client.settings with
  | error error =>
      rw [Option.toList_none, List.append_nil]
      exact mailed
  | ok request =>
      exact (mailed.sendRequest request deadline).of_unsent
        (client.send_unsent request line deadline)

end SerialLink
