import Mathlib.Control.Monad.Basic
import Mathlib.Data.List.Basic
import SerialLink.Proofs.Line.Lossless
import SerialLink.Proofs.Sending

namespace SerialLink

/-! A client that gives up waiting, and what that does to the cycles behind it.

What a line has in store for a client is settled by its script.  To give up a wait puts nothing of it
aside and takes nothing of it away; it only means that the next cycle hears of it.
-/

/-- Takes something, now or after a wait. -/
def WriteAction.succeeds : WriteAction → Bool
  | .accept count => count != 0
  | .fail _ => false
  | .wait _ _ => true

namespace Line

def Willing (line : Line) : Prop := ∀ action ∈ line.writes, action.succeeds = true

end Line

namespace Sender

theorem push_willing (deadline : Deadline) (hangs : Bool) (pending : Bytes) (clock : Clock)
    (writes : List WriteAction) (willing : ∀ action ∈ writes, action.succeeds = true) :
    let pushed := push deadline hangs pending clock writes
    (∀ fault, pushed.outcome ≠ some (.error fault)) ∧
      ∀ action ∈ pushed.writes, action.succeeds = true := by
  fun_induction push deadline hangs pending clock writes with
  | case1 => exact ⟨by simp, willing⟩
  | case2 => exact ⟨by simp, by simp⟩
  | case3 => exact ⟨by simp, by simp⟩
  | case4 byte bytes clock rest =>
      have takes := willing (.accept 0) (by simp)
      simp [WriteAction.succeeds] at takes
  | case5 byte bytes clock count rest some_room ih =>
      exact ih fun action member => willing action (by simp [member])
  | case6 byte bytes clock kind rest =>
      have takes := willing (.fail kind) (by simp)
      simp [WriteAction.succeeds] at takes
  | case7 byte bytes clock milliseconds begun rest later passed ih =>
      exact ih fun action member => willing action (by simp [member])
  | case8 byte bytes clock milliseconds begun rest blocked =>
      refine ⟨by simp, ?_⟩
      intro action member
      rcases List.mem_cons.mp member with same | later
      · rw [same]
        rfl
      · exact willing action (by simp [later])

/-- What an operation comes to on a willing line: it succeeds, or is not done in time. -/
structure Unhindered (attempt : Attempt (Except LinkError Unit) Sender) : Prop where
  unfailing : ∀ error, attempt.outcome ≠ some (.error error)
  willing : attempt.line.Willing

variable {line : Line}

theorem flush_unhindered (sender : Sender) (willing : line.Willing) (deadline : Deadline) :
    Unhindered (sender.flush line deadline) := by
  obtain ⟨unfailing, stillWilling⟩ :=
    push_willing deadline line.writesHang sender.pending line.clock line.writes willing
  refine ⟨?_, stillWilling⟩
  intro error failed
  obtain ⟨result, found, same⟩ := Option.map_eq_some_iff.mp failed
  cases result with
  | ok done => cases same
  | error fault => exact unfailing fault found

theorem feed_unhindered (sender : Sender) (frame : Bytes) (willing : line.Willing)
    (deadline : Deadline) : Unhindered (sender.feed frame line deadline) := by
  have flushed := sender.flush_unhindered willing deadline
  unfold feed
  split
  · exact ⟨nofun, willing⟩
  · simp only
    split
    · exact ⟨flushed.unfailing, flushed.willing⟩
    · exact flushed

theorem send_unhindered (sender : Sender) (frame : Bytes) (willing : line.Willing)
    (deadline : Deadline) : Unhindered (sender.send frame line deadline) := by
  have fed := sender.feed_unhindered frame willing deadline
  by_cases accepted : sender.accepts frame line deadline = true
  · rw [send_of_accepts accepted]
    exact flush_unhindered _ fed.willing deadline
  · rw [send_of_refuses accepted]
    exact fed

end Sender

theorem frames_upcoming (reassembler : Reassembler) (reads : List ReadAction) :
    (reassembler.upcoming reads).filterMap Delivery.frame? =
      (reassembler.feedAll (Line.delivered reads)).1 := by
  induction reads generalizing reassembler with
  | nil => rfl
  | cons action rest ih =>
      cases action with
      | finish => exact ih reassembler
      | fail kind => exact ih reassembler
      | wait milliseconds begun => exact ih reassembler
      | data bytes =>
          have handed (frames : List Bytes) :
              (frames.map Delivery.frame).filterMap Delivery.frame? = frames := by
            simp [List.filterMap_map, Function.comp_def, Delivery.frame?]
          simp only [Reassembler.upcoming, Line.delivered]
          split
          · rename_i nothing
            rw [List.isEmpty_iff.mp nothing]
            exact ih reassembler
          · rw [List.filterMap_append, handed, ih, Reassembler.feedAll_append]

namespace Client

/-- What a delivery means to the cycle that waits for a response. -/
def hear : Delivery → Except ClientError Response
  | .frame bytes =>
      match Response.decodeInPlace bytes with
      | .ok response => .ok response
      | .error error => .error (.protocol error)
  | .failed fault => .error (.line fault)
  | .ended => .error .closed

def isTimeout : Except ClientError Response → Bool
  | .error .responseTimeout => true
  | _ => false

/-- The outcome of a cycle, unless it ran out of time. -/
def heard? (outcome : Option (Except ClientError Response)) : Option (Except ClientError Response) :=
  outcome.filter (!isTimeout ·)

theorem heard?_hear (delivery : Option Delivery) :
    heard? (delivery.map hear) = delivery.map hear := by
  cases delivery with
  | none => rfl
  | some delivery =>
      have timely : isTimeout (hear delivery) = false := by
        cases delivery with
        | frame bytes =>
            simp only [hear]
            split <;> rfl
        | failed fault => rfl
        | ended => rfl
      simp [heard?, Option.filter, timely]

/-- To a client it is all one whether the line ends inside a frame or between two. -/
theorem conclude_responseOf (isPartial : Bool) (delivery : Delivery) :
    conclude (Connection.responseOf (Connection.frameOf isPartial delivery)) = hear delivery := by
  cases delivery with
  | frame bytes =>
      simp only [Connection.frameOf, Connection.responseOf, hear]
      cases Response.decodeInPlace bytes with
      | ok response => rfl
      | error error => rfl
  | failed fault => rfl
  | ended =>
      cases isPartial with
      | true => rfl
      | false => rfl

theorem readResponse_eq (connection : Connection) (line : Line) (deadline : Deadline) :
    let received := connection.receiver.next line deadline
    let read := connection.readResponse line deadline
    read.outcome.map conclude = received.outcome.map hear ∧
      read.owner.receiver = received.owner ∧ read.line = received.line := by
  intro received read
  obtain ⟨outcome, receiver, after⟩ := connection.readResponse_readFrame line deadline
  refine ⟨?_, receiver, after⟩
  simp only [read, received, outcome, Connection.readFrame, Option.map_map, Function.comp_def,
    conclude_responseOf]

/-- A wait for a response is one call of the receiver, at some instant and with some patience. -/
def Hears (client : Client) (line : Line)
    (awaited : Attempt (Except ClientError Response) Client) : Prop :=
  awaited.owner.settings = client.settings ∧ ∃ clock patience,
    let received := client.connection.receiver.next { line with clock } patience
    heard? awaited.outcome = received.outcome.map hear ∧
      awaited.owner.connection.receiver = received.owner ∧ awaited.line = received.line

theorem awaitUntimed_hears (client : Client) (line : Line) (deadline : Deadline) :
    Hears client line (client.awaitUntimed line deadline) := by
  obtain ⟨outcome, receiver, after⟩ := readResponse_eq client.connection line deadline
  refine ⟨rfl, line.clock, deadline, ?_, receiver, after⟩
  simp only [awaitUntimed]
  rw [outcome, heard?_hear]

theorem awaitTimed_hears (client : Client) (timeout : Duration) (line : Line)
    (deadline : Deadline) : Hears client line (client.awaitTimed timeout line deadline) := by
  obtain ⟨outcome, receiver, after⟩ := readResponse_eq client.connection
    { line with clock := line.clock.rested }
    (some (deadline.orSooner (line.now + timeout.milliseconds)))
  simp only [awaitTimed]
  split
  · rename_i result found
    rw [found, Option.map_some] at outcome
    refine ⟨rfl, line.clock.rested, _, ?_, receiver, after⟩
    rw [outcome, heard?_hear]
  -- Nothing came in time: the cycle ends, and nobody has heard anything.
  · rename_i silent
    rw [silent, Option.map_none] at outcome
    split
    · exact ⟨rfl, line.clock.rested, _, outcome, receiver, after⟩
    · exact ⟨rfl, line.clock.rested, _, outcome, receiver, after⟩

theorem await_hears (client : Client) (line : Line) (deadline : Deadline) :
    Hears client line (client.await line deadline) := by
  simp only [await]
  split
  · exact client.awaitUntimed_hears line deadline
  · split
    · exact client.awaitUntimed_hears line deadline
    · exact client.awaitTimed_hears _ line deadline

/-- All that a line has in store for a client. -/
def prospect (client : Client) (line : Line) : List (Except ClientError Response) :=
  (client.connection.receiver.upcoming line.reads).map hear

/-- What one cycle does with that: it hears the first of it, or nothing. -/
structure Told (client : Client) (line : Line) (heard : Option (Except ClientError Response))
    (after : Client) (later : Line) : Prop where
  next_prospect : heard.toList ++ after.prospect later = client.prospect line ∨
    heard = some (.error .closed) ∧ client.prospect line = [] ∧ after.prospect later = []
  settled : after.connection.receiver.Settled
  willing : later.Willing
  settings_eq : after.settings = client.settings

variable {client : Client} {line : Line}

theorem Hears.told {awaited : Attempt (Except ClientError Response) Client}
    (hears : Hears client line awaited) (settled : client.connection.receiver.Settled)
    (willing : line.Willing) :
    Told client line (heard? awaited.outcome) awaited.owner awaited.line := by
  obtain ⟨settings, clock, patience, outcome, receiver, after⟩ := hears
  have reading := Receiver.next_reading settled { line with clock } patience
  refine ⟨?_, ?_, ?_, settings⟩
  · simp only [prospect, outcome, receiver, after]
    rcases reading.next_upcoming with ahead | ⟨ended, nothing, stillNothing⟩
    · refine .inl ?_
      rw [← ahead, List.map_append]
      cases (client.connection.receiver.next { line with clock } patience).outcome <;> rfl
    · refine .inr ⟨?_, ?_, ?_⟩
      · rw [ended]
        rfl
      · exact congrArg (List.map hear) nothing
      · exact congrArg (List.map hear) stillNothing
  · rw [receiver]
    exact reading.settled
  · obtain ⟨later, reads, read⟩ :=
      client.connection.receiver.next_line { line with clock } patience
    rw [after, read]
    exact willing

theorem sendRequest_unhindered (connection : Connection) (request : Request)
    (willing : line.Willing) (deadline : Deadline) :
    let sent := connection.sendRequest request line deadline
    (∀ error, sent.outcome ≠ some (.error error)) ∧ sent.line.Willing ∧
      sent.line.reads = line.reads ∧ sent.owner.receiver = connection.receiver := by
  obtain ⟨unfailing, stillWilling⟩ :=
    connection.sender.send_unhindered request.encode willing deadline
  obtain ⟨clock, writes, written, sent⟩ := connection.sender.send_line request.encode line deadline
  rw [sent] at stillWilling
  simp only [Connection.sendRequest_eq, sent, and_true]
  exact ⟨unfailing, stillWilling⟩

theorem send_told (settled : client.connection.receiver.Settled) (willing : line.Willing)
    (request : Request) (deadline : Deadline) :
    let cycle := client.send request line deadline
    Told client line (heard? cycle.outcome) cycle.owner cycle.line := by
  obtain ⟨unfailing, stillWilling, reads, receiver⟩ :=
    sendRequest_unhindered client.connection request willing deadline
  let sent := client.connection.sendRequest request line deadline
  have waiting : (client.withConnection sent.owner).connection.receiver.Settled := by
    rw [withConnection, receiver]
    exact settled
  have same : (client.withConnection sent.owner).prospect sent.line = client.prospect line := by
    simp only [prospect, withConnection, sent, receiver, reads]
  simp only [send]
  split
  · exact ⟨.inl same, waiting, stillWilling, rfl⟩
  · rename_i error failed
    exact absurd failed (unfailing error)
  · obtain ⟨ahead, last, lastWilling, settings⟩ :=
      ((client.withConnection sent.owner).await_hears sent.line deadline).told waiting stillWilling
    rw [same] at ahead
    exact ⟨ahead, last, lastWilling, settings⟩

/-- The outcome of a call, if it is a cycle and did not run out of time.  A call whose request cannot
be built is no cycle: it never gets to the line, and that its payload is too large is left out just
as the timeouts are. -/
def Call.heard? (settings : Settings)
    (entry : (Call × Deadline) × Option (Except ClientError Response)) :
    Option (Except ClientError Response) :=
  match entry.1.1.prepare settings with
  | .error _ => none
  | .ok _ => Client.heard? entry.2

theorem perform_told {state : Client × Line} (settled : state.1.connection.receiver.Settled)
    (willing : state.2.Willing) (call : Call × Deadline) :
    Told state.1 state.2 (Call.heard? state.1.settings (call, (perform state call).1))
      (perform state call).2.1 (perform state call).2.2 := by
  obtain ⟨client, line⟩ := state
  obtain ⟨call, deadline⟩ := call
  rw [perform_eq]
  simp only [Call.heard?]
  cases call.prepare client.settings with
  | error error => exact ⟨.inl rfl, settled, willing, rfl⟩
  | ok request => exact send_told settled willing request deadline

/-- What cycles have made of all that a line had in store.  Once that is used up, each further cycle
hears an end that is not in it. -/
structure Story (settings : Settings) (line : Line)
    (entries : List ((Call × Deadline) × Option (Except ClientError Response)))
    (state : Client × Line) : Prop where
  hears : ∃ spare, entries.filterMap (Call.heard? settings) ++ state.1.prospect state.2 =
    (start settings).prospect line ++ List.replicate spare (.error .closed)
  settled : state.1.connection.receiver.Settled
  willing : state.2.Willing
  settings_eq : state.1.settings = settings

theorem story_start (settings : Settings) (willing : line.Willing) :
    Story settings line [] (start settings, line) :=
  ⟨⟨0, by simp⟩, Receiver.settled_of_live rfl, willing, rfl⟩

theorem Story.step {settings : Settings} {state : Client × Line}
    {entries : List ((Call × Deadline) × Option (Except ClientError Response))}
    (story : Story settings line entries state) (call : Call × Deadline) :
    Story settings line (entries ++ [(call, (perform state call).1)]) (perform state call).2 := by
  obtain ⟨⟨spare, hears⟩, settled, willing, rfl⟩ := story
  obtain ⟨ahead, last, lastWilling, settings⟩ := perform_told settled willing call
  refine ⟨?_, last, lastWilling, settings⟩
  rw [filterMap_concat]
  rcases ahead with ahead | ⟨ended, nothing, stillNothing⟩
  · refine ⟨spare, ?_⟩
    rw [List.append_assoc, ahead, hears]
  · rw [nothing, List.append_nil] at hears
    refine ⟨spare + 1, ?_⟩
    rw [hears, ended, stillNothing, List.append_nil, List.replicate_succ', List.append_assoc]
    rfl

theorem story_history (settings : Settings) (willing : line.Willing)
    (calls : List (Call × Deadline)) :
    let run := history perform (start settings, line) calls
    Story settings line run.1 run.2 :=
  history_induction (motive := Story settings line) (fun _ _ call story => Story.step story call)
    (story_start settings willing) calls

/-- What the cycles among some calls have come to, without the timeouts. -/
def answers (settings : Settings) (line : Line) (calls : List (Call × Deadline)) :
    List (Except ClientError Response) :=
  (history perform (start settings, line) calls).1.filterMap (Call.heard? settings)

/-- All that calls have come to, unless they were cut off before they came to anything. -/
def outcomes (settings : Settings) (line : Line) (calls : List (Call × Deadline)) :
    List (Except ClientError Response) :=
  (history perform (start settings, line) calls).1.filterMap (·.2)

def timely (outcomes : List (Except ClientError Response)) : List (Except ClientError Response) :=
  outcomes.filter (!isTimeout ·)

/-- Of calls whose requests can all be built, only the timeouts are left out. -/
theorem answers_of_built {settings : Settings} {calls : List (Call × Deadline)} (line : Line)
    (built : ∀ call ∈ calls, ∃ request, call.1.prepare settings = .ok request) :
    answers settings line calls = timely (outcomes settings line calls) := by
  rw [timely, outcomes, List.filter_filterMap]
  refine List.filterMap_congr ?_
  intro entry member
  have called : entry.1 ∈ calls := by
    rw [← history_calls perform (start settings, line) calls]
    exact List.mem_map_of_mem member
  obtain ⟨request, prepared⟩ := built entry.1 called
  simp only [Call.heard?, prepared]
  rfl

theorem responses_timely (outcomes : List (Except ClientError Response)) :
    (timely outcomes).filterMap Except.toOption = outcomes.filterMap Except.toOption := by
  rw [timely, List.filterMap_filter]
  refine List.filterMap_congr ?_
  intro outcome _
  cases outcome with
  | ok response => rfl
  | error error => cases error <;> rfl

/-- Whatever the client, it hears the beginning of one and the same story. -/
theorem answers_prefix (settings : Settings) (willing : line.Willing)
    (calls : List (Call × Deadline)) :
    ∃ least, ∀ spare, least ≤ spare → answers settings line calls <+:
      ((Reassembler.empty .response).upcoming line.reads).map hear ++
        List.replicate spare (.error .closed) := by
  obtain ⟨⟨least, hears⟩, _, _, _⟩ := story_history settings willing calls
  have fresh : (start settings).prospect line =
      ((Reassembler.empty .response).upcoming line.reads).map hear :=
    congrArg (List.map hear) (Receiver.upcoming_of_used rfl rfl)
  rw [fresh] at hears
  refine ⟨least, ?_⟩
  intro spare enough
  obtain ⟨more, rfl⟩ := Nat.exists_eq_add_of_le enough
  rw [← List.replicate_append_replicate, ← List.append_assoc, ← hears, List.append_assoc]
  exact List.prefix_append _ _

/-- The responses among what the line has in store are those of its frames, in order. -/
theorem responses_upcoming (reads : List ReadAction) :
    ((((Reassembler.empty .response).upcoming reads).map hear).filterMap Except.toOption).map .ok =
      ((Reassembler.empty .response).feedAll (Line.delivered reads)).1.map Response.decode := by
  have heard (delivery : Delivery) : (hear delivery).toOption =
      delivery.frame?.bind fun frame => (Response.decode frame).toOption := by
    cases delivery with
    | frame bytes =>
        simp only [hear, Response.decodeInPlace_eq_decode, Delivery.frame?, Option.bind_some]
        cases Response.decode bytes <;> rfl
    | failed fault => rfl
    | ended => rfl
  have decodes (frames : List Bytes) (whole : ∀ frame ∈ frames, Layout.response.IsFrame frame) :
      (frames.filterMap fun frame => (Response.decode frame).toOption).map .ok =
        frames.map Response.decode := by
    induction frames with
    | nil => rfl
    | cons frame frames ih =>
        obtain ⟨response, decoded⟩ := Response.decode_of_isFrame (whole frame (by simp))
        have rest := ih fun other member => whole other (by simp [member])
        simp only [List.filterMap_cons, decoded, Except.toOption, List.map_cons] at rest ⊢
        rw [rest]
  obtain ⟨_, cut⟩ := Reassembler.feedAll_consistent (Reassembler.consistent_empty .response)
    (Line.delivered reads)
  rw [← decodes _ cut.complete, ← frames_upcoming, List.filterMap_map, List.filterMap_filterMap]
  congr 2
  funext delivery
  exact heard delivery

theorem answers_related (willing : line.Willing) (settings others : Settings)
    (calls otherCalls : List (Call × Deadline)) :
    answers settings line calls <+: answers others line otherCalls ∨
      answers others line otherCalls <+: answers settings line calls := by
  obtain ⟨least, begins⟩ := answers_prefix settings willing calls
  obtain ⟨otherLeast, otherBegins⟩ := answers_prefix others willing otherCalls
  exact List.prefix_or_prefix_of_prefix (begins (max least otherLeast) (Nat.le_max_left _ _))
    (otherBegins (max least otherLeast) (Nat.le_max_right _ _))

theorem responses_answers (willing : line.Willing) (settings : Settings)
    (calls : List (Call × Deadline)) :
    ((answers settings line calls).filterMap Except.toOption).map .ok <+:
      ((Reassembler.empty .response).feedAll (Line.delivered line.reads)).1.map
        Response.decode := by
  obtain ⟨least, begins⟩ := answers_prefix settings willing calls
  have responses := (begins least (Nat.le_refl _)).filterMap Except.toOption
  have silent : (List.replicate least (.error .closed : Except ClientError Response)).filterMap
      Except.toOption = [] := by simp [Except.toOption]
  rw [List.filterMap_append, silent, List.append_nil] at responses
  rw [← responses_upcoming]
  exact responses.map Except.ok

/-- Cycles with requests that are built already. -/
def sends (requests : List (Request × Deadline)) : List (Call × Deadline) :=
  requests.map fun (request, deadline) => (.send request, deadline)

theorem answers_sends (settings : Settings) (line : Line) (requests : List (Request × Deadline)) :
    answers settings line (sends requests) = timely (outcomes settings line (sends requests)) := by
  apply answers_of_built
  intro call member
  obtain ⟨⟨request, deadline⟩, _, rfl⟩ := List.mem_map.mp member
  exact ⟨request, rfl⟩

/-- Clients that differ in patience hear one and the same story, and the responses in it are those of
the frames on the line, in order.  The story is told without the timeouts, and without the calls whose
requests cannot be built, since these come to the same whatever the line brings.  If there are none of
them, the timeouts are all that is left out. -/
theorem history_patience {line : Line} (willing : line.Willing) (settings others : Settings)
    (calls otherCalls : List (Call × Deadline)) :
    let heard := answers settings line calls
    let otherHeard := answers others line otherCalls
    (heard <+: otherHeard ∨ otherHeard <+: heard) ∧
      (heard.filterMap Except.toOption).map .ok <+:
        ((Reassembler.empty .response).feedAll (Line.delivered line.reads)).1.map
          Response.decode ∧
      ((∀ call ∈ calls, ∃ request, call.1.prepare settings = .ok request) →
        heard = timely (outcomes settings line calls)) :=
  ⟨answers_related willing settings others calls otherCalls,
    responses_answers willing settings calls, answers_of_built line⟩

/-- The frame under way is cut by a wait, a failure and the end that follows it.  Giving up in the wait
only puts everything off by one cycle. -/
theorem history_patience_inside_frame :
    let line := Line.ofScript
      [.data [0, 2], .wait 50 none, .data [0, 0xaa], .fail .timedOut, .data [0xbb, 5, 0, 0]] true
      [.accept 3, .wait 5 none]
    let hasty := { Settings.standard with responseTimeout := some ⟨30⟩ }
    let calls := List.replicate 4 (Call.send ⟨1, 1, 0, ⟨[], by decide⟩⟩, none)
    line.Willing ∧
      answers .standard line calls =
        [.error (.line (.ofKind .timedOut)), .error .closed, .ok ⟨0, 0, ⟨[0xaa, 0xbb], by decide⟩⟩,
          .ok ⟨5, 0, ⟨[], by decide⟩⟩] ∧
      answers hasty line calls =
        [.error (.line (.ofKind .timedOut)), .error .closed, .ok ⟨0, 0, ⟨[0xaa, 0xbb], by decide⟩⟩] ∧
      outcomes hasty line calls = .error .responseTimeout :: answers hasty line calls ∧
      (answers hasty line calls <+: answers .standard line calls ∨
        answers .standard line calls <+: answers hasty line calls) ∧
      ((answers hasty line calls).filterMap Except.toOption).map .ok <+:
        ((Reassembler.empty .response).feedAll (Line.delivered line.reads)).1.map
          Response.decode ∧
      answers hasty line calls = timely (outcomes hasty line calls) := by
  intro line hasty calls
  have willing : line.Willing := by simp [Line.Willing, line, Line.ofScript, WriteAction.succeeds]
  have built : ∀ call ∈ calls, ∃ request, call.1.prepare hasty = .ok request := by
    intro call member
    rw [List.eq_of_mem_replicate member]
    exact ⟨_, rfl⟩
  obtain ⟨related, responses, complete⟩ := history_patience willing hasty .standard calls calls
  exact ⟨willing, by decide +kernel, by decide +kernel, by decide +kernel, related, responses,
    complete built⟩

/-- Of two clients whose requests are built already, one comes to the beginning of what the other comes
to, once the timeouts are taken out.  The responses are those of the frames on the line, in order. -/
theorem sends_patience {line : Line} (willing : line.Willing) (settings others : Settings)
    (requests otherRequests : List (Request × Deadline)) :
    let made := outcomes settings line (sends requests)
    let otherMade := outcomes others line (sends otherRequests)
    (timely made <+: timely otherMade ∨ timely otherMade <+: timely made) ∧
      (made.filterMap Except.toOption).map .ok <+:
        ((Reassembler.empty .response).feedAll (Line.delivered line.reads)).1.map
          Response.decode := by
  intro made otherMade
  have related := answers_related willing settings others (sends requests) (sends otherRequests)
  have responses := responses_answers willing settings (sends requests)
  rw [answers_sends, answers_sends] at related
  rw [answers_sends, responses_timely] at responses
  exact ⟨related, responses⟩

end Client

end SerialLink
