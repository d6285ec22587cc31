import SerialLink.Proofs.Client
import SerialLink.Proofs.Device.Serving

namespace SerialLink

/-! A client and a device at the two ends of a link, taking turns in any order.

The device does one thing in its turn.  The client goes on until it waits for the device, or until
so many bytes have gone through its end of the link in one direction or the other: it may be held up
inside a read or a write.  It makes one call after the other, and with no response timeout it waits
for each response for as long as it takes.  No time passes in a dialogue, so with a response timeout
the first turn that does not bring the response would end the wait for it.
-/

/-- A turn of the host is limited to a number of bytes. -/
inductive Turn where
  | host (limit : Nat)
  | device

/-- Nobody is left out for ever. -/
structure Fair (schedule : Nat → Turn) : Prop where
  host : ∀ now, ∃ later limit, now ≤ later ∧ 0 < limit ∧ schedule later = .host limit
  device : ∀ now, ∃ later, now ≤ later ∧ schedule later = .device

def alternating (now : Nat) : Turn := if now % 2 = 0 then .host 1 else .device

theorem fair_alternating : Fair alternating := by
  constructor
  · intro now
    exact ⟨2 * now, 1, by omega, Nat.one_pos, if_pos (by omega)⟩
  · intro now
    exact ⟨2 * now + 1, by omega, if_neg (by omega)⟩

namespace Link

variable {link : Link} {limit : Nat}

/-- What a host sees of a link when it is limited. -/
def narrowed (link : Link) (limit : Nat) : Link :=
  { link with
    toHost := link.toHost.take limit
    capacity := min link.capacity (link.toDevice.length + limit) }

/-- The link after the host has used what it saw. -/
def afterNarrowed (link : Link) (limit : Nat) (line : Line) : Link :=
  let used := (link.narrowed limit).afterHost line
  { used with toHost := used.toHost ++ link.toHost.drop limit, capacity := link.capacity }

end Link

/-- An operation of the connection, as the client that has the connection sees it. -/
def Client.through (operation : Connection → Line → Attempt α Connection) (client : Client)
    (line : Line) : Attempt α Client :=
  (operation client.connection line).mapOwner client.withConnection

inductive Stage where
  | idle
  | queueing (request : Request)
  | sending
  | waiting

structure Dialogue where
  client : Client
  stage : Stage
  /-- The calls that are still to be made. -/
  calls : List Client.Call
  /-- What the calls so far have come to. -/
  outcomes : List (Except ClientError Response)
  service : Service

namespace Dialogue

def start (setup : Setup) (settings : Settings) (calls : List Client.Call) : Dialogue :=
  ⟨.start settings, .idle, calls, [], ⟨.fresh setup.capacity.val, []⟩⟩

def conclude (dialogue : Dialogue) (outcome : Except ClientError Response) : Dialogue :=
  { dialogue with stage := .idle, outcomes := dialogue.outcomes ++ [outcome] }

def proceed (stage : Stage) (dialogue : Dialogue) : Except LinkError Unit → Dialogue
  | .ok () => { dialogue with stage }
  | .error error => dialogue.conclude (.error (.ofLink error))

/-- Takes up the next call.  One that cannot be built is over at once. -/
def begin (dialogue : Dialogue) : Dialogue :=
  match dialogue.calls with
  | [] => dialogue
  | call :: calls =>
      match call.prepare dialogue.client.settings with
      | .ok request => { dialogue with calls, stage := .queueing request }
      | .error error => { dialogue with calls }.conclude (.error (.protocol error))

/-- Takes over how far an operation of the client has come, and goes on with its result. -/
def resume (dialogue : Dialogue) (next : Dialogue → α → Dialogue) :
    Option α × Client × Service → Dialogue
  | (outcome, client, service) =>
      let after := { dialogue with client, service }
      match outcome with
      | none => after
      | some result => next after result

def carryOn (dialogue : Dialogue) (limit : Nat) (operation : Client → Line → Attempt α Client)
    (next : Dialogue → α → Dialogue) : Dialogue :=
  let link := dialogue.service.link
  let attempt := operation dialogue.client (link.narrowed limit).hostLine
  dialogue.resume next (attempt.outcome, attempt.owner,
    { dialogue.service with link := link.afterNarrowed limit attempt.line })

def hostTurn (limit : Nat) (dialogue : Dialogue) : Dialogue :=
  match dialogue.stage with
  | .idle => dialogue.begin
  | .queueing request =>
      dialogue.carryOn limit
        (Client.through fun connection line => connection.enqueue request line none)
        (proceed .sending)
  | .sending =>
      dialogue.carryOn limit (Client.through fun connection line => connection.finishSend line none)
        (proceed .waiting)
  | .waiting => dialogue.carryOn limit (fun client line => client.await line none) conclude

def deviceTurn (setup : Setup) (dialogue : Dialogue) : Dialogue :=
  { dialogue with service := (dialogue.service.step setup false).getD dialogue.service }

def turn (setup : Setup) (dialogue : Dialogue) : Turn → Dialogue
  | .host limit => dialogue.hostTurn limit
  | .device => dialogue.deviceTurn setup

end Dialogue

namespace Link

variable {link : Link} {limit : Nat}

theorem hostRoom_narrowed (link : Link) (limit : Nat) :
    (link.narrowed limit).hostRoom = min link.hostRoom limit := by
  simp only [narrowed, hostRoom]
  omega

theorem delivered_hostLine (link : Link) : Line.delivered link.hostLine.reads = link.toHost := by
  cases toHost : link.toHost <;> simp [hostLine, toHost, Line.delivered]

theorem afterHost_hostLine (link : Link) : link.afterHost link.hostLine = link := by
  rw [afterHost, delivered_hostLine]
  simp [hostLine]

theorem afterNarrowed_hostLine (link : Link) (limit : Nat) :
    link.afterNarrowed limit (link.narrowed limit).hostLine = link := by
  simp only [afterNarrowed, afterHost_hostLine, narrowed, List.take_append_drop]

theorem hostLine_narrowed (shown : link.toHost.length ≤ limit) (room : link.hostRoom ≤ limit) :
    (link.narrowed limit).hostLine = link.hostLine := by
  have sees : (link.narrowed limit).toHost = link.toHost := List.take_of_length_le shown
  have writes : (link.narrowed limit).hostRoom = link.hostRoom := by
    rw [hostRoom_narrowed]
    exact Nat.min_eq_left room
  simp only [hostLine, sees, writes]
  rfl

theorem afterNarrowed_eq (shown : link.toHost.length ≤ limit) (line : Line) :
    link.afterNarrowed limit line = link.afterHost line := by
  simp only [afterNarrowed, afterHost, narrowed, List.drop_of_length_le shown, List.append_nil]

theorem flush_hostLine (sender : Sender) (deviceOpen : link.deviceOpen = true) :
    let flushed := sender.flush link.hostLine none
    let rest := sender.pending.drop link.hostRoom
    flushed.outcome = (if rest = [] then some (.ok ()) else none) ∧ flushed.owner = ⟨rest⟩ ∧
      link.afterHost flushed.line =
        { link with toDevice := link.toDevice ++ sender.pending.take link.hostRoom } := by
  intro flushed rest
  have stuck (bytes : Bytes) (clock : Clock) : Sender.push none true bytes clock [] =
      ⟨if bytes = [] then some (.ok ()) else none, bytes, clock, [], []⟩ := by
    cases bytes <;> simp [Sender.push, Clock.expire]
  have pushed : ∃ writes, Sender.push none true sender.pending link.hostLine.clock
      link.hostLine.writes = ⟨if rest = [] then some (.ok ()) else none, rest, link.hostLine.clock,
        writes, sender.pending.take link.hostRoom⟩ := by
    by_cases full : link.hostRoom = 0
    · simp [hostLine, deviceOpen, full, stuck, rest]
    · cases pending : sender.pending with
      | nil => simp [Sender.push, rest, pending]
      | cons byte bytes =>
          simp [hostLine, deviceOpen, full, Sender.push, stuck, Sender.Pushed.after, rest, pending]
  obtain ⟨writes, pushed⟩ := pushed
  have flushed_eq : flushed = ⟨if rest = [] then some (.ok ()) else none, ⟨rest⟩,
      { link.hostLine with writes, written := sender.pending.take link.hostRoom }⟩ := by
    have hangs : link.hostLine.writesHang = true := rfl
    simp only [flushed, Sender.flush, hangs, pushed]
    split
    · rfl
    · rfl
  rw [flushed_eq]
  refine ⟨rfl, rfl, ?_⟩
  simp only [afterHost, delivered_hostLine]

/-- A sender at a link of which it sees a part only. -/
theorem flush_narrowed (sender : Sender) (limit : Nat) (deviceOpen : link.deviceOpen = true) :
    let flushed := sender.flush (link.narrowed limit).hostLine none
    let room := min link.hostRoom limit
    let rest := sender.pending.drop room
    flushed.outcome = (if rest = [] then some (.ok ()) else none) ∧ flushed.owner = ⟨rest⟩ ∧
      link.afterNarrowed limit flushed.line =
        { link with toDevice := link.toDevice ++ sender.pending.take room } := by
  intro flushed room rest
  have open_end : (link.narrowed limit).deviceOpen = true := deviceOpen
  obtain ⟨outcome, owner, after⟩ := flush_hostLine sender open_end
  rw [hostRoom_narrowed] at outcome owner after
  refine ⟨outcome, owner, ?_⟩
  simp only [flushed, afterNarrowed, after]
  simp only [narrowed, List.take_append_drop, room]

theorem pull_hostLine (receiver : Receiver) (link : Link) (clock : Clock) :
    let pulled := receiver.pull none true clock link.hostLine.reads
    pulled.receiver.failed = receiver.failed ∧
      ∃ frame, pulled.delivery = Option.map .frame frame := by
  cases toHost : link.toHost with
  | nil =>
      simp only [hostLine, toHost, List.isEmpty_nil, if_true, Receiver.pull, true_and]
      exact ⟨none, rfl⟩
  | cons byte bytes =>
      rcases taking : receiver.take (byte :: bytes) with ⟨frame, taken, left⟩
      obtain ⟨_, _, _, _, sameFailed⟩ := Receiver.take_cases taking
      cases frame with
      | some frame =>
          simp only [hostLine, toHost, List.isEmpty_cons, Bool.false_eq_true, if_false,
            Receiver.pull, taking]
          exact ⟨sameFailed, some frame, rfl⟩
      | none =>
          simp only [hostLine, toHost, List.isEmpty_cons, Bool.false_eq_true, if_false, if_true,
            Receiver.pull, taking]
          exact ⟨sameFailed, none, rfl⟩

theorem next_hostLine {receiver : Receiver} (live : receiver.failed = false)
    (deviceOpen : link.deviceOpen = true) :
    let received := receiver.next link.hostLine none
    received.owner.failed = false ∧ ∃ frame, received.outcome = Option.map .frame frame := by
  have looks : ¬ receiver.failed = true := Bool.eq_false_iff.mp live
  have hangs : link.hostLine.readsHang = true := deviceOpen
  rcases decoding : receiver.decode with ⟨outcome, decoded⟩
  obtain ⟨_, _, _, _, sameFailed⟩ := Receiver.decode_cases decoding
  cases outcome with
  | some frame =>
      simp only [Receiver.next, if_neg looks, decoding]
      exact ⟨sameFailed.trans live, some frame, rfl⟩
  | none =>
      obtain ⟨pulledFailed, pulled⟩ := pull_hostLine decoded link link.hostLine.clock
      simp only [Receiver.next, if_neg looks, decoding, hangs]
      exact ⟨(pulledFailed.trans sameFailed).trans live, pulled⟩

theorem next_hostLine_of_silent {receiver : Receiver} (live : receiver.failed = false)
    (deviceOpen : link.deviceOpen = true) (used : receiver.buffer = []) (silent : link.toHost = []) :
    receiver.next link.hostLine none = ⟨none, receiver, link.hostLine⟩ := by
  obtain ⟨reassembler, buffer, count, failed⟩ := receiver
  obtain rfl : buffer = [] := used
  obtain rfl : failed = false := live
  simp [Receiver.next, Receiver.decode, Reassembler.next, hostLine, silent, deviceOpen,
    Receiver.pull, Clock.expire]

/-- What a host gets out of a link in one go: a frame, or as many bytes as it gets to see. -/
structure Hears (receiver : Receiver) (link : Link) (limit : Nat) (frame : Option Bytes)
    (consumed left : Bytes) (received : Attempt Delivery Receiver) : Prop where
  outcome_eq : received.outcome = frame.map .frame
  split : receiver.buffer ++ link.toHost = consumed ++ (received.owner.buffer ++ left)
  fed : receiver.reassembler.feedAll consumed = (frame.toList, received.owner.reassembler)
  live : received.owner.failed = false
  some_byte : frame = none → consumed ≠ []
  link_eq : link.afterNarrowed limit received.line = { link with toHost := left }

theorem next_hears {receiver : Receiver} (live : receiver.failed = false)
    (deviceOpen : link.deviceOpen = true)
    (audible : ¬(receiver.buffer = [] ∧ link.toHost.take limit = [])) :
    ∃ frame consumed left,
      Hears receiver link limit frame consumed left
        (receiver.next (link.narrowed limit).hostLine none) := by
  generalize receiving : receiver.next (link.narrowed limit).hostLine none = received
  have open_end : (link.narrowed limit).deviceOpen = true := deviceOpen
  obtain ⟨stillLive, frame, outcome⟩ := next_hostLine live open_end
  obtain ⟨⟨consumed, split, fed⟩, drains, _, answers, _⟩ :=
    Receiver.next_reading (Receiver.settled_of_live live) (link.narrowed limit).hostLine none
  obtain ⟨clock, reads, read⟩ := receiver.next_line (link.narrowed limit).hostLine none
  rw [receiving] at stillLive outcome split fed drains answers read
  have frame_eq : received.outcome.bind Delivery.frame? = frame := by
    rw [outcome]
    cases frame <;> rfl
  have written : received.line.written = [] := congrArg Line.written read
  rw [delivered_hostLine] at split
  rw [frame_eq] at fed drains
  refine ⟨frame, consumed, Line.delivered received.line.reads ++ link.toHost.drop limit, outcome,
    ?_, fed, stillLive, ?_, ?_⟩
  · calc receiver.buffer ++ link.toHost
        = receiver.buffer ++ link.toHost.take limit ++ link.toHost.drop limit := by
          rw [List.append_assoc, List.take_append_drop]
      _ = consumed ++ (received.owner.buffer ++ Line.delivered received.line.reads) ++
            link.toHost.drop limit := congrArg (· ++ _) split
      _ = _ := by simp only [List.append_assoc]
  · rintro nothing rfl
    obtain ⟨_, used⟩ := answers rfl (by rw [outcome, nothing]; rfl)
    rw [drains nothing, used] at split
    exact audible (List.append_eq_nil_iff.mp split)
  · simp only [afterNarrowed, afterHost, written, List.append_nil, narrowed]

end Link

end SerialLink
