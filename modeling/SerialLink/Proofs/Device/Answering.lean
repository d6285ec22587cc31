import SerialLink.Proofs.Device.Dialogue

namespace SerialLink

/-! Every request gets its response, whoever has the next turn.

The link holds two streams, one of requests and one of responses, and each byte of them is in one
place at a time: still pending, in a pipe, in a buffer, or fed to the reassembler at the other end.  A
turn moves bytes on or leaves everything as it is.
-/

theorem Request.encode_whole (requests : List Request) :
    ∀ frame ∈ requests.map Request.encode, Layout.request.IsFrame frame := by
  intro frame member
  obtain ⟨request, _, rfl⟩ := List.mem_map.mp member
  exact request.isFrame_encode

theorem Response.encode_whole (responses : List Response) :
    ∀ frame ∈ responses.map Response.encode, Layout.response.IsFrame frame := by
  intro frame member
  obtain ⟨response, _, rfl⟩ := List.mem_map.mp member
  exact response.isFrame_encode

theorem Response.prefix_of_encode {responses others : List Response}
    (begins : responses.map encode <+: others.map encode) : responses <+: others := by
  have same : responses.map encode = (others.take responses.length).map encode := by
    rw [List.map_take]
    simpa using List.prefix_iff_eq_take.mp begins
  have injective : Function.Injective encode := by
    intro response other encoded
    have decoded := congrArg decode encoded
    rw [decode_encode, decode_encode] at decoded
    exact Except.ok.inj decoded
  rw [(List.map_inj_right injective).mp same]
  exact List.take_prefix _ _

namespace Setup

variable {setup : Setup} {requests : List Request} {responses : List Response}

def Replies (setup : Setup) (requests : List Request) (responses : List Response) : Prop :=
  requests.map setup.reply? = responses.map some

/-- What a device logs when it has answered requests with responses. -/
def transcript (requests : List Request) (responses : List Response) : Recording :=
  (requests.zip responses).flatMap fun pair => [⟨false, pair.1.encode⟩, ⟨true, pair.2.encode⟩]

theorem transcript_length_le (requests : List Request) (responses : List Response) :
    (transcript requests responses).length ≤ 2 * requests.length := by
  induction requests generalizing responses with
  | nil => exact Nat.le_refl _
  | cons request requests ih =>
      cases responses with
      | nil => exact Nat.zero_le _
      | cons response responses =>
          have rest := ih responses
          simp only [transcript, List.zip_cons_cons, List.flatMap_cons, List.length_append,
            List.length_cons, List.length_nil] at rest ⊢
          omega

theorem transcript_take_prefix (requests : List Request) (responses : List Response) (count : Nat) :
    transcript (requests.take count) (responses.take count) <+: transcript requests responses := by
  have shorter : (requests.take count).zip (responses.take count) =
      (requests.zip responses).take count := by
    rw [List.zip_eq_zipWith, List.zip_eq_zipWith, List.take_zipWith]
  rw [transcript, transcript, shorter]
  exact ⟨_, by rw [← List.flatMap_append, List.take_append_drop]⟩

theorem Replies.length_eq (replies : setup.Replies requests responses) :
    requests.length = responses.length := by
  simpa using congrArg List.length replies

theorem Replies.take (replies : setup.Replies requests responses) (count : Nat) :
    setup.Replies (requests.take count) (responses.take count) := by
  have same := congrArg (List.take count) replies
  rwa [← List.map_take, ← List.map_take] at same

theorem Replies.answers (replies : setup.Replies requests responses) :
    (requests.map Request.encode).filterMap setup.answer? = responses.map Response.encode := by
  induction requests generalizing responses with
  | nil =>
      cases responses with
      | nil => rfl
      | cons response responses => cases replies
  | cons request requests ih =>
      cases responses with
      | nil => cases replies
      | cons response responses =>
          obtain ⟨first, rest⟩ := List.cons.inj replies
          simp only [List.map_cons, List.filterMap_cons, answer?_encode first, ih rest]

theorem Replies.exchanges (replies : setup.Replies requests responses) :
    (requests.map Request.encode).flatMap setup.exchange = transcript requests responses := by
  induction requests generalizing responses with
  | nil =>
      cases responses with
      | nil => rfl
      | cons response responses => cases replies
  | cons request requests ih =>
      cases responses with
      | nil => cases replies
      | cons response responses =>
          obtain ⟨first, rest⟩ := List.cons.inj replies
          simp only [List.map_cons, List.flatMap_cons, exchange, answer?_encode first, ih rest]
          rfl

end Setup

namespace Stage

def queued : Stage → List Request
  | .queueing request => [request]
  | .idle | .sending | .waiting => []

/-- How many requests are with the sender or on their way, and not yet answered. -/
def underWay : Stage → Nat
  | .idle | .queueing _ => 0
  | .sending | .waiting => 1

def sent : Stage → Nat
  | .idle | .queueing _ | .sending => 0
  | .waiting => 1

def rank : Stage → Nat
  | .idle => 0
  | .queueing _ => 1
  | .sending => 2
  | .waiting => 3

theorem rank_le (stage : Stage) : stage.rank ≤ 4 * (stage.queued.length + stage.underWay) := by
  cases stage <;> simp [rank, queued, underWay]

end Stage

namespace Dialogue

/-- What has happened in a dialogue so far. -/
structure Account where
  /-- What the client has written. -/
  input : Bytes
  /-- What the device has written. -/
  emitted : Bytes
  /-- What the client has fed to its reassembler. -/
  heard : Bytes
  /-- The frames that the device has taken. -/
  handled : List Bytes
  accepted : List Request
  answered : List Response
  /-- The requests of calls that are still to be made. -/
  later : List Request

structure Lawful (setup : Setup) (requests : List Request) (account : Account)
    (dialogue : Dialogue) : Prop where
  untimed : dialogue.client.settings.responseTimeout = none
  served : Served setup account.input account.emitted account.handled dialogue.service
  roomy : 0 < dialogue.service.link.capacity
  requests_eq : requests = account.accepted ++ (dialogue.stage.queued ++ account.later)
  calls_eq : dialogue.calls.map (·.prepare dialogue.client.settings) = account.later.map .ok
  underWay : account.accepted.length = account.answered.length + dialogue.stage.underWay
  written : account.input ++ dialogue.client.connection.sender.pending =
    (account.accepted.map Request.encode).flatten
  drained : dialogue.stage ≠ .sending → dialogue.client.connection.sender.pending = []
  emitted_eq : account.emitted =
    account.heard ++ (dialogue.client.connection.receiver.buffer ++ dialogue.service.link.toHost)
  hears : (Reassembler.empty .response).feedAll account.heard =
    (account.answered.map Response.encode, dialogue.client.connection.receiver.reassembler)
  live : dialogue.client.connection.receiver.failed = false
  outcomes_eq : dialogue.outcomes = account.answered.map .ok
  traffic_eq : dialogue.client.connection.traffic =
    ⟨account.answered.length + dialogue.stage.sent, account.answered.length,
      account.answered.length, 0, 0⟩

variable {setup : Setup} {requests : List Request} {responses : List Response} {account : Account}
  {dialogue : Dialogue}

namespace Lawful

theorem handled_prefix (lawful : Lawful setup requests account dialogue) :
    account.handled <+: account.accepted.map Request.encode := by
  obtain ⟨fed, split, fedAll⟩ := lawful.served.takes
  have written := lawful.written
  rw [split, List.append_assoc] at written
  exact Reassembler.prefix_of_feedAll (Request.encode_whole _) written fedAll

theorem handled_length_le (lawful : Lawful setup requests account dialogue) :
    account.handled.length ≤ account.accepted.length := by
  simpa using lawful.handled_prefix.length_le

theorem handled_eq (lawful : Lawful setup requests account dialogue) :
    account.handled = (requests.take account.handled.length).map Request.encode := by
  have within := lawful.handled_length_le
  rw [lawful.requests_eq, List.take_append_of_le_length within, List.map_take]
  exact List.prefix_iff_eq_take.mp lawful.handled_prefix

variable (replies : setup.Replies requests responses)
  (lawful : Lawful setup requests account dialogue)

include replies lawful

theorem emitted_unwritten : account.emitted ++ dialogue.service.link.unwritten =
    ((responses.take account.handled.length).map Response.encode).flatten := by
  rw [lawful.served.answers, ← (replies.take _).answers, ← lawful.handled_eq]

theorem log_unlogged : dialogue.service.log.reverse ++ dialogue.service.link.unlogged =
    Setup.transcript (requests.take account.handled.length)
      (responses.take account.handled.length) := by
  rw [lawful.served.logs, ← (replies.take _).exchanges, ← lawful.handled_eq]

theorem answered_prefix : account.answered <+: responses.take account.handled.length := by
  have emitted := lawful.emitted_unwritten replies
  rw [lawful.emitted_eq, List.append_assoc] at emitted
  exact Response.prefix_of_encode
    (Reassembler.prefix_of_feedAll (Response.encode_whole _) emitted lawful.hears)

end Lawful

/-- How many things have happened. -/
def Account.progress (account : Account) (dialogue : Dialogue) : Nat :=
  3 * account.input.length + dialogue.service.log.length + account.emitted.length +
    account.heard.length + 4 * account.answered.length + dialogue.stage.rank

/-- More than that cannot happen. -/
def limit (requests : List Request) (responses : List Response) : Nat :=
  3 * (requests.map Request.encode).flatten.length + 2 * requests.length +
    2 * (responses.map Response.encode).flatten.length + 4 * requests.length

theorem length_flatten_take (frames : List Bytes) (count : Nat) :
    (frames.take count).flatten.length ≤ frames.flatten.length := by
  have whole := congrArg (fun frames => frames.flatten.length) (List.take_append_drop count frames)
  simp only [List.flatten_append, List.length_append] at whole
  omega

theorem Lawful.progress_le (replies : setup.Replies requests responses)
    (lawful : Lawful setup requests account dialogue) :
    account.progress dialogue ≤ limit requests responses := by
  have asked := congrArg List.length lawful.requests_eq
  have input := congrArg List.length lawful.written
  have accepted : (account.accepted.map Request.encode).flatten.length ≤
      (requests.map Request.encode).flatten.length := by
    rw [lawful.requests_eq, List.map_append, List.flatten_append, List.length_append]
    exact Nat.le_add_right _ _
  have produced := congrArg List.length (lawful.emitted_unwritten replies)
  have bounded := length_flatten_take (responses.map Response.encode) account.handled.length
  have emitted := congrArg List.length lawful.emitted_eq
  have logged := congrArg List.length (lawful.log_unlogged replies)
  have entries := Setup.transcript_length_le (requests.take account.handled.length)
    (responses.take account.handled.length)
  have handled := List.length_take_le' account.handled.length requests
  have stage := dialogue.stage.rank_le
  have underWay := lawful.underWay
  rw [← List.map_take] at bounded
  simp only [List.length_append, List.length_reverse] at asked input produced emitted logged
  simp only [Account.progress, limit]
  omega

/-- Something happens, and all that can be said of a dialogue can still be said. -/
structure Advances (setup : Setup) (requests : List Request) (account : Account)
    (dialogue : Dialogue) (next : Account) (after : Dialogue) : Prop where
  lawful : Lawful setup requests next after
  further : account.progress dialogue + after.service.link.backlog <
    next.progress after + dialogue.service.link.backlog

theorem Lawful.deviceTurn (lawful : Lawful setup requests account dialogue) :
    dialogue.deviceTurn setup = dialogue ∧ dialogue.service.step setup false = none ∨
      ∃ next, Advances setup requests account dialogue next (dialogue.deviceTurn setup) := by
  cases did : dialogue.service.step setup false with
  | none =>
      refine .inl ⟨?_, rfl⟩
      simp only [Dialogue.deviceTurn, did, Option.getD_none]
  | some after =>
      obtain ⟨piece, taken, adds⟩ := lawful.served.step did
      have moved : dialogue.deviceTurn setup = { dialogue with service := after } := by
        simp only [Dialogue.deviceTurn, did, Option.getD_some]
      rw [moved]
      refine .inr ⟨{ account with
        emitted := account.emitted ++ piece, handled := account.handled ++ taken }, ⟨?_, ?_⟩⟩
      · refine { lawful with served := adds.served, roomy := ?_, emitted_eq := ?_ }
        · rw [adds.capacity_eq]
          exact lawful.roomy
        · simp only [lawful.emitted_eq, adds.toHost_eq, List.append_assoc]
      · have advances := adds.advances
        simp only [Account.progress, List.length_append]
        omega

theorem Lawful.begin (lawful : Lawful setup requests account dialogue)
    (idle : dialogue.stage = .idle) :
    dialogue.begin = dialogue ∧ dialogue.calls = [] ∨
      ∃ next, Advances setup requests account dialogue next dialogue.begin := by
  obtain ⟨client, stage, calls, outcomes, service⟩ := dialogue
  obtain rfl : stage = .idle := idle
  cases calls with
  | nil => exact .inl ⟨rfl, rfl⟩
  | cons call rest =>
      have prepared := lawful.calls_eq
      have parts := lawful.requests_eq
      cases later : account.later with
      | nil => simp [later] at prepared
      | cons request others =>
          rw [later] at prepared parts
          obtain ⟨first, remaining⟩ := List.cons.inj prepared
          have built : call.prepare client.settings = .ok request := first
          simp only [Dialogue.begin, built]
          refine .inr ⟨{ account with later := others }, ⟨?_, ?_⟩⟩
          · exact { lawful with
              requests_eq := parts, calls_eq := remaining, underWay := lawful.underWay,
              drained := fun _ => lawful.drained nofun, traffic_eq := lawful.traffic_eq }
          · simp only [Account.progress, Stage.rank]
            omega

section

variable {connection : Connection} {settings : Settings} {calls : List Client.Call}
  {outcomes : List (Except ClientError Response)} {service : Service}

theorem hostTurn_queueing {request : Request} (limit : Nat)
    (drained : connection.sender.pending = []) :
    hostTurn limit ⟨⟨connection, settings⟩, .queueing request, calls, outcomes, service⟩ =
      ⟨⟨{ connection with sender := ⟨request.encode⟩ }, settings⟩, .sending, calls, outcomes,
        service⟩ := by
  have roomy : ([] : Bytes).length < Sender.boundary := by decide
  simp only [hostTurn, carryOn, Client.through, resume, Connection.enqueue, Sender.feed, drained,
    roomy, if_true, Attempt.mapOwner, Sender.accept, List.nil_append, Link.afterNarrowed_hostLine,
    proceed]
  rfl

/-- The sender gets rid of a piece of what is pending. -/
theorem hostTurn_sending (limit : Nat) (deviceOpen : service.link.deviceOpen = true) :
    ∃ piece rest, piece ++ rest = connection.sender.pending ∧
      (piece = [] → rest = [] ∨ min service.link.hostRoom limit = 0) ∧
      hostTurn limit ⟨⟨connection, settings⟩, .sending, calls, outcomes, service⟩ =
        ⟨⟨⟨connection.receiver, ⟨rest⟩,
              if rest = [] then connection.traffic.recordSent else connection.traffic⟩, settings⟩,
          if rest = [] then .waiting else .sending, calls, outcomes,
          { service with
            link := { service.link with toDevice := service.link.toDevice ++ piece } }⟩ := by
  let room := min service.link.hostRoom limit
  refine ⟨connection.sender.pending.take room, connection.sender.pending.drop room,
    List.take_append_drop _ _, ?_, ?_⟩
  · intro nothing
    rcases List.take_eq_nil_iff.mp nothing with no_room | nothing_pending
    · exact .inr no_room
    · rw [nothing_pending]
      exact .inl List.drop_nil
  · obtain ⟨outcome, owner, written⟩ := Link.flush_narrowed connection.sender limit deviceOpen
    by_cases finished : connection.sender.pending.drop room = []
    · rw [if_pos finished] at outcome
      simp only [hostTurn, carryOn, Client.through, resume, Connection.finishSend, Attempt.mapOwner,
        outcome, owner, written, proceed, Client.withConnection, if_pos finished]
      rfl
    · rw [if_neg finished] at outcome
      simp only [hostTurn, carryOn, Client.through, resume, Connection.finishSend, Attempt.mapOwner,
        outcome, owner, written, Client.withConnection, if_neg finished]
      rfl

theorem hostTurn_waiting (untimed : settings.responseTimeout = none) (limit : Nat) :
    hostTurn limit ⟨⟨connection, settings⟩, .waiting, calls, outcomes, service⟩ =
      carryOn ⟨⟨connection, settings⟩, .waiting, calls, outcomes, service⟩ limit
        (fun client line => client.awaitUntimed line none) conclude := by
  simp only [hostTurn, carryOn, Client.await, untimed]

theorem hostTurn_unanswered {limit : Nat} {received : Attempt Delivery Receiver}
    (untimed : settings.responseTimeout = none)
    (receiving : connection.receiver.next (service.link.narrowed limit).hostLine none = received)
    (outcome : received.outcome = none) :
    hostTurn limit ⟨⟨connection, settings⟩, .waiting, calls, outcomes, service⟩ =
      ⟨⟨{ connection with receiver := received.owner }, settings⟩, .waiting, calls, outcomes,
        { service with link := service.link.afterNarrowed limit received.line }⟩ := by
  simp only [hostTurn_waiting untimed, carryOn, Client.awaitUntimed, resume, Connection.readResponse,
    Connection.readFrame, receiving, outcome]
  rfl

theorem hostTurn_answered {limit : Nat} {received : Attempt Delivery Receiver} {response : Response}
    (untimed : settings.responseTimeout = none)
    (receiving : connection.receiver.next (service.link.narrowed limit).hostLine none = received)
    (outcome : received.outcome = some (.frame response.encode)) :
    hostTurn limit ⟨⟨connection, settings⟩, .waiting, calls, outcomes, service⟩ =
      ⟨⟨{ connection with
            receiver := received.owner, traffic := connection.traffic.recordValid }, settings⟩,
        .idle, calls, outcomes ++ [.ok response],
        { service with link := service.link.afterNarrowed limit received.line }⟩ := by
  simp only [hostTurn_waiting untimed, carryOn, Client.awaitUntimed, resume, Connection.readResponse,
    Connection.readFrame, receiving, outcome, Option.map_some, Connection.frameOf, Connection.decode,
    Response.decodeInPlace_eq_decode, Response.decode_encode]
  rfl

end

/-- Why a turn of the host leaves everything as it is. -/
inductive HostWaits (dialogue : Dialogue) : Prop where
  | done (idle : dialogue.stage = .idle) (last : dialogue.calls = [])
  | full (sending : dialogue.stage = .sending)
      (more : dialogue.client.connection.sender.pending ≠ [])
      (no_room : dialogue.service.link.hostRoom = 0)
  | silent (waiting : dialogue.stage = .waiting)
      (used : dialogue.client.connection.receiver.buffer = [])
      (nothing : dialogue.service.link.toHost = [])

theorem Lawful.queue (lawful : Lawful setup requests account dialogue) {request : Request}
    (limit : Nat) (queueing : dialogue.stage = .queueing request) :
    ∃ next, Advances setup requests account dialogue next (dialogue.hostTurn limit) := by
  obtain ⟨⟨connection, settings⟩, stage, calls, outcomes, service⟩ := dialogue
  obtain rfl : stage = .queueing request := queueing
  have drained : connection.sender.pending = [] := lawful.drained nofun
  rw [hostTurn_queueing limit drained]
  refine ⟨{ account with accepted := account.accepted ++ [request] }, ⟨?_, ?_⟩⟩
  · refine { lawful with
      requests_eq := ?_, underWay := ?_, written := ?_, drained := fun sent => absurd rfl sent,
      traffic_eq := lawful.traffic_eq }
    · rw [lawful.requests_eq, List.append_assoc]
      rfl
    · rw [List.length_append, lawful.underWay]
      rfl
    · have written : account.input ++ connection.sender.pending = _ := lawful.written
      rw [drained, List.append_nil] at written
      simp only [written, List.map_append, List.map_cons, List.map_nil, List.flatten_append,
        List.flatten_singleton]
  · simp only [Account.progress, Stage.rank]
    omega

theorem Lawful.send (lawful : Lawful setup requests account dialogue) (limit : Nat)
    (sending : dialogue.stage = .sending) :
    dialogue.hostTurn limit = dialogue ∧ (0 < limit → dialogue.HostWaits) ∨
      ∃ next, Advances setup requests account dialogue next (dialogue.hostTurn limit) := by
  obtain ⟨⟨⟨receiver, ⟨pending⟩, traffic⟩, settings⟩, stage, calls, outcomes, service⟩ := dialogue
  obtain rfl : stage = .sending := sending
  obtain ⟨piece, rest, whole, stuck, turned⟩ := hostTurn_sending limit lawful.served.deviceOpen
  rw [turned]
  have served := lawful.served.hostWrites piece
  have written : account.input ++ piece ++ rest = (account.accepted.map Request.encode).flatten := by
    rw [List.append_assoc, whole]
    exact lawful.written
  by_cases finished : rest = []
  · simp only [if_pos finished]
    refine .inr ⟨{ account with input := account.input ++ piece }, ⟨?_, ?_⟩⟩
    · refine { lawful with served, written, drained := fun _ => finished, traffic_eq := ?_ }
      have counted := lawful.traffic_eq
      exact congrArg Traffic.recordSent counted
    · simp only [Account.progress, Link.backlog, List.length_append, Stage.rank]
      omega
  · simp only [if_neg finished]
    by_cases nothing : piece = []
    · refine .inl ⟨?_, ?_⟩
      · obtain rfl := nothing
        obtain rfl : rest = pending := whole
        simp only [List.append_nil]
      · intro some_byte
        have more : pending ≠ [] := by
          intro absurdity
          exact finished (List.append_eq_nil_iff.mp (whole.trans absurdity)).2
        have no_room := (stuck nothing).resolve_left finished
        exact .full rfl more (by omega)
    · have positive := List.length_pos_iff.mpr nothing
      refine .inr ⟨{ account with input := account.input ++ piece }, ⟨?_, ?_⟩⟩
      · refine { lawful with served, written, drained := ?_ }
        intro absurdity
        contradiction
      · simp only [Account.progress, Link.backlog, List.length_append]
        omega

/-- A frame that the client gets is the response to the request it has sent last. -/
theorem Lawful.heard_frame (replies : setup.Replies requests responses)
    (lawful : Lawful setup requests account dialogue) {consumed left frame : Bytes}
    {fed : Reassembler}
    (split : account.emitted = account.heard ++ consumed ++ left)
    (hears : (Reassembler.empty .response).feedAll (account.heard ++ consumed) =
      (account.answered.map Response.encode ++ [frame], fed)) :
    ∃ response : Response, frame = response.encode := by
  have emitted := lawful.emitted_unwritten replies
  rw [split, List.append_assoc] at emitted
  have begins := Reassembler.prefix_of_feedAll (Response.encode_whole _) emitted hears
  have member := begins.subset (List.mem_append_right _ (List.mem_singleton.mpr rfl))
  obtain ⟨response, _, same⟩ := List.mem_map.mp member
  exact ⟨response, same.symm⟩

theorem Lawful.wait (replies : setup.Replies requests responses)
    (lawful : Lawful setup requests account dialogue) (limit : Nat)
    (waiting : dialogue.stage = .waiting) :
    dialogue.hostTurn limit = dialogue ∧ (0 < limit → dialogue.HostWaits) ∨
      ∃ next, Advances setup requests account dialogue next (dialogue.hostTurn limit) := by
  obtain ⟨⟨connection, settings⟩, stage, calls, outcomes, service⟩ := dialogue
  obtain rfl : stage = .waiting := waiting
  have live : connection.receiver.failed = false := lawful.live
  have open_end : (service.link.narrowed limit).deviceOpen = true := lawful.served.deviceOpen
  by_cases silent : connection.receiver.buffer = [] ∧ service.link.toHost.take limit = []
  · obtain ⟨used, nothing⟩ := silent
    have receiving := Link.next_hostLine_of_silent live open_end used nothing
    refine .inl ⟨?_, ?_⟩
    · rw [hostTurn_unanswered lawful.untimed receiving rfl]
      simp only [Link.afterNarrowed_hostLine]
    · intro some_byte
      refine .silent rfl used ?_
      exact (List.take_eq_nil_iff.mp nothing).resolve_left (Nat.ne_of_gt some_byte)
  · obtain ⟨frame, consumed, left, hears⟩ :=
      Link.next_hears live lawful.served.deviceOpen silent
    generalize receiving : connection.receiver.next (service.link.narrowed limit).hostLine none =
      received at hears
    have split : account.emitted = account.heard ++ consumed ++ (received.owner.buffer ++ left) := by
      rw [List.append_assoc, ← hears.split]
      exact lawful.emitted_eq
    have fed : (Reassembler.empty .response).feedAll (account.heard ++ consumed) =
        (account.answered.map Response.encode ++ frame.toList, received.owner.reassembler) := by
      rw [Reassembler.feedAll_append, lawful.hears, hears.fed]
    have served := lawful.served.hostReads left
    cases frame with
    | none =>
        rw [hostTurn_unanswered lawful.untimed receiving hears.outcome_eq, hears.link_eq]
        rw [Option.toList_none, List.append_nil] at fed
        refine .inr ⟨{ account with heard := account.heard ++ consumed }, ⟨?_, ?_⟩⟩
        · exact { lawful with served, emitted_eq := split, hears := fed, live := hears.live }
        · have positive := List.length_pos_iff.mpr (hears.some_byte rfl)
          simp only [Account.progress, Link.backlog, List.length_append]
          omega
    | some frame =>
        obtain ⟨response, rfl⟩ := lawful.heard_frame replies split fed
        rw [hostTurn_answered lawful.untimed receiving hears.outcome_eq, hears.link_eq]
        refine .inr ⟨{ account with
          heard := account.heard ++ consumed, answered := account.answered ++ [response] }, ⟨?_, ?_⟩⟩
        · have sent := lawful.underWay
          have reported : outcomes = account.answered.map .ok := lawful.outcomes_eq
          have counted := congrArg Traffic.recordValid lawful.traffic_eq
          refine { lawful with
            served, emitted_eq := split, live := hears.live, underWay := ?_, hears := ?_,
            drained := fun _ => lawful.drained (by simp), outcomes_eq := ?_, traffic_eq := ?_ }
          · rw [List.length_append]
            exact sent
          · rw [List.map_append]
            exact fed
          · rw [reported, List.map_append]
            rfl
          · rw [List.length_append]
            exact counted
        · simp only [Account.progress, Link.backlog, List.length_append, Stage.rank,
            List.length_singleton]
          omega

theorem Lawful.hostTurn (replies : setup.Replies requests responses)
    (lawful : Lawful setup requests account dialogue) (limit : Nat) :
    dialogue.hostTurn limit = dialogue ∧ (0 < limit → dialogue.HostWaits) ∨
      ∃ next, Advances setup requests account dialogue next (dialogue.hostTurn limit) := by
  cases stage : dialogue.stage with
  | idle =>
      simp only [Dialogue.hostTurn, stage]
      rcases lawful.begin stage with ⟨same, last⟩ | advances
      · exact .inl ⟨same, fun _ => .done stage last⟩
      · exact .inr advances
  | queueing request => exact .inr (lawful.queue limit stage)
  | sending => exact lawful.send limit stage
  | waiting => exact lawful.wait replies limit stage

/-- What can still happen takes no more than so much effort. -/
def Due (setup : Setup) (requests : List Request) (responses : List Response) (effort : Nat)
    (dialogue : Dialogue) : Prop :=
  ∃ account, Lawful setup requests account dialogue ∧
    effort + account.progress dialogue = limit requests responses + dialogue.service.link.backlog

theorem Advances.spends {next : Account} {after : Dialogue} {effort : Nat}
    (replies : setup.Replies requests responses)
    (advances : Advances setup requests account dialogue next after)
    (enough : effort + account.progress dialogue =
      limit requests responses + dialogue.service.link.backlog) :
    ∃ less, less < effort ∧ Due setup requests responses less after := by
  have further := advances.further
  have within := advances.lawful.progress_le replies
  refine ⟨limit requests responses + after.service.link.backlog - next.progress after, by omega,
    next, advances.lawful, by omega⟩

theorem due_spends (replies : setup.Replies requests responses) :
    Spends (turn setup) (Due setup requests responses) := by
  intro effort dialogue due ⟨account, lawful, enough⟩
  cases due with
  | host limit =>
      rcases lawful.hostTurn replies limit with ⟨same, _⟩ | ⟨next, advances⟩
      · exact .inl same
      · exact .inr (advances.spends replies enough)
  | device =>
      rcases lawful.deviceTurn with ⟨same, _⟩ | ⟨next, advances⟩
      · exact .inl same
      · exact .inr (advances.spends replies enough)

end Dialogue

end SerialLink
