import SerialLink.Proofs.Device.Completion

namespace SerialLink

/-! Cycles of a client that has the device to itself.

The host goes as far as it can, then the device does, and so on until the cycle is over.  These are
turns of a dialogue, and no dialogue comes to a point at which neither can go on but the cycle is not
over.
-/

namespace Link

variable {link : Link}

theorem canWrite_iff (deviceOpen : link.deviceOpen = true) :
    link.canWrite = true ↔ link.hostRoom ≠ 0 := by
  simp [canWrite, deviceOpen]

theorem canRead_iff (deviceOpen : link.deviceOpen = true) :
    link.canRead = true ↔ link.toHost ≠ [] := by
  simp [canRead, deviceOpen]

/-- A host that gets no frame has fed all there is. -/
theorem next_unfinished {receiver : Receiver} (live : receiver.failed = false)
    (unfinished : (receiver.next link.hostLine none).outcome = none) :
    let after := (receiver.next link.hostLine none).owner
    after.buffer = [] ∧ after.reassembler.buffer.toList =
      receiver.reassembler.buffer.toList ++ (receiver.buffer ++ link.toHost) := by
  intro after
  obtain ⟨⟨consumed, split, fed⟩, drains, _, answers, _⟩ :=
    Receiver.next_reading (Receiver.settled_of_live live) link.hostLine none
  rw [unfinished] at fed drains answers
  have drained : after.buffer = [] := drains rfl
  obtain ⟨_, used⟩ := answers rfl rfl
  rw [delivered_hostLine, used, drained] at split
  refine ⟨drained, ?_⟩
  rw [split, Reassembler.buffer_of_feedAll_nil fed]
  simp [Line.delivered]

end Link

namespace Service

variable {σ α : Type} {setup : Setup} {ready : Link → Bool}
  {operation : σ → Line → Attempt α σ}

theorem goOn_waits (setup : Setup) (stopped : Bool) (ready : Link → Bool) (credit : Nat)
    (service : Service) :
    ready (service.goOn setup stopped ready credit).link = true ∨
      (service.goOn setup stopped ready credit).step setup stopped = none := by
  fun_induction service.goOn setup stopped ready credit with
  | case1 _ service waits => exact .inr waits
  | case2 _ service after did _ _ able => exact .inl able
  | case3 _ service after did _ _ _ ih => exact ih
  | case4 _ service after did _ _ ih => exact ih

/-- Each time the operation is done, or the host can go on and is nearer to it. -/
def Nears (setup : Setup) (ready : Link → Bool) (operation : σ → Line → Attempt α σ)
    (held : Nat → σ → Service → Prop) (reached : α → σ → Service → Prop) : Prop :=
  ∀ turns owner service, held turns owner service →
    let attempt := operation owner service.link.hostLine
    let used : Service := { service with link := service.link.afterHost attempt.line }
    let later := used.goOn setup false ready burst
    (∃ result, attempt.outcome = some result ∧ reached result attempt.owner used) ∨
      attempt.outcome = none ∧ ready later.link = true ∧
        ∃ fewer, fewer < turns ∧ held fewer attempt.owner later

theorem Nears.ends {held : Nat → σ → Service → Prop} {reached : α → σ → Service → Prop}
    (nears : Nears setup ready operation held reached)
    {turns count : Nat} {owner : σ} {service : Service} (holds : held turns owner service)
    (enough : turns < count) :
    ∃ result last after, reached result last after ∧
      drive setup false ready operation count owner service = (some result, last, after) := by
  induction count generalizing turns owner service with
  | zero => omega
  | succ count ih =>
      simp only [drive]
      rcases nears turns owner service holds with
        ⟨result, ended, done⟩ | ⟨unfinished, able, fewer, below, holds⟩
      · rw [ended]
        exact ⟨result, _, _, done, rfl⟩
      · rw [unfinished, if_pos able]
        exact ih holds (by omega)

end Service

namespace Dialogue

/-- A dialogue as it can come about. -/
def Stands (setup : Setup) (requests : List Request) (dialogue : Dialogue) : Prop :=
  ∃ account, Lawful setup requests account dialogue

variable {setup : Setup} {requests : List Request} {responses : List Response}
  {connection : Connection} {settings : Settings} {stage : Stage} {calls : List Client.Call}
  {outcomes : List (Except ClientError Response)} {service : Service} {turns : Nat}

theorem Stands.goOn
    (stands : Stands setup requests ⟨⟨connection, settings⟩, stage, calls, outcomes, service⟩)
    (ready : Link → Bool) (credit : Nat) :
    Stands setup requests ⟨⟨connection, settings⟩, stage, calls, outcomes,
      service.goOn setup false ready credit⟩ := by
  have does {service after : Service} (did : service.step setup false = some after)
      (stands : Stands setup requests ⟨⟨connection, settings⟩, stage, calls, outcomes, service⟩) :
      Stands setup requests ⟨⟨connection, settings⟩, stage, calls, outcomes, after⟩ := by
    obtain ⟨account, lawful⟩ := stands
    rcases lawful.deviceTurn with ⟨_, idle⟩ | ⟨next, advances⟩
    · rw [did] at idle
      contradiction
    · have after := advances.lawful
      simp only [deviceTurn, did, Option.getD_some] at after
      exact ⟨next, after⟩
  fun_induction service.goOn setup false ready credit with
  | case1 => exact stands
  | case2 _ service after did => exact does did stands
  | case3 _ service after did _ _ _ ih => exact ih (does did stands)
  | case4 _ service after did _ _ ih => exact ih (does did stands)

/-- A host that is not held up does all it can. -/
theorem Stands.carriesOn {α : Type} {operation : Client → Line → Attempt α Client}
    {next : Dialogue → α → Dialogue} (replies : setup.Replies requests responses)
    (stands : Stands setup requests ⟨⟨connection, settings⟩, stage, calls, outcomes, service⟩)
    (turns : ∀ limit, hostTurn limit ⟨⟨connection, settings⟩, stage, calls, outcomes, service⟩ =
      carryOn ⟨⟨connection, settings⟩, stage, calls, outcomes, service⟩ limit operation next) :
    let attempt := operation ⟨connection, settings⟩ service.link.hostLine
    let used := { service with link := service.link.afterHost attempt.line }
    (attempt.outcome = none → Stands setup requests
      ⟨attempt.owner, stage, calls, outcomes, used⟩) ∧
    ∀ result, attempt.outcome = some result → Stands setup requests
      (next ⟨attempt.owner, stage, calls, outcomes, used⟩ result) := by
  obtain ⟨account, lawful⟩ := stands
  intro attempt used
  let limit := max service.link.toHost.length service.link.hostRoom
  have shown : service.link.toHost.length ≤ limit := Nat.le_max_left _ _
  have room : service.link.hostRoom ≤ limit := Nat.le_max_right _ _
  have turned : Stands setup requests
      (hostTurn limit ⟨⟨connection, settings⟩, stage, calls, outcomes, service⟩) := by
    rcases lawful.hostTurn replies limit with ⟨same, _⟩ | ⟨later, advances⟩
    · rw [same]
      exact ⟨account, lawful⟩
    · exact ⟨later, advances.lawful⟩
  simp only [turns, carryOn, Link.hostLine_narrowed shown room,
    Link.afterNarrowed_eq shown] at turned
  constructor
  · intro unfinished
    rw [show (operation ⟨connection, settings⟩ service.link.hostLine).outcome = none from unfinished]
      at turned
    exact turned
  · intro result finished
    rw [show (operation ⟨connection, settings⟩ service.link.hostLine).outcome = _ from finished]
      at turned
    exact turned

theorem hostTurn_eq_finishSend (limit : Nat) :
    hostTurn limit ⟨⟨connection, settings⟩, .sending, calls, outcomes, service⟩ =
      carryOn ⟨⟨connection, settings⟩, .sending, calls, outcomes, service⟩ limit
        (Client.through fun owner line => Connection.finishSend owner line none)
        (proceed .waiting) := rfl

/-- Each turn of a host that finds room gets rid of a byte. -/
structure Sending (setup : Setup) (requests : List Request) (settings : Settings)
    (calls : List Client.Call) (outcomes : List (Except ClientError Response)) (turns : Nat)
    (connection : Connection) (service : Service) : Prop where
  stands : Stands setup requests ⟨⟨connection, settings⟩, .sending, calls, outcomes, service⟩
  bound : connection.sender.pending.length ≤ turns + if service.link.hostRoom = 0 then 0 else 1

structure Sent (setup : Setup) (requests : List Request) (settings : Settings)
    (calls : List Client.Call) (outcomes : List (Except ClientError Response))
    (result : Except LinkError Unit) (connection : Connection) (service : Service) : Prop where
  result_eq : result = .ok ()
  stands : Stands setup requests ⟨⟨connection, settings⟩, .waiting, calls, outcomes, service⟩

theorem enqueue_ends {request : Request}
    (stands : Stands setup requests
      ⟨⟨connection, settings⟩, .queueing request, calls, outcomes, service⟩) :
    ∃ queued, Stands setup requests ⟨⟨queued, settings⟩, .sending, calls, outcomes, service⟩ ∧
      Service.drive setup false Link.canWrite
        (fun owner line => Connection.enqueue owner request line none)
        (connection.sender.pending.length + 1) connection service =
          (some (.ok ()), queued, service) := by
  obtain ⟨account, lawful⟩ := stands
  have drained : connection.sender.pending = [] := lawful.drained nofun
  obtain ⟨next, advances⟩ := lawful.queue 0 rfl
  have sending := advances.lawful
  rw [hostTurn_queueing 0 drained] at sending
  have roomy : ([] : Bytes).length < Sender.boundary := by decide
  refine ⟨_, ⟨next, sending⟩, ?_⟩
  simp only [Service.drive, Connection.enqueue, Sender.feed, drained, roomy, if_true,
    Attempt.mapOwner, Sender.accept, List.nil_append, Link.afterHost_hostLine]

theorem sending_nears (replies : setup.Replies requests responses) :
    Service.Nears setup Link.canWrite (fun owner line => Connection.finishSend owner line none)
      (Sending setup requests settings calls outcomes)
      (Sent setup requests settings calls outcomes) := by
  rintro turns connection service ⟨stands, bound⟩
  intro attempt used later
  let rest := connection.sender.pending.drop service.link.hostRoom
  have ⟨account, lawful⟩ := stands
  obtain ⟨outcome, owner, _⟩ := Link.flush_hostLine connection.sender lawful.served.deviceOpen
  have attempted : attempt.outcome = if rest = [] then some (.ok ()) else none := outcome
  have unsent : attempt.owner.sender = ⟨rest⟩ := owner
  obtain ⟨goesOn, finishes⟩ := stands.carriesOn replies hostTurn_eq_finishSend
  by_cases finished : rest = []
  · rw [if_pos finished] at attempted
    exact .inl ⟨.ok (), attempted, rfl, finishes _ attempted⟩
  · rw [if_neg finished] at attempted
    have standsLater := (goesOn attempted).goOn Link.canWrite burst
    have ⟨last, lawfulLater⟩ := standsLater
    have more : attempt.owner.sender.pending ≠ [] := by
      rw [unsent]
      exact finished
    have deviceOpen : later.link.deviceOpen = true := lawfulLater.served.deviceOpen
    have room : later.link.hostRoom ≠ 0 := by
      rcases Service.goOn_waits setup false Link.canWrite burst used with able | waits
      · exact (Link.canWrite_iff deviceOpen).mp able
      · exact Nat.ne_of_gt (lawfulLater.not_full replies waits rfl more)
    have left : attempt.owner.sender.pending.length =
        connection.sender.pending.length - service.link.hostRoom := by
      rw [unsent, List.length_drop]
    have some_byte := List.length_pos_iff.mpr more
    refine .inr ⟨attempted, (Link.canWrite_iff deviceOpen).mpr room, turns - 1, ?_, standsLater, ?_⟩
    · split at bound <;> omega
    · rw [if_neg room]
      split at bound <;> omega

theorem finishSend_ends (replies : setup.Replies requests responses)
    (stands : Stands setup requests ⟨⟨connection, settings⟩, .sending, calls, outcomes, service⟩) :
    ∃ sent after, Stands setup requests ⟨⟨sent, settings⟩, .waiting, calls, outcomes, after⟩ ∧
      Service.drive setup false Link.canWrite
        (fun owner line => Connection.finishSend owner line none)
        (connection.sender.pending.length + 1) connection service =
          (some (.ok ()), sent, after) := by
  have sending : Sending setup requests settings calls outcomes connection.sender.pending.length
      connection service := ⟨stands, Nat.le_add_right _ _⟩
  obtain ⟨result, sent, after, ⟨rfl, standsAfter⟩, driven⟩ :=
    (sending_nears replies).ends sending (Nat.lt_succ_self _)
  exact ⟨sent, after, standsAfter, driven⟩

/-- Each turn of a host that finds something to read brings a byte of the response. -/
structure Awaiting (setup : Setup) (requests : List Request) (settings : Settings)
    (calls : List Client.Call) (outcomes : List (Except ClientError Response)) (turns : Nat)
    (connection : Connection) (service : Service) : Prop where
  stands : Stands setup requests ⟨⟨connection, settings⟩, .waiting, calls, outcomes, service⟩
  bound : Layout.response.maxFrame ≤ connection.receiver.reassembler.buffer.toList.length + turns +
    if connection.receiver.buffer = [] ∧ service.link.toHost = [] then 0 else 1

theorem Stands.frame_unfinished
    (stands : Stands setup requests ⟨⟨connection, settings⟩, stage, calls, outcomes, service⟩) :
    connection.receiver.reassembler.buffer.toList.length < Layout.response.maxFrame := by
  obtain ⟨account, lawful⟩ := stands
  obtain ⟨consistent, _⟩ := Reassembler.feedAll_consistent
    (Reassembler.consistent_empty .response) account.heard
  rw [lawful.hears] at consistent
  exact consistent.unfinished.length_lt

theorem awaiting_nears (replies : setup.Replies requests responses) :
    Service.Nears setup Link.canRead (fun owner line => Connection.readResponse owner line none)
      (Awaiting setup requests settings calls outcomes)
      (fun result connection service => Stands setup requests
        ⟨⟨connection, settings⟩, .idle, calls, outcomes ++ [Client.conclude result], service⟩) := by
  rintro turns connection service ⟨stands, bound⟩
  intro attempt used later
  have ⟨account, lawful⟩ := stands
  obtain ⟨goesOn, finishes⟩ := stands.carriesOn replies (hostTurn_waiting lawful.untimed)
  cases attempted : attempt.outcome with
  | some result => exact .inl ⟨result, rfl, finishes _ (congrArg (Option.map _) attempted)⟩
  | none =>
      have standsLater := (goesOn (congrArg (Option.map _) attempted)).goOn Link.canRead burst
      have ⟨last, lawfulLater⟩ := standsLater
      have unfinished : (connection.receiver.next service.link.hostLine none).outcome = none := by
        obtain ⟨sameSome, _⟩ := connection.readResponse_next service.link.hostLine none
        rw [show (connection.readResponse service.link.hostLine none).outcome = none from attempted]
          at sameSome
        exact Option.isNone_iff_eq_none.mp (Option.isSome_eq_false_iff.mp sameSome.symm)
      have owner : attempt.owner.receiver =
          (connection.receiver.next service.link.hostLine none).owner := by
        simp only [attempt, Connection.readResponse_silent unfinished]
      obtain ⟨drained, grown⟩ := Link.next_unfinished lawful.live unfinished
      rw [← owner] at drained grown
      have deviceOpen : later.link.deviceOpen = true := lawfulLater.served.deviceOpen
      have arrived : later.link.toHost ≠ [] := by
        rcases Service.goOn_waits setup false Link.canRead burst used with able | waits
        · exact (Link.canRead_iff deviceOpen).mp able
        · exact lawfulLater.not_silent replies waits rfl drained
      have short : attempt.owner.receiver.reassembler.buffer.toList.length <
        Layout.response.maxFrame := standsLater.frame_unfinished
      have lengths := congrArg List.length grown
      simp only [List.length_append] at lengths
      have brought : (if connection.receiver.buffer = [] ∧ service.link.toHost = [] then 0 else 1) ≤
          connection.receiver.buffer.length + service.link.toHost.length := by
        split
        · exact Nat.zero_le _
        · rename_i audible
          apply Nat.pos_of_ne_zero
          intro nothing
          exact audible ⟨List.eq_nil_of_length_eq_zero (by omega),
            List.eq_nil_of_length_eq_zero (by omega)⟩
      refine .inr ⟨rfl, (Link.canRead_iff deviceOpen).mpr arrived, turns - 1, ?_, standsLater, ?_⟩
      · omega
      · rw [if_neg fun silent => arrived silent.2]
        omega

theorem readResponse_ends (replies : setup.Replies requests responses)
    (stands : Stands setup requests ⟨⟨connection, settings⟩, .waiting, calls, outcomes, service⟩) :
    ∃ result received after, Stands setup requests
        ⟨⟨received, settings⟩, .idle, calls, outcomes ++ [Client.conclude result], after⟩ ∧
      Service.drive setup false Link.canRead
        (fun owner line => Connection.readResponse owner line none)
        (Service.awaitTurns none) connection service = (some result, received, after) := by
  have awaiting : Awaiting setup requests settings calls outcomes Layout.response.maxFrame
      connection service := ⟨stands, by omega⟩
  exact (awaiting_nears replies).ends awaiting (Nat.lt_succ_self _)

/-- Without a response timeout every cycle comes to its end. -/
theorem send_ends (replies : setup.Replies requests responses)
    (untimed : settings.responseTimeout = none) (patience : Duration) {request : Request}
    (stands : Stands setup requests
      ⟨⟨connection, settings⟩, .queueing request, calls, outcomes, service⟩) :
    ∃ outcome last after, Stands setup requests
        ⟨⟨last, settings⟩, .idle, calls, outcomes ++ [outcome], after⟩ ∧
      Service.send setup false patience ⟨connection, settings⟩ request service =
        (some outcome, ⟨last, settings⟩, after) := by
  obtain ⟨queued, sending, queueing⟩ := enqueue_ends stands
  obtain ⟨sent, accepted, waiting, finishing⟩ := finishSend_ends replies sending
  obtain ⟨result, received, after, idle, reading⟩ := readResponse_ends replies waiting
  refine ⟨_, received, after, idle, ?_⟩
  simp only [Service.send, Service.sendRequest, queueing, finishing, untimed, reading]
  rfl

/-- The cycles of a client with a device that has a response for each of its requests. -/
theorem cycles_stand (replies : setup.Replies requests responses)
    (untimed : settings.responseTimeout = none) (patience : Duration) {left : List Request}
    (stands : Stands setup requests
      ⟨⟨connection, settings⟩, .idle, left.map .send, outcomes, service⟩) :
    let run := history (fun (state : Client × Service) request =>
      Service.send setup false patience state.1 request state.2)
      (⟨connection, settings⟩, service) left
    ∃ gained, run.1.map (·.2) = gained.map some ∧
      Stands setup requests ⟨run.2.1, .idle, [], outcomes ++ gained, run.2.2⟩ := by
  induction left generalizing connection service outcomes with
  | nil =>
      refine ⟨[], rfl, ?_⟩
      rw [List.append_nil]
      exact stands
  | cons request left ih =>
      obtain ⟨account, lawful⟩ := stands
      have queueing : Stands setup requests
          ⟨⟨connection, settings⟩, .queueing request, left.map .send, outcomes, service⟩ := by
        rcases lawful.begin rfl with ⟨_, absurdity⟩ | ⟨next, advances⟩
        · contradiction
        · exact ⟨next, advances.lawful⟩
      obtain ⟨outcome, last, after, idle, sent⟩ := send_ends replies untimed patience queueing
      obtain ⟨gained, listed, later⟩ := ih idle
      refine ⟨outcome :: gained, ?_, ?_⟩
      · simp only [history, sent, List.map_cons]
        exact congrArg (some outcome :: ·) listed
      · simp only [history, sent]
        rw [List.append_assoc] at later
        exact later

end Dialogue

/-- Every cycle comes to the response that the device has for its request, in as many turns as there
are bytes to be moved; once the device is done, it has logged them all. -/
theorem Service.cycles_answered (setup : Setup) {settings : Settings}
    (untimed : settings.responseTimeout = none) (patience : Duration) {requests : List Request}
    {responses : List Response} (replies : setup.Replies requests responses) :
    let run := history (fun (state : Client × Service) request =>
      send setup false patience state.1 request state.2)
      (.start settings, ⟨.fresh setup.capacity.val, []⟩) requests
    run.1.map (·.2) = responses.map (fun response => some (.ok response)) ∧
      run.2.1.connection.traffic =
        ⟨requests.length, requests.length, requests.length, 0, 0⟩ ∧
      (run.2.2.settle setup false).log.reverse = Setup.transcript requests responses := by
  intro run
  have prepared : (requests.map Client.Call.send).map (·.prepare settings) = requests.map .ok := by
    rw [List.map_map]
    rfl
  obtain ⟨_, account, lawful, _⟩ := Dialogue.due_start setup untimed prepared responses
  obtain ⟨gained, listed, stands⟩ := Dialogue.cycles_stand replies untimed patience ⟨account, lawful⟩
  obtain ⟨last, settled⟩ := stands.goOn (fun _ => false) burst
  have finished := settled.finished replies (.done rfl rfl) (settle_step setup false run.2.2)
  have gained_eq : [] ++ gained = responses.map .ok := finished.outcomes_eq
  refine ⟨?_, finished.traffic_eq, finished.log_eq⟩
  calc run.1.map (·.2) = gained.map some := listed
    _ = (responses.map .ok).map some := congrArg (List.map some) gained_eq
    _ = responses.map fun response => some (.ok response) := List.map_map

end SerialLink
