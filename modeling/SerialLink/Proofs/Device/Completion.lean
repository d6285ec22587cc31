import SerialLink.Proofs.Device.Answering

namespace SerialLink

/-! When nobody can do anything any more, everything has been done. -/

namespace Dialogue

variable {setup : Setup} {requests : List Request} {responses : List Response} {account : Account}
  {dialogue : Dialogue}

/-- Every call has come to the response that the device has for it, and both are logged. -/
structure Finished (setup : Setup) (requests : List Request) (responses : List Response)
    (dialogue : Dialogue) : Prop where
  calls_eq : dialogue.calls = []
  outcomes_eq : dialogue.outcomes = responses.map .ok
  traffic_eq : dialogue.client.connection.traffic =
    ⟨requests.length, requests.length, requests.length, 0, 0⟩
  waits : dialogue.service.step setup false = none
  log_eq : dialogue.service.log.reverse = Setup.transcript requests responses

namespace Lawful

/-- Once the client has as many responses as the device has taken requests, nothing is on its way to
the client. -/
theorem quiet (replies : setup.Replies requests responses)
    (lawful : Lawful setup requests account dialogue)
    (caughtUp : account.handled.length ≤ account.answered.length) :
    account.answered = responses.take account.handled.length ∧
      dialogue.service.link.toHost = [] ∧ dialogue.service.link.unwritten = [] := by
  have answered : account.answered = responses.take account.handled.length := by
    apply (lawful.answered_prefix replies).eq_of_length_le
    exact Nat.le_trans (List.length_take_le _ _) caughtUp
  have emitted := lawful.emitted_unwritten replies
  rw [← answered, lawful.emitted_eq, List.append_assoc] at emitted
  have nothing := Reassembler.nothing_behind lawful.hears emitted
  rw [List.append_eq_nil_iff, List.append_eq_nil_iff] at nothing
  exact ⟨answered, nothing.1.2, nothing.2⟩

theorem room_pos (lawful : Lawful setup requests account dialogue)
    (nothing : dialogue.service.link.toHost = []) : 0 < dialogue.service.link.room := by
  rw [Link.room, nothing]
  exact lawful.roomy

/-- A request that is not yet written out has not been taken. -/
theorem handled_lt (lawful : Lawful setup requests account dialogue)
    (more : dialogue.client.connection.sender.pending ≠ []) :
    account.handled.length < account.accepted.length := by
  apply Nat.lt_of_le_of_ne lawful.handled_length_le
  intro absurdity
  have all : account.handled = account.accepted.map Request.encode :=
    lawful.handled_prefix.eq_of_length (by rw [absurdity, List.length_map])
  obtain ⟨fed, split, feeding⟩ := lawful.served.takes
  have written := lawful.written
  rw [split, List.append_assoc, ← all] at written
  exact more (List.append_eq_nil_iff.mp (Reassembler.nothing_behind feeding written)).2

theorem handled_all (lawful : Lawful setup requests account dialogue)
    (drained : dialogue.client.connection.sender.pending = [])
    (feeding : (Reassembler.empty .request).feedAll account.input =
      (account.handled, dialogue.service.link.receiver.reassembler)) :
    account.handled = account.accepted.map Request.encode := by
  have written := lawful.written
  rw [drained, List.append_nil] at written
  rw [written, Reassembler.feedAll_flatten (Request.encode_whole _)] at feeding
  exact (congrArg Prod.fst feeding).symm

theorem not_full (replies : setup.Replies requests responses)
    (lawful : Lawful setup requests account dialogue)
    (idle : dialogue.service.step setup false = none) (sending : dialogue.stage = .sending)
    (more : dialogue.client.connection.sender.pending ≠ []) :
    0 < dialogue.service.link.hostRoom := by
  have accepted := lawful.underWay
  simp only [sending, Stage.underWay] at accepted
  have behind := lawful.handled_lt more
  -- A device that waits in front of a full pipe waits for room, but all that it has answered so far
  -- the client has heard.
  obtain ⟨_, nothing, written⟩ := lawful.quiet replies (by omega)
  have stuck : dialogue.service.link.step setup false = none := Option.map_eq_none_iff.mp idle
  rcases Link.waits_cases lawful.served.hostOpen lawful.served.deviceOpen stuck with
    ⟨unwritten, _⟩ | ⟨_, taken, _⟩
  · exact absurd written unwritten
  · rw [Link.hostRoom, taken]
    exact lawful.roomy

theorem not_silent (replies : setup.Replies requests responses)
    (lawful : Lawful setup requests account dialogue)
    (idle : dialogue.service.step setup false = none) (waiting : dialogue.stage = .waiting)
    (used : dialogue.client.connection.receiver.buffer = []) :
    dialogue.service.link.toHost ≠ [] := by
  intro nothing
  have accepted := lawful.underWay
  simp only [waiting, Stage.underWay] at accepted
  obtain ⟨feeding, emitted, _⟩ := lawful.served.of_waits idle (lawful.room_pos nothing)
  have handled := lawful.handled_all (lawful.drained (by simp [waiting])) feeding
  have heard := lawful.emitted_eq
  rw [used, nothing, List.append_nil, List.append_nil] at heard
  have hears := lawful.hears
  rw [← heard, emitted, lawful.handled_eq, (replies.take _).answers,
    Reassembler.feedAll_flatten (Response.encode_whole _)] at hears
  -- The client has heard an answer to each request that it has sent, but waits for one more.
  have lengths := congrArg (fun fed => fed.1.length) hears
  have total := congrArg List.length handled
  have within := lawful.handled_length_le
  have sizes := replies.length_eq
  have parts := congrArg List.length lawful.requests_eq
  simp only [List.length_map, List.length_take, List.length_append] at lengths total parts
  omega

theorem finished (replies : setup.Replies requests responses)
    (lawful : Lawful setup requests account dialogue) (waits : dialogue.HostWaits)
    (idle : dialogue.service.step setup false = none) :
    Finished setup requests responses dialogue := by
  cases waits with
  | full sending more no_room =>
      exact absurd no_room (Nat.ne_of_gt (lawful.not_full replies idle sending more))
  | silent waiting used nothing =>
      exact absurd nothing (lawful.not_silent replies idle waiting used)
  | done rest last =>
      have accepted := lawful.underWay
      have parts := lawful.requests_eq
      have traffic := lawful.traffic_eq
      have none_left := lawful.calls_eq
      rw [last] at none_left
      have later : account.later = [] := List.map_eq_nil_iff.mp none_left.symm
      simp only [rest, later, Stage.queued, Stage.underWay, Stage.sent, List.append_nil,
        Nat.add_zero] at accepted parts traffic
      have caughtUp : account.handled.length ≤ account.answered.length := by
        rw [← accepted]
        exact lawful.handled_length_le
      obtain ⟨answered, nothing, _⟩ := lawful.quiet replies caughtUp
      obtain ⟨feeding, _, logged⟩ := lawful.served.of_waits idle (lawful.room_pos nothing)
      have handled := lawful.handled_all (lawful.drained (by simp [rest])) feeding
      rw [← parts] at handled accepted
      have all : account.answered = responses := by
        rw [answered, handled, List.length_map, replies.length_eq, List.take_length]
      refine ⟨last, ?_, ?_, idle, ?_⟩
      · rw [lawful.outcomes_eq, all]
      · rw [traffic, ← accepted]
      · rw [logged, handled, replies.exchanges]

theorem log_prefix (replies : setup.Replies requests responses)
    (lawful : Lawful setup requests account dialogue) :
    dialogue.service.log.reverse <+: Setup.transcript requests responses := by
  have logged := lawful.log_unlogged replies
  exact List.IsPrefix.trans ⟨_, logged⟩ (Setup.transcript_take_prefix _ _ _)

theorem outcomes_prefix (replies : setup.Replies requests responses)
    (lawful : Lawful setup requests account dialogue) :
    dialogue.outcomes <+: responses.map .ok := by
  rw [lawful.outcomes_eq]
  exact ((lawful.answered_prefix replies).trans (List.take_prefix _ _)).map _

end Lawful

variable {settings : Settings} {calls : List Client.Call} {schedule : Nat → Turn}

theorem due_start (setup : Setup) (untimed : settings.responseTimeout = none)
    (prepared : calls.map (·.prepare settings) = requests.map .ok)
    (responses : List Response) :
    ∃ effort, Due setup requests responses effort (start setup settings calls) := by
  refine ⟨limit requests responses, ⟨[], [], [], [], [], [], requests⟩, ⟨untimed, ?_, ?_, rfl, ?_,
    rfl, rfl, fun _ => rfl, rfl, rfl, rfl, rfl, rfl⟩, rfl⟩
  · exact Served.fresh setup setup.capacity.val
  · exact setup.capacity.property
  · exact prepared

theorem finishes (untimed : settings.responseTimeout = none)
    (prepared : calls.map (·.prepare settings) = requests.map .ok)
    (replies : setup.Replies requests responses) (fair : Fair schedule) :
    ∃ finish, ∀ now, finish ≤ now → Finished setup requests responses
      (afterTurns (turn setup) schedule (start setup settings calls) now) := by
  let dialogue := afterTurns (turn setup) schedule (start setup settings calls)
  obtain ⟨effort, due⟩ := due_start setup untimed prepared responses
  have initially : Due setup requests responses effort (dialogue 0) := due
  obtain ⟨rest, least, ⟨account, lawful, enough⟩, still⟩ :=
    comes_to_rest (due_spends replies) initially
  have spent {next : Account} {now : Nat} (behind : rest ≤ now)
      (advances : Advances setup requests account (dialogue rest) next
        (turn setup (dialogue rest) (schedule now))) : False := by
    obtain ⟨less, below, more⟩ := advances.spends replies enough
    exact (still now behind).2 less below more
  have waits : (dialogue rest).HostWaits := by
    obtain ⟨later, limit, behind, some_byte, due⟩ := fair.host rest
    rcases lawful.hostTurn replies limit with ⟨_, waits⟩ | ⟨next, advances⟩
    · exact waits some_byte
    · exact absurd (by rwa [due]) (spent behind)
  have idle : (dialogue rest).service.step setup false = none := by
    obtain ⟨later, behind, due⟩ := fair.device rest
    rcases lawful.deviceTurn with ⟨_, idle⟩ | ⟨next, advances⟩
    · exact idle
    · exact absurd (by rwa [due]) (spent behind)
  refine ⟨rest, ?_⟩
  intro now behind
  rw [(still now behind).1]
  exact lawful.finished replies waits idle

end Dialogue

/-! Calls that fit, to a device that has a response for each of them. -/

theorem Setup.exists_replies {setup : Setup} {settings : Settings} {calls : List Client.Call}
    (fits : ∀ call ∈ calls, call.payload.length ≤ maxPayload)
    (replies : ∀ call ∈ calls, ∀ request, call.prepare settings = .ok request →
      (setup.reply? request).isSome) :
    ∃ requests responses, calls.map (·.prepare settings) = requests.map .ok ∧
      setup.Replies requests responses := by
  induction calls with
  | nil => exact ⟨[], [], rfl, rfl⟩
  | cons call calls ih =>
      obtain ⟨fitsFirst, fitsRest⟩ := List.forall_mem_cons.mp fits
      obtain ⟨repliesFirst, repliesRest⟩ := List.forall_mem_cons.mp replies
      obtain ⟨requests, responses, prepared, answered⟩ := ih fitsRest repliesRest
      obtain ⟨request, built⟩ := Client.Call.prepare_ok settings fitsFirst
      obtain ⟨response, reply⟩ := Option.isSome_iff_exists.mp (repliesFirst request built)
      refine ⟨request :: requests, response :: responses, ?_, ?_⟩
      · rw [List.map_cons, List.map_cons, built, prepared]
      · rw [Replies, List.map_cons, List.map_cons, reply, answered]

/-- Whoever has the next turn, every call of a client that waits as long as it takes comes to the
response that the device has for it, and the device logs each request in front of its response. -/
theorem calls_answered (setup : Setup) (settings : Settings)
    (untimed : settings.responseTimeout = none) (calls : List Client.Call)
    (schedule : Nat → Turn) (fits : ∀ call ∈ calls, call.payload.length ≤ maxPayload)
    (replies : ∀ call ∈ calls, ∀ request, call.prepare settings = .ok request →
      (setup.reply? request).isSome) :
    let dialogue := afterTurns (Dialogue.turn setup) schedule (.start setup settings calls)
    ∃ requests responses, calls.map (·.prepare settings) = requests.map .ok ∧
      requests.map setup.reply? = responses.map some ∧
      (∀ request ∈ requests, setup.answerTo request.operation = .echo →
        setup.reply? request = some ⟨0, 0, request.payload⟩) ∧
      (∀ now, (dialogue now).outcomes <+: responses.map .ok ∧
        (dialogue now).service.log.reverse <+: Setup.transcript requests responses) ∧
      (Fair schedule → ∃ finish, ∀ now, finish ≤ now →
        (dialogue now).Finished setup requests responses) := by
  intro dialogue
  obtain ⟨requests, responses, prepared, answered⟩ := Setup.exists_replies fits replies
  refine ⟨requests, responses, prepared, answered, ?_, ?_,
    Dialogue.finishes untimed prepared answered⟩
  · intro request member echoes
    apply Setup.reply?_echo _ echoes
    have answering : setup.reply? request ∈ responses.map some :=
      answered ▸ List.mem_map_of_mem member
    obtain ⟨response, _, reply⟩ := List.mem_map.mp answering
    exact Setup.addresses_of_reply? reply.symm
  · intro now
    obtain ⟨effort, due⟩ := Dialogue.due_start setup untimed prepared responses
    obtain ⟨_, account, lawful, _⟩ := (Dialogue.due_spends answered).keeps due now
    exact ⟨lawful.outcomes_prefix answered, lawful.log_prefix answered⟩

/-- Links that hold a byte, pieces of two bytes, and an answer that is computed twice over. -/
theorem calls_answered_by_bytes :
    let setup : Setup :=
      ⟨[(1, .echo), (2, .computed fun _ => .computed fun _ => .status .unknownOperation)], .silent,
        some 1, some ⟨2, by decide⟩, ⟨1, by decide⟩⟩
    let calls : List Client.Call := [.requestTo 1 1 [7, 8], .request 2 []]
    let dialogue := afterTurns (Dialogue.turn setup) alternating (.start setup .standard calls)
    Settings.standard.responseTimeout = none ∧
      (∀ call ∈ calls, call.payload.length ≤ maxPayload) ∧
      (∀ call ∈ calls, ∀ request, call.prepare .standard = .ok request →
        (setup.reply? request).isSome) ∧
      Fair alternating ∧ ∃ finish, ∀ now, finish ≤ now →
        (dialogue now).outcomes =
            [.ok ⟨0, 0, ⟨[7, 8], by decide⟩⟩,
              .ok ⟨Status.unknownOperation.code, 0, ⟨[], by decide⟩⟩] ∧
          (dialogue now).client.connection.traffic = ⟨2, 2, 2, 0, 0⟩ := by
  intro setup calls dialogue
  have fits : ∀ call ∈ calls, call.payload.length ≤ maxPayload := by decide
  have replies : ∀ call ∈ calls, ∀ request, call.prepare .standard = .ok request →
      (setup.reply? request).isSome := by
    intro call member request prepared
    simp only [calls, List.mem_cons, List.not_mem_nil, or_false] at member
    rcases member with rfl | rfl
    · cases prepared
      rfl
    · cases prepared
      rfl
  refine ⟨rfl, fits, replies, fair_alternating, ?_⟩
  obtain ⟨requests, responses, prepared, answered, _, _, finishing⟩ :=
    calls_answered setup .standard rfl calls alternating fits replies
  obtain rfl : [⟨1, 1, 0, ⟨[7, 8], by decide⟩⟩, ⟨1, 2, 0, ⟨[], by decide⟩⟩] = requests :=
    (List.map_inj_right fun _ _ => Except.ok.inj).mp prepared
  obtain rfl : [⟨0, 0, ⟨[7, 8], by decide⟩⟩, ⟨Status.unknownOperation.code, 0, ⟨[], by decide⟩⟩] =
      responses :=
    (List.map_inj_right fun _ _ => Option.some.inj).mp answered
  obtain ⟨finish, finished⟩ := finishing fair_alternating
  exact ⟨finish, fun now behind =>
    ⟨(finished now behind).outcomes_eq, (finished now behind).traffic_eq⟩⟩

/-- The responses that have come are counted twice: as frames and as valid frames. -/
theorem total_counts_responses :
    let setup := Setup.standard.withAnswer 1 .echo
    let dialogue := afterTurns (Dialogue.turn setup) alternating
      (.start setup .standard [.requestTo 1 1 [170]])
    Fair alternating ∧ (dialogue 40).outcomes = [.ok ⟨0, 0, ⟨[170], by decide⟩⟩] ∧
      (dialogue 40).service.step setup false = none ∧
      (dialogue 40).client.connection.traffic.sent = 1 ∧
      (dialogue 40).client.connection.traffic.valid = 1 ∧
      (dialogue 40).client.connection.traffic.total ≠ 0 := by
  refine ⟨fair_alternating, ?_, ?_, ?_, ?_, ?_⟩
  · rfl
  · rfl
  · rfl
  · rfl
  · decide

end SerialLink
