import SerialLink.Proofs.Sending

namespace SerialLink

/-! The counters of a client, held against what its cycles have come to. -/

/-- The outcome of a cycle, and the attempt to send that it made. -/
abbrev Cycle := Option (Except ClientError Response) × Option Dispatch

namespace Cycle

@[simp]
def isSent (cycle : Cycle) : Bool := cycle.2.any Dispatch.sent

@[simp]
def isAnswered (cycle : Cycle) : Bool :=
  match cycle.1 with
  | some (.ok _) => true
  | _ => false

@[simp]
def isExpired (cycle : Cycle) : Bool :=
  match cycle.1 with
  | some (.error .responseTimeout) => true
  | _ => false

/-- The request was sent, and then the line failed or ended. -/
@[simp]
def isBroken (cycle : Cycle) : Bool :=
  match cycle.1 with
  | some (.error (.line _)) | some (.error .closed) => cycle.isSent
  | _ => false

/-- The request was sent, and the wait for the response cut off from outside. -/
@[simp]
def isAbandoned (cycle : Cycle) : Bool := cycle.1.isNone && cycle.isSent

end Cycle

namespace Client

/-- How a wait for a response ends, and what is counted then. -/
inductive Ends (before : Traffic) : Option (Except ClientError Response) → Traffic → Prop where
  | answered (response : Response) : Ends before (some (.ok response)) before.recordValid
  | expired : Ends before (some (.error .responseTimeout)) before.recordTimeout
  | failed (fault : IoError) : Ends before (some (.error (.line fault))) before
  | closed : Ends before (some (.error .closed)) before
  | abandoned : Ends before none before

inductive Passes (before : Traffic) : Cycle → Traffic → Prop where
  | refused (error : FrameError) : Passes before (some (.error (.protocol error)), none) before
  | unsent (dispatch : Dispatch) (unsent : dispatch.sent = false)
      (outcome : Option LinkError) :
      Passes before (outcome.map (.error ∘ .ofLink), some dispatch) before
  | sent (dispatch : Dispatch) (sent : dispatch.sent = true)
      {outcome : Option (Except ClientError Response)} {after : Traffic}
      (ends : Ends before.recordSent outcome after) : Passes before (outcome, some dispatch) after

variable {client : Client} {before after : Traffic}

theorem Ends.eq_of_none (ends : Ends before none after) : after = before := by
  cases ends
  rfl

theorem readResponse_ends {connection : Connection} (sound : connection.Sound) (line : Line)
    (deadline : Deadline) :
    let read := connection.readResponse line deadline
    Ends connection.traffic (read.outcome.map conclude) read.owner.traffic := by
  obtain ⟨⟨readSound, spared⟩, whole⟩ := sound.readFrame line deadline
  simp only [Connection.readResponse]
  split
  · exact .abandoned
  · rename_i error read
    cases error with
    | protocol error => exact absurd rfl (spared _ read error)
    | line fault => exact .failed fault
    | closed => exact .closed
  · exact .closed
  · rename_i frame read
    obtain ⟨response, decoded⟩ := Response.decodeInPlace_of_isFrame (whole frame read)
    simp only [Connection.decode, decoded]
    exact .answered response

theorem awaitUntimed_ends (sound : client.connection.Sound) (line : Line) (deadline : Deadline) :
    let awaited := client.awaitUntimed line deadline
    Ends client.connection.traffic awaited.outcome awaited.owner.connection.traffic :=
  readResponse_ends sound line deadline

theorem awaitTimed_ends (sound : client.connection.Sound) (timeout : Duration) (line : Line)
    (deadline : Deadline) :
    let awaited := client.awaitTimed timeout line deadline
    Ends client.connection.traffic awaited.outcome awaited.owner.connection.traffic := by
  have ends := readResponse_ends sound { line with clock := line.clock.rested }
    (some (deadline.orSooner (line.now + timeout.milliseconds)))
  rcases reading : client.connection.readResponse { line with clock := line.clock.rested }
    (some (deadline.orSooner (line.now + timeout.milliseconds))) with ⟨outcome, owner, later⟩
  simp only [reading] at ends
  simp only [awaitTimed, reading]
  cases outcome with
  | some result => exact ends
  | none =>
      have uncounted : owner.traffic = client.connection.traffic := ends.eq_of_none
      simp only [withConnection, expire, Connection.recordTimeout]
      split
      · simp only [uncounted]
        exact .expired
      · simp only [uncounted]
        exact .abandoned

theorem await_ends (sound : client.connection.Sound) (line : Line) (deadline : Deadline) :
    let awaited := client.await line deadline
    Ends client.connection.traffic awaited.outcome awaited.owner.connection.traffic := by
  simp only [await]
  split
  · exact awaitUntimed_ends sound line deadline
  · split
    · exact awaitUntimed_ends sound line deadline
    · exact awaitTimed_ends sound _ line deadline

/-- Of a cycle in which nothing was sent, nothing is counted. -/
theorem Passes.of_unsent {dispatch : Dispatch} (unsent : dispatch.sent = false)
    (same : after = if dispatch.sent then before.recordSent else before)
    (outcome : Option LinkError) :
    Passes before (outcome.map (.error ∘ .ofLink), some dispatch) after := by
  rw [same, if_neg (ne_true_of_eq_false unsent)]
  exact .unsent dispatch unsent outcome

theorem send_passes (sound : client.connection.Sound) (request : Request) (line : Line)
    (deadline : Deadline) :
    let cycle := client.send request line deadline
    Passes client.connection.traffic
      (cycle.outcome, some (client.connection.dispatch request line deadline))
      cycle.owner.connection.traffic := by
  have sentSound := (sound.sendRequest request line deadline).sound
  have counted := client.connection.sendRequest_traffic request line deadline
  let dispatch := client.connection.dispatch request line deadline
  simp only [send]
  split
  · rename_i cut
    have unsent : dispatch.sent = false := by
      simp [dispatch, Connection.dispatch, Dispatch.sent, cut]
    exact .of_unsent unsent counted none
  · rename_i error failed
    have unsent : dispatch.sent = false := by
      simp [dispatch, Connection.dispatch, Dispatch.sent, failed]
    exact .of_unsent unsent counted (some error)
  · rename_i done
    have sent : dispatch.sent = true := Dispatch.sent_iff.mpr done
    have waiting : (client.withConnection
        (client.connection.sendRequest request line deadline).owner).connection.Sound := sentSound
    have ends := await_ends waiting
      (client.connection.sendRequest request line deadline).line deadline
    rw [withConnection, counted, if_pos sent] at ends
    exact .sent dispatch sent ends

/-- What the counters say once cycles have been made. -/
structure Accounted (cycles : List Cycle) (traffic : Traffic) : Prop where
  sent_eq : traffic.sent = cycles.countP Cycle.isSent
  valid_eq : traffic.valid = cycles.countP Cycle.isAnswered
  timedOut_eq : traffic.timedOut = cycles.countP Cycle.isExpired
  balance : traffic.sent = traffic.valid + traffic.timedOut + cycles.countP Cycle.isBroken +
    cycles.countP Cycle.isAbandoned

/-- A request that was sent has one of four ends. -/
structure Counts (before : Traffic) (cycle : Cycle) (after : Traffic) : Prop where
  sent : after.sent = before.sent + cycle.isSent.toNat
  valid : after.valid = before.valid + cycle.isAnswered.toNat
  timedOut : after.timedOut = before.timedOut + cycle.isExpired.toNat
  split : cycle.isSent.toNat = cycle.isAnswered.toNat + cycle.isExpired.toNat +
    cycle.isBroken.toNat + cycle.isAbandoned.toNat

theorem Ends.counts {outcome : Option (Except ClientError Response)} {dispatch : Dispatch}
    (ends : Ends before.recordSent outcome after) (sent : dispatch.sent = true) :
    Counts before (outcome, some dispatch) after := by
  have isSent : Cycle.isSent (outcome, some dispatch) = true := sent
  cases ends <;> exact ⟨by rw [isSent]; rfl, rfl, rfl, by simp [sent]⟩

theorem Passes.counts {cycle : Cycle} (passes : Passes before cycle after) :
    Counts before cycle after := by
  cases passes with
  | refused error => exact ⟨rfl, rfl, rfl, rfl⟩
  | unsent dispatch unsent outcome =>
      have isSent : Cycle.isSent (outcome.map (.error ∘ .ofLink), some dispatch) = false := unsent
      cases outcome with
      | none => exact ⟨by rw [isSent]; rfl, rfl, rfl, by simp [unsent]⟩
      | some error =>
          cases error <;>
            exact ⟨by rw [isSent]; rfl, rfl, rfl, by simp [unsent, ClientError.ofLink]⟩
  | sent dispatch sent ends => exact ends.counts sent

theorem Accounted.step {cycles : List Cycle} {cycle : Cycle}
    (accounted : Accounted cycles before) (passes : Passes before cycle after) :
    Accounted (cycles ++ [cycle]) after := by
  obtain ⟨sent, valid, timedOut, balance⟩ := accounted
  obtain ⟨sentMore, validMore, timedOutMore, split⟩ := passes.counts
  have counted (holds : Cycle → Bool) :
      (cycles ++ [cycle]).countP holds = cycles.countP holds + (holds cycle).toNat := by
    rw [List.countP_append, List.countP_singleton]
    cases holds cycle <;> rfl
  constructor
  · rw [counted]
    omega
  · rw [counted]
    omega
  · rw [counted]
    omega
  · rw [counted, counted]
    omega

theorem dispatching_passes {state : Client × Line} (sound : state.1.connection.Sound)
    (call : Call × Deadline) :
    Passes state.1.connection.traffic (dispatching state call).1
      (dispatching state call).2.1.connection.traffic := by
  obtain ⟨client, line⟩ := state
  obtain ⟨call, deadline⟩ := call
  simp only [dispatching, perform_eq, Call.dispatch?]
  cases call.prepare client.settings with
  | error error => exact .refused error
  | ok request => exact send_passes sound request line deadline

theorem accounted_history (settings : Settings) (line : Line) (calls : List (Call × Deadline)) :
    let run := history dispatching (start settings, line) calls
    Accounted (run.1.map (·.2)) run.2.1.connection.traffic ∧ run.2.1.connection.Sound := by
  refine history_run (motive := fun (entries : List ((Call × Deadline) × Cycle))
      (state : Client × Line) =>
    Accounted (entries.map (·.2)) state.1.connection.traffic ∧ state.1.connection.Sound) ?_ ?_ calls
  rotate_left
  · exact ⟨⟨rfl, rfl, rfl, rfl⟩, Connection.sound_start⟩
  rintro entries state call ⟨accounted, sound⟩
  refine ⟨?_, (perform_keeps sound call).2.1⟩
  rw [List.map_append]
  exact accounted.step (dispatching_passes sound call)

theorem dispatching_oversized (state : Client × Line) (deadline : Deadline)
    (target operation : UInt8) {payload : Bytes} (oversized : maxPayload < payload.length) :
    let refusal : Option (Except ClientError Response) :=
      some (.error (.protocol (.payloadTooLarge payload.length maxPayload)))
    dispatching state (.request operation payload, deadline) = ((refusal, none), state) ∧
      dispatching state (.requestTo target operation payload, deadline) =
        ((refusal, none), state) := by
  have refused (target : UInt8) : Request.make target operation payload =
      .error (.payloadTooLarge payload.length maxPayload) := by
    simp [Request.make, Payload.ofBytes, Nat.not_le_of_lt oversized, Except.map]
  obtain ⟨client, line⟩ := state
  simp only [dispatching, perform_eq, Call.dispatch?, Call.prepare, refused, and_self]

/-- Every request that was sent is accounted for.  Only a cycle that is cut off from outside ends in
none of the three ways, and a request that cannot be built is no cycle at all. -/
theorem history_accounts (settings : Settings) (line : Line) (calls : List (Call × Deadline)) :
    let run := history dispatching (start settings, line) calls
    let cycles := run.1.map (·.2)
    let traffic := run.2.1.connection.traffic
    traffic.sent = cycles.countP Cycle.isSent ∧
      traffic.valid = cycles.countP Cycle.isAnswered ∧
      traffic.total = cycles.countP Cycle.isAnswered ∧
      traffic.timedOut = cycles.countP Cycle.isExpired ∧
      traffic.sent = traffic.valid + traffic.timedOut + cycles.countP Cycle.isBroken +
        cycles.countP Cycle.isAbandoned ∧
      ((∀ cycle ∈ cycles, cycle.1.isSome) →
        traffic.sent = traffic.valid + traffic.timedOut + cycles.countP Cycle.isBroken) ∧
      ∀ state deadline target operation payload, maxPayload < payload.length →
        let refusal : Option (Except ClientError Response) :=
          some (.error (.protocol (.payloadTooLarge payload.length maxPayload)))
        dispatching state (.request operation payload, deadline) = ((refusal, none), state) ∧
          dispatching state (.requestTo target operation payload, deadline) =
            ((refusal, none), state) := by
  intro run cycles traffic
  obtain ⟨accounted, sound⟩ := accounted_history settings line calls
  refine ⟨accounted.sent_eq, accounted.valid_eq, ?_, accounted.timedOut_eq, accounted.balance, ?_,
    fun state deadline target operation _ => dispatching_oversized state deadline target operation⟩
  · exact sound.traffic.total_eq.trans accounted.valid_eq
  · intro answered
    have none_abandoned : cycles.countP Cycle.isAbandoned = 0 := by
      apply List.countP_eq_zero.mpr
      intro cycle member
      simp [Option.isNone_eq_false_iff.mpr (answered cycle member)]
    have balance := accounted.balance
    rw [none_abandoned] at balance
    exact balance

/-- A response, a timeout, a failure and an end: four requests are sent, and each has its own end.
A fifth is too long and changes nothing. -/
theorem history_accounts_four_ends :
    let settings := { Settings.standard with responseTimeout := some ⟨20⟩ }
    let line := Line.ofScript
      [.data [0, 0, 0, 5], .wait 30 none, .fail .timedOut] false [.accept 3, .wait 5 none]
    let calls := [(Call.request 1 [0xaa], none), (.requestTo 2 1 [], none), (.request 2 [], none),
      (.request 2 [], none)]
    let run := history dispatching (start settings, line) calls
    let cycles := run.1.map (·.2)
    run.2.1.connection.traffic = ⟨4, 1, 1, 0, 1⟩ ∧
      run.2.1.connection.traffic.sent = run.2.1.connection.traffic.valid +
        run.2.1.connection.traffic.timedOut + cycles.countP Cycle.isBroken ∧
      (dispatching (start settings, line) (.request 1 (List.replicate 256 0), none)).2 =
        (start settings, line) := by
  have oversized : maxPayload < (List.replicate 256 (0 : UInt8)).length := by
    rw [List.length_replicate]
    decide
  refine ⟨by decide +kernel, (history_accounts _ _ _).2.2.2.2.2.1 (by decide +kernel), ?_⟩
  have refuses := (history_accounts .standard (.ofScript [] true []) []).2.2.2.2.2.2
  rw [(refuses _ none 0 1 _ oversized).1]

end Client

end SerialLink
