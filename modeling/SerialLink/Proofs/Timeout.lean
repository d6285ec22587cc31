import SerialLink.Proofs.Line.Deadlines
import SerialLink.Proofs.Patience

namespace SerialLink

/-! A cycle with a response timeout, held against the same cycle without one.

The two differ in the wait for the response only, and there in nothing but the patience of one call
of the receiver.
-/

namespace Connection

variable {line : Line} {last : Nat}

theorem readResponse_timed (connection : Connection) (timely : line.now ≤ last) :
    let patient := connection.readResponse line none
    let timed := connection.readResponse line (some last)
    let pauses := connection.receiver.pauses line
    InTime patient.outcome patient.line.now last pauses ∧ timed = patient ∨
      ¬ InTime patient.outcome patient.line.now last pauses ∧
        let received := connection.receiver.next line (some last)
        timed = ⟨none, { connection with receiver := received.owner }, received.line⟩ ∧
          Receiver.GaveUp connection.receiver line last pauses received := by
  obtain ⟨sameSome, sameLine⟩ := connection.readResponse_next line none
  simp only [InTime, sameSome, sameLine]
  rcases connection.receiver.next_timed timely with ⟨inTime, same⟩ | ⟨late, gaveUp⟩
  · refine .inl ⟨inTime, ?_⟩
    simp only [readResponse, readFrame, same]
  · exact .inr ⟨late, readResponse_silent gaveUp.silent, gaveUp⟩

theorem readResponse_rested (connection : Connection) (line : Line) :
    let read := connection.readResponse line none
    let rested := connection.readResponse { line with clock := line.clock.rested } none
    rested.outcome = read.outcome ∧ rested.owner = read.owner ∧ rested.line.Alike read.line := by
  obtain ⟨sameOutcome, sameOwner, alike⟩ := connection.receiver.next_rested line
  obtain ⟨_, line_eq⟩ := connection.readResponse_next line none
  obtain ⟨_, rested_eq⟩ :=
    connection.readResponse_next { line with clock := line.clock.rested } none
  simp only [line_eq, rested_eq]
  refine ⟨?_, ?_, alike⟩
  · simp only [readResponse, readFrame, sameOutcome, sameOwner]
    split <;> rfl
  · simp only [readResponse, readFrame, sameOutcome, sameOwner]
    split <;> rfl

end Connection

namespace Client

/-- The same client, with or without patience. -/
def withTimeout (client : Client) (timeout : Option Duration) : Client :=
  { client with settings := { client.settings with responseTimeout := timeout } }

/-- A cycle that ran out of time, held against its connection and its line at the instant from which
the time counted. -/
structure TimedOut (waiting : Connection) (line : Line) (expiry : Nat) (pauses : List Nat)
    (cycle : Attempt (Except ClientError Response) Client) : Prop where
  outcome_eq : cycle.outcome = some (.error .responseTimeout)
  now_eq : cycle.line.now = expiry
  connection_eq : cycle.owner.connection =
    { waiting with
      receiver := cycle.owner.connection.receiver
      traffic := waiting.traffic.recordTimeout }
  line_eq : cycle.line = { line with clock := cycle.line.clock, reads := cycle.line.reads }
  blocked : Line.Blocked line.readsHang cycle.line.reads expiry pauses
  drained : cycle.owner.connection.receiver.buffer = []
  buffered : ∃ brought,
    Line.delivered line.reads = brought ++ Line.delivered cycle.line.reads ∧
      cycle.owner.connection.receiver.reassembler.buffer.toList =
        waiting.receiver.reassembler.buffer.toList ++ waiting.receiver.buffer ++ brought

theorem awaitTimed_cases (client : Client) (timeout : Duration) (line : Line) :
    let patient := client.awaitUntimed line none
    let timed := client.awaitTimed timeout line none
    let expiry := line.now + timeout.milliseconds
    let pauses := client.connection.receiver.pauses { line with clock := line.clock.rested }
    InTime patient.outcome patient.line.now expiry pauses ∧
        timed.outcome = patient.outcome ∧ timed.owner = patient.owner ∧
        timed.line.Alike patient.line ∨
      ¬ InTime patient.outcome patient.line.now expiry pauses ∧
        TimedOut client.connection line expiry pauses timed := by
  intro patient timed expiry pauses
  let ready := { line with clock := line.clock.rested }
  have timely : ready.now ≤ expiry := by
    change line.clock.rested.now ≤ line.clock.now + timeout.milliseconds
    rw [Clock.rested_now]
    omega
  obtain ⟨sameOutcome, sameOwner, alike⟩ := client.connection.readResponse_rested line
  have sameTiming : InTime patient.outcome patient.line.now expiry pauses ↔
      InTime (client.connection.readResponse ready none).outcome
        (client.connection.readResponse ready none).line.now expiry pauses := by
    simp only [InTime, patient, awaitUntimed, Option.isSome_map, ready, sameOutcome, alike.now_eq]
  rw [sameTiming]
  rcases client.connection.readResponse_timed timely with ⟨inTime, same⟩ | ⟨late, silent, gaveUp⟩
  · obtain ⟨result, found⟩ := Option.isSome_iff_exists.mp inTime.1
    have concluded : timed = ⟨some (conclude result),
        client.withConnection (client.connection.readResponse ready none).owner,
        (client.connection.readResponse ready none).line⟩ := by
      simp only [timed, awaitTimed, Deadline.orSooner]
      rw [same, found]
    refine .inl ⟨inTime, ?_, ?_, ?_⟩
    · rw [concluded]
      simp only [patient, awaitUntimed, ← sameOutcome, ready, found, Option.map_some]
    · rw [concluded]
      simp only [patient, awaitUntimed, ← sameOwner, ready]
    · rw [concluded]
      exact alike
  · let received := client.connection.receiver.next ready (some expiry)
    have expired : timed = ⟨some (.error .responseTimeout),
        (client.withConnection { client.connection with receiver := received.owner }).expire,
        received.line⟩ := by
      simp only [timed, awaitTimed, Deadline.orSooner]
      rw [silent]
      rfl
    obtain ⟨clock, reads, readLine⟩ := client.connection.receiver.next_line ready (some expiry)
    rw [expired]
    refine .inr ⟨late, rfl, gaveUp.now_eq, rfl, ?_, gaveUp.blocked, gaveUp.drained,
      gaveUp.buffered⟩
    simp only [received, readLine, ready]

theorem send_of_sent (client : Client) {request : Request} {line : Line} {deadline : Deadline}
    (sent : (client.connection.sendRequest request line deadline).outcome = some (.ok ())) :
    client.send request line deadline =
      (client.withConnection (client.connection.sendRequest request line deadline).owner).await
        (client.connection.sendRequest request line deadline).line deadline := by
  simp only [send, sent]

theorem await_patient {client : Client} (patient : client.settings.responseTimeout = none)
    (line : Line) (deadline : Deadline) :
    client.await line deadline = client.awaitUntimed line deadline := by
  simp only [await, patient]

/-- With no deadline for the cycle as a whole, a pause cannot be its end. -/
theorem await_timed {client : Client} {timeout : Duration}
    (timed : client.settings.responseTimeout = some timeout) (line : Line) :
    client.await line none = client.awaitTimed timeout line none := by
  simp [await, timed, Clock.isSpent, Deadline.isReached]

/-- The time counts from the instant at which the line has taken the request.  A cycle that would be
done by then without it, and needs no pause at its very end, does not notice it. -/
theorem send_timeout (client : Client) (timeout : Duration) (request : Request) (line : Line) :
    let patient := (client.withTimeout none).send request line none
    let timed := (client.withTimeout (some timeout)).send request line none
    let sent := client.connection.sendRequest request line none
    let expiry := sent.line.now + timeout.milliseconds
    let ready := { sent.line with clock := sent.line.clock.rested }
    let pauses := sent.owner.receiver.pauses ready
    (sent.outcome ≠ some (.ok ()) →
      timed.outcome = patient.outcome ∧ timed.owner.connection = patient.owner.connection ∧
        timed.line = patient.line) ∧
    (sent.outcome = some (.ok ()) →
      (InTime patient.outcome patient.line.now expiry pauses →
        timed.outcome = patient.outcome ∧ timed.owner.connection = patient.owner.connection ∧
          timed.line.Alike patient.line) ∧
      (¬ InTime patient.outcome patient.line.now expiry pauses →
        TimedOut sent.owner sent.line expiry pauses timed)) ∧
    (ready.reads.countP ReadAction.isWait ≤ min ready.clock.credit burst → pauses = []) := by
  intro patient timed sent expiry ready pauses
  refine ⟨?_, ?_, Receiver.pauses_eq_nil⟩
  · intro unsent
    simp only [timed, patient, send, withTimeout]
    split
    · exact ⟨rfl, rfl, rfl⟩
    · exact ⟨rfl, rfl, rfl⟩
    · contradiction
  · intro done
    let waiting := (client.withTimeout (some timeout)).withConnection sent.owner
    have timedRead : timed = waiting.awaitTimed timeout sent.line none :=
      (send_of_sent (client.withTimeout (some timeout)) done).trans (await_timed rfl sent.line)
    have patientRead : patient =
        ((client.withTimeout none).withConnection sent.owner).awaitUntimed sent.line none :=
      (send_of_sent (client.withTimeout none) done).trans (await_patient rfl sent.line none)
    rw [timedRead, patientRead]
    rcases waiting.awaitTimed_cases timeout sent.line with
      ⟨inTime, sameOutcome, sameOwner, alike⟩ | ⟨late, timedOut⟩
    · exact ⟨fun _ => ⟨sameOutcome, (congrArg connection sameOwner).trans rfl, alike⟩,
        fun notInTime => absurd inTime notInTime⟩
    · exact ⟨fun inTime => absurd inTime late, fun _ => timedOut⟩

/-- The last byte of the response comes after fifty milliseconds.  That is in time for a response
timeout of fifty, and not for one of forty-nine. -/
theorem send_timeout_inside_frame :
    let client := start .standard
    let request : Request := ⟨1, 1, 0, ⟨[], by decide⟩⟩
    let line := Line.ofScript [.data [0, 1, 0], .wait 50 none, .data [0xaa]] true []
    let patient := (client.withTimeout none).send request line none
    let sent := client.connection.sendRequest request line none
    patient.outcome = some (.ok ⟨0, 0, ⟨[0xaa], by decide⟩⟩) ∧
      ((client.withTimeout (some ⟨50⟩)).send request line none).outcome = patient.outcome ∧
      TimedOut sent.owner sent.line 49 []
        ((client.withTimeout (some ⟨49⟩)).send request line none) := by
  intro client request line patient sent
  have done : sent.outcome = some (.ok ()) := rfl
  have inTime : InTime patient.outcome patient.line.now 50 [] := by simp [InTime]; decide
  have late : ¬ InTime patient.outcome patient.line.now 49 [] := by simp [InTime]; decide
  exact ⟨rfl, (((client.send_timeout ⟨50⟩ request line).2.1 done).1 inTime).1,
    ((client.send_timeout ⟨49⟩ request line).2.1 done).2 late⟩

/-- A hundred and twenty-nine waits of no time, and a response behind them.  Without a response
timeout the cycle is done at the instant at which the request was sent.  But a pause has to be made
before it is, and a response timeout of no time ends there. -/
theorem send_pauses_at_expiry :
    let client := start .standard
    let request : Request := ⟨1, 1, 0, ⟨[], by decide⟩⟩
    let line := Line.ofScript (List.replicate 129 (.wait 0 none) ++ [.data [0, 0, 0]]) true []
    let patient := (client.withTimeout none).send request line none
    let timed := (client.withTimeout (some ⟨0⟩)).send request line none
    let sent := client.connection.sendRequest request line none
    sent.outcome = some (.ok ()) ∧ patient.outcome = some (.ok ⟨0, 0, ⟨[], by decide⟩⟩) ∧
      patient.line.now ≤ sent.line.now + 0 ∧ timed.outcome = some (.error .responseTimeout) ∧
      timed.outcome ≠ patient.outcome := by
  decide +kernel

end Client

end SerialLink
