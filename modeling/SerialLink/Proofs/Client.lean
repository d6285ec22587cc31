import SerialLink.Client
import SerialLink.Proofs.Connection

namespace SerialLink.Client

/-! Cycles of a client, one after the other and over any line. -/

variable {client waited : Client} {line : Line}

/-- What every cycle of a client with a sound connection comes to. -/
structure Keeps (client : Client) (attempt : Attempt (Except ClientError Response) Client) :
    Prop where
  sound : attempt.owner.connection.Sound
  settings_eq : attempt.owner.settings = client.settings
  spared : ∀ outcome, attempt.outcome = some outcome → ClientError.Spared outcome

theorem Keeps.of_none (sound : waited.connection.Sound)
    (settings : waited.settings = client.settings) : Keeps client ⟨none, waited, line⟩ :=
  ⟨sound, settings, nofun⟩

theorem Keeps.of_some {outcome : Except ClientError Response} (sound : waited.connection.Sound)
    (settings : waited.settings = client.settings) (spared : ClientError.Spared outcome) :
    Keeps client ⟨some outcome, waited, line⟩ := by
  refine ⟨sound, settings, ?_⟩
  intro other same
  cases same
  exact spared

theorem conclude_spared {outcome : Except LinkError (Option Response)}
    (spared : LinkError.Spared outcome) : ClientError.Spared (conclude outcome) := by
  cases outcome with
  | error reason => exact ClientError.spared_ofLink spared
  | ok response =>
      cases response with
      | none => exact ClientError.spared_closed
      | some response => exact ClientError.spared_ok response

theorem expire_sound (sound : client.connection.Sound) : client.expire.connection.Sound :=
  ⟨sound.reassembler, sound.settled, sound.traffic.recordTimeout⟩

theorem awaitUntimed_keeps (sound : client.connection.Sound) (line : Line) (deadline : Deadline) :
    Keeps client (client.awaitUntimed line deadline) := by
  have read := sound.readResponse line deadline
  refine ⟨read.sound, rfl, ?_⟩
  intro outcome concluded
  obtain ⟨result, received, rfl⟩ := Option.map_eq_some_iff.mp concluded
  exact conclude_spared (read.spared result received)

theorem awaitTimed_keeps (sound : client.connection.Sound) (timeout : Duration) (line : Line)
    (deadline : Deadline) : Keeps client (client.awaitTimed timeout line deadline) := by
  have read := sound.readResponse { line with clock := line.clock.rested }
    (some (deadline.orSooner (line.now + timeout.milliseconds)))
  simp only [awaitTimed]
  split
  · rename_i result received
    exact .of_some read.sound rfl (conclude_spared (read.spared result received))
  · split
    · exact .of_some (expire_sound read.sound) rfl ClientError.spared_responseTimeout
    · exact .of_none read.sound rfl

theorem await_keeps (sound : client.connection.Sound) (line : Line) (deadline : Deadline) :
    Keeps client (client.await line deadline) := by
  unfold await
  split
  · exact awaitUntimed_keeps sound line deadline
  · split
    · exact awaitUntimed_keeps sound line deadline
    · exact awaitTimed_keeps sound _ line deadline

theorem send_keeps (sound : client.connection.Sound) (request : Request) (line : Line)
    (deadline : Deadline) : Keeps client (client.send request line deadline) := by
  obtain ⟨sentSound, sentSpared⟩ := sound.sendRequest request line deadline
  simp only [send]
  split
  · exact .of_none sentSound rfl
  · rename_i reason sent
    exact .of_some sentSound rfl (ClientError.spared_ofLink (sentSpared _ sent))
  · have waiting : (client.withConnection
        (client.connection.sendRequest request line deadline).owner).connection.Sound := sentSound
    obtain ⟨last, settings, spared⟩ := await_keeps waiting
      (client.connection.sendRequest request line deadline).line deadline
    exact ⟨last, settings, spared⟩

inductive Call where
  | send (request : Request)
  | request (operation : UInt8) (payload : Bytes)
  | requestTo (target operation : UInt8) (payload : Bytes)

def Call.prepare (settings : Settings) : Call → Except FrameError Request
  | .send wanted => .ok wanted
  | .request operation payload => Request.make settings.target operation payload
  | .requestTo target operation payload => Request.make target operation payload

def Call.payload : Call → Bytes
  | .send wanted => wanted.payload.bytes
  | .request _ bytes => bytes
  | .requestTo _ _ bytes => bytes

theorem Call.prepare_ok (settings : Settings) {call : Call}
    (fits : call.payload.length ≤ maxPayload) : ∃ wanted, call.prepare settings = .ok wanted := by
  have built (target operation : UInt8) {bytes : Bytes} (short : bytes.length ≤ maxPayload) :
      Request.make target operation bytes = .ok ⟨target, operation, 0, ⟨bytes, short⟩⟩ := by
    simp only [Request.make, Payload.ofBytes, short, ↓reduceDIte, Except.map]
  cases call with
  | send wanted => exact ⟨wanted, rfl⟩
  | request operation bytes => exact ⟨_, built settings.target operation fits⟩
  | requestTo target operation bytes => exact ⟨_, built target operation fits⟩

/-- A cycle on a line, with a deadline for the cycle as a whole. -/
def perform (state : Client × Line) (call : Call × Deadline) :
    Option (Except ClientError Response) × (Client × Line) :=
  let (client, line) := state
  let attempt :=
    match call.1 with
    | .send wanted => client.send wanted line call.2
    | .request operation payload => client.request operation payload line call.2
    | .requestTo target operation payload =>
        client.requestTo target operation payload line call.2
  (attempt.outcome, attempt.owner, attempt.line)

/-- A cycle reports a protocol error only when its request cannot be built, and then nothing else
happens. -/
theorem perform_eq (client : Client) (line : Line) (call : Call) (deadline : Deadline) :
    perform (client, line) (call, deadline) =
      match call.prepare client.settings with
      | .error error => (some (.error (.protocol error)), client, line)
      | .ok wanted =>
          let attempt := client.send wanted line deadline
          (attempt.outcome, attempt.owner, attempt.line) := by
  cases call with
  | send request => rfl
  | request operation payload =>
      simp only [perform, request, requestTo, Call.prepare]
      cases Request.make client.settings.target operation payload <;> rfl
  | requestTo target operation payload =>
      simp only [perform, requestTo, Call.prepare]
      cases Request.make target operation payload <;> rfl

/-- A call ends in no protocol error but the one that its request cannot be built. -/
def Call.Allows (settings : Settings) (call : Call) (outcome : Except ClientError Response) :
    Prop :=
  ClientError.Spared outcome ∨
    ∃ error, call.prepare settings = .error error ∧ outcome = .error (.protocol error)

theorem perform_keeps {state : Client × Line} (sound : state.1.connection.Sound)
    (call : Call × Deadline) :
    (∀ outcome, (perform state call).1 = some outcome →
        call.1.Allows state.1.settings outcome) ∧
      (perform state call).2.1.connection.Sound ∧
      (perform state call).2.1.settings = state.1.settings := by
  obtain ⟨client, line⟩ := state
  obtain ⟨call, deadline⟩ := call
  rw [perform_eq]
  cases prepared : call.prepare client.settings with
  | error error =>
      refine ⟨?_, sound, rfl⟩
      intro outcome same
      cases same
      exact .inr ⟨error, prepared, rfl⟩
  | ok request =>
      obtain ⟨last, settings, spared⟩ := send_keeps sound request line deadline
      exact ⟨fun outcome same => .inl (spared outcome same), last, settings⟩

theorem history_sound (settings : Settings) (line : Line) (calls : List (Call × Deadline)) :
    let run := history perform (start settings, line) calls
    (∀ entry ∈ run.1, ∀ outcome, entry.2 = some outcome → entry.1.1.Allows settings outcome) ∧
      run.2.1.connection.Sound ∧ run.2.1.settings = settings := by
  have step (state : Client × Line) (call : Call × Deadline)
      (kept : state.1.connection.Sound ∧ state.1.settings = settings) :
      (∀ outcome, (perform state call).1 = some outcome → call.1.Allows settings outcome) ∧
        (perform state call).2.1.connection.Sound ∧
        (perform state call).2.1.settings = settings := by
    obtain ⟨sound, rfl⟩ := kept
    exact perform_keeps sound call
  exact history_keeps _ (fun (call : Call × Deadline) reply => ∀ outcome, reply = some outcome →
    call.1.Allows settings outcome) step ⟨Connection.sound_start, rfl⟩ calls

end SerialLink.Client
