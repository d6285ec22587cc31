import SerialLink.Polled.Session
import SerialLink.Proofs.Frame.Wire
import SerialLink.Proofs.History
import SerialLink.Proofs.Stream.Reassembly
import SerialLink.Proofs.Traffic

namespace SerialLink.Session

open Reassembler LinkError

/-! Everything that can be done with a polled session and its queue, in any order. -/

inductive Call where
  | send (request : Request)
  | pollFrame
  | pollResponse
  | drain
  | pushBytes (bytes : Bytes)
  | pushError (kind : IoKind)
  | failWrites (kind : IoKind)
  | takeWritten

inductive Reply where
  | sent (outcome : Except LinkError Unit)
  | frame (outcome : Except LinkError (Option Bytes))
  | response (outcome : Except LinkError (Option Response))
  | responses (outcomes : List (Except LinkError Response))
  | taken (bytes : Bytes)
  | done

def perform (session : Session) : Call → Reply × Session
  | .send request =>
      let (outcome, after) := session.send request
      (.sent outcome, after)
  | .pollFrame =>
      let (outcome, after) := session.pollFrame
      (.frame outcome, after)
  | .pollResponse =>
      let (outcome, after) := session.pollResponse
      (.response outcome, after)
  | .drain =>
      let (outcomes, after) := session.drain
      (.responses outcomes, after)
  | .pushBytes bytes => (.done, { session with queue := session.queue.pushBytes bytes })
  | .pushError kind => (.done, { session with queue := session.queue.pushError kind })
  | .failWrites kind => (.done, { session with queue := session.queue.failWrites kind })
  | .takeWritten =>
      let (bytes, queue) := session.queue.takeWritten
      (.taken bytes, { session with queue })

/-- No part of the reply is a frame that did not decode. -/
def Reply.Spared : Reply → Prop
  | .sent outcome => LinkError.Spared outcome
  | .frame outcome => LinkError.Spared outcome
  | .response outcome => LinkError.Spared outcome
  | .responses outcomes => ∀ outcome ∈ outcomes, LinkError.Spared outcome
  | .taken _ => True
  | .done => True

variable {session polled : Session} {reassembler fed : Reassembler}
  {pending rest : List (Except IoKind UInt8)}

/-- Reading along a queue feeds the bytes up to the one that completes a frame, up to a failure or up
to the end of the queue. -/
theorem pollPending_cases {outcome : Except LinkError (Option Bytes)}
    (polling : pollPending pending reassembler = (outcome, fed, rest)) :
    ∃ bytes : Bytes,
      (outcome = .ok none ∧ pending = bytes.map .ok ∧ rest = [] ∧
        reassembler.feedAll bytes = ([], fed)) ∨
      (∃ frame, outcome = .ok (some frame) ∧ pending = bytes.map .ok ++ rest ∧
        reassembler.feedAll bytes = ([frame], fed)) ∨
      ∃ kind, outcome = .error (.line (.ofKind kind)) ∧
        pending = bytes.map .ok ++ .error kind :: rest ∧
        reassembler.feedAll bytes = ([], fed) := by
  fun_induction pollPending pending reassembler with
  | case1 reassembler =>
      cases polling
      exact ⟨[], .inl ⟨rfl, rfl, rfl, rfl⟩⟩
  | case2 kind queue reassembler =>
      cases polling
      exact ⟨[], .inr (.inr ⟨kind, rfl, rfl, rfl⟩)⟩
  | case3 byte queue reassembler frame fed feeding =>
      cases polling
      refine ⟨[byte], .inr (.inl ⟨frame, rfl, rfl, ?_⟩)⟩
      simp only [feedAll, feeding, Option.toList_some, List.append_nil]
  | case4 byte queue reassembler later feeding ih =>
      have grown (bytes : Bytes) :
          reassembler.feedAll (byte :: bytes) = later.feedAll bytes := by
        simp only [feedAll, feeding, Option.toList_none, List.nil_append]
      obtain ⟨bytes, cases⟩ := ih polling
      refine ⟨byte :: bytes, ?_⟩
      rw [grown]
      rcases cases with ⟨same, rfl, last, fedAll⟩ | ⟨frame, same, rfl, fedAll⟩ |
        ⟨kind, same, rfl, fedAll⟩
      · exact .inl ⟨same, rfl, last, fedAll⟩
      · exact .inr (.inl ⟨frame, same, rfl, fedAll⟩)
      · exact .inr (.inr ⟨kind, same, rfl, fedAll⟩)

theorem pollFrame_cases {outcome : Except LinkError (Option Bytes)}
    (polling : session.pollFrame = (outcome, polled)) :
    ∃ bytes : Bytes,
      (outcome = .ok none ∧ session.queue.pending = bytes.map .ok ∧ polled.queue.pending = [] ∧
        session.reassembler.feedAll bytes = ([], polled.reassembler)) ∨
      (∃ frame, outcome = .ok (some frame) ∧
        session.queue.pending = bytes.map .ok ++ polled.queue.pending ∧
        session.reassembler.feedAll bytes = ([frame], polled.reassembler)) ∨
      ∃ kind, outcome = .error (.line (.ofKind kind)) ∧
        session.queue.pending = bytes.map .ok ++ .error kind :: polled.queue.pending ∧
        session.reassembler.feedAll bytes = ([], polled.reassembler) := by
  simp only [Session.pollFrame, Prod.mk.injEq] at polling
  obtain ⟨rfl, rfl⟩ := polling
  exact pollPending_cases rfl

theorem pollFrame_idle (polling : session.pollFrame = (.ok none, polled)) :
    ∃ bytes : Bytes, session.queue.pending = bytes.map .ok ∧ polled.queue.pending = [] ∧
      session.reassembler.feedAll bytes = ([], polled.reassembler) := by
  obtain ⟨bytes, cases⟩ := pollFrame_cases polling
  exact ⟨bytes, by simpa using cases⟩

theorem pollFrame_completed {frame : Bytes}
    (polling : session.pollFrame = (.ok (some frame), polled)) :
    ∃ bytes : Bytes, session.queue.pending = bytes.map .ok ++ polled.queue.pending ∧
      session.reassembler.feedAll bytes = ([frame], polled.reassembler) := by
  obtain ⟨bytes, cases⟩ := pollFrame_cases polling
  exact ⟨bytes, by simpa using cases⟩

theorem pollFrame_failed {error : LinkError}
    (polling : session.pollFrame = (.error error, polled)) :
    ∃ (bytes : Bytes) (kind : IoKind), error = .line (.ofKind kind) ∧
      session.queue.pending = bytes.map .ok ++ .error kind :: polled.queue.pending ∧
      session.reassembler.feedAll bytes = ([], polled.reassembler) := by
  obtain ⟨bytes, cases⟩ := pollFrame_cases polling
  exact ⟨bytes, by simpa using cases⟩

/-- What a frame is read as. -/
def readAs (frame : Bytes) : Except LinkError Response :=
  (Response.decodeInPlace frame).mapError .protocol

theorem readAs_cases (frame : Bytes) :
    (∃ response, readAs frame = .ok response) ∨ ∃ error, readAs frame = .error (.protocol error) := by
  unfold readAs
  cases Response.decodeInPlace frame with
  | ok response => exact .inl ⟨response, rfl⟩
  | error error => exact .inr ⟨error, rfl⟩

theorem decode_fst (session : Session) (frame : Bytes) :
    (session.decode frame).1 = readAs frame := by
  unfold decode readAs
  split <;> rename_i decoded <;> rw [decoded] <;> rfl

theorem decode_reassembler (session : Session) (frame : Bytes) :
    (session.decode frame).2.reassembler = session.reassembler := by
  unfold decode
  split <;> rfl

structure Sound (session : Session) : Prop where
  reassembler : session.reassembler.Consistent .response
  traffic : session.traffic.Clean

theorem sound_start (queue : ByteQueue) : (start queue).Sound :=
  ⟨consistent_empty _, Traffic.clean_zero⟩

theorem Sound.pollFrame (sound : session.Sound) :
    session.pollFrame.2.Sound ∧ Spared session.pollFrame.1 ∧
      ∀ frame, session.pollFrame.1 = .ok (some frame) → Layout.response.IsFrame frame := by
  rcases polling : pollPending session.queue.pending session.reassembler with ⟨outcome, fed, rest⟩
  simp only [Session.pollFrame, polling]
  obtain ⟨bytes, cases⟩ := pollPending_cases polling
  rcases cases with ⟨rfl, _, _, fedAll⟩ | ⟨frame, rfl, _, fedAll⟩ | ⟨kind, rfl, _, fedAll⟩
  all_goals
    obtain ⟨consistent, whole⟩ := sound.reassembler.of_feedAll fedAll
    refine ⟨⟨consistent, sound.traffic⟩, ?_, ?_⟩
  · exact spared_ok none
  · simp
  · exact spared_ok (some frame)
  · intro other same
    cases same
    exact whole frame (by simp)
  · exact spared_line (.ofKind kind)
  · simp

theorem Sound.decode {frame : Bytes} (sound : session.Sound)
    (whole : Layout.response.IsFrame frame) :
    (session.decode frame).2.Sound ∧ Spared (session.decode frame).1 := by
  obtain ⟨response, decoded⟩ := Response.decodeInPlace_of_isFrame whole
  simp only [Session.decode, decoded]
  exact ⟨⟨sound.reassembler, sound.traffic.recordValid⟩, spared_ok response⟩

theorem Sound.pollResponse (sound : session.Sound) :
    session.pollResponse.2.Sound ∧ Spared session.pollResponse.1 := by
  obtain ⟨polledSound, spared, whole⟩ := sound.pollFrame
  unfold Session.pollResponse
  split
  · rename_i error polled polling
    rw [polling] at polledSound spared
    exact ⟨polledSound, spared.relay⟩
  · rename_i polled polling
    rw [polling] at polledSound
    exact ⟨polledSound, spared_ok none⟩
  · rename_i frame polled polling
    rw [polling] at polledSound whole
    obtain ⟨decodedSound, decodedSpared⟩ := polledSound.decode (whole frame rfl)
    exact ⟨decodedSound, decodedSpared.map some⟩

theorem Sound.drain (sound : session.Sound) :
    session.drain.2.Sound ∧ ∀ outcome ∈ session.drain.1, Spared outcome := by
  fun_induction Session.drain session with
  | case1 session error polled polling =>
      obtain ⟨polledSound, spared, _⟩ := sound.pollFrame
      rw [polling] at polledSound spared
      refine ⟨polledSound, ?_⟩
      intro outcome member
      rw [List.mem_singleton.mp member]
      exact spared.relay
  | case2 session polled polling =>
      obtain ⟨polledSound, _⟩ := sound.pollFrame
      rw [polling] at polledSound
      exact ⟨polledSound, by simp⟩
  | case3 session frame polled polling _ rest last draining ih =>
      obtain ⟨polledSound, _, whole⟩ := sound.pollFrame
      rw [polling] at polledSound whole
      obtain ⟨decodedSound, decodedSpared⟩ := polledSound.decode (whole frame rfl)
      obtain ⟨lastSound, restSpared⟩ := ih decodedSound
      rw [draining] at lastSound restSpared
      exact ⟨lastSound, List.forall_mem_cons.mpr ⟨decodedSpared, restSpared⟩⟩

theorem Sound.send (sound : session.Sound) (request : Request) :
    (session.send request).2.Sound ∧ Spared (session.send request).1 := by
  unfold Session.send
  split
  · exact ⟨sound, spared_line _⟩
  · exact ⟨⟨sound.reassembler, sound.traffic.recordSent⟩, spared_ok ()⟩

theorem Sound.perform (sound : session.Sound) (call : Call) :
    (session.perform call).1.Spared ∧ (session.perform call).2.Sound := by
  cases call with
  | send request => exact (sound.send request).symm
  | pollFrame => exact ⟨sound.pollFrame.2.1, sound.pollFrame.1⟩
  | pollResponse => exact sound.pollResponse.symm
  | drain => exact sound.drain.symm
  | pushBytes bytes => exact ⟨trivial, sound.reassembler, sound.traffic⟩
  | pushError kind => exact ⟨trivial, sound.reassembler, sound.traffic⟩
  | failWrites kind => exact ⟨trivial, sound.reassembler, sound.traffic⟩
  | takeWritten => exact ⟨trivial, sound.reassembler, sound.traffic⟩

theorem history_sound (queue : ByteQueue) (calls : List Call) :
    (∀ entry ∈ (history perform (start queue) calls).1, entry.2.Spared) ∧
      (history perform (start queue) calls).2.Sound :=
  history_keeps Sound (fun _ => Reply.Spared) (fun _ call sound => sound.perform call)
    (sound_start queue) calls

end SerialLink.Session
