import SerialLink.Proofs.Polled.Calls

namespace SerialLink.Session

open Reassembler

/-! Draining a queue and polling it.

To drain a session is to ask it for responses until none is to be had or the line fails.  Where that
is, the queue shows: at its end, or at the first failure in it.
-/

/-- Asked for responses one after the other, the session gives these answers before there is none
left, or with a failure of the line as the last of them. -/
inductive Polls : Session → List (Except LinkError Response) → Session → Prop where
  | idle {session last : Session} (polling : session.pollResponse = (.ok none, last)) :
      Polls session [] last
  | failed {session last : Session} {fault : IoError}
      (polling : session.pollResponse = (.error (.line fault), last)) :
      Polls session [.error (.line fault)] last
  | answered {session polled last : Session} {response : Response}
      {later : List (Except LinkError Response)}
      (polling : session.pollResponse = (.ok (some response), polled))
      (onward : Polls polled later last) : Polls session (.ok response :: later) last
  | malformed {session polled last : Session} {error : FrameError}
      {later : List (Except LinkError Response)}
      (polling : session.pollResponse = (.error (.protocol error), polled))
      (onward : Polls polled later last) :
      Polls session (.error (.protocol error) :: later) last

variable {session polled last : Session} {answers : List (Except LinkError Response)}
  {frame bytes : Bytes}

theorem pollResponse_of_frame (polling : session.pollFrame = (.ok (some frame), polled)) :
    session.pollResponse = ((readAs frame).map some, (polled.decode frame).2) := by
  simp only [pollResponse, polling, decode_fst]

/-- One round of draining is one poll. -/
theorem drain_eq (session : Session) :
    session.drain =
      match session.pollResponse with
      | (.ok none, last) => ([], last)
      | (.ok (some response), polled) => (.ok response :: polled.drain.1, polled.drain.2)
      | (.error (.protocol error), polled) =>
          (.error (.protocol error) :: polled.drain.1, polled.drain.2)
      | (.error error, last) => ([.error error], last) := by
  rw [drain]
  split
  · rename_i error polled polling
    -- What fails without a frame is the line, so polling would stop here too.
    obtain ⟨_, kind, rfl, _⟩ := pollFrame_failed polling
    simp only [pollResponse, polling]
  · rename_i polled polling
    simp only [pollResponse, polling]
  · rename_i frame polled polling
    rw [pollResponse_of_frame polling, decode_fst]
    rcases readAs_cases frame with ⟨response, read⟩ | ⟨error, read⟩
    · rw [read]
      rfl
    · rw [read]
      rfl

theorem Polls.drain (polls : Polls session answers last) : session.drain = (answers, last) := by
  induction polls with
  | idle polling => rw [drain_eq, polling]
  | failed polling => rw [drain_eq, polling]
  | answered polling _ ih =>
      rw [drain_eq, polling]
      simp only [ih]
  | malformed polling _ ih =>
      rw [drain_eq, polling]
      simp only [ih]

theorem drain_polls (session : Session) : Polls session session.drain.1 session.drain.2 := by
  fun_induction Session.drain session with
  | case1 session error polled polling =>
      obtain ⟨_, kind, rfl, _⟩ := pollFrame_failed polling
      exact .failed (by simp only [pollResponse, polling])
  | case2 session polled polling => exact .idle (by simp only [pollResponse, polling])
  | case3 session frame polled polling _ rest last draining ih =>
      have polled := pollResponse_of_frame polling
      rw [draining] at ih
      rw [decode_fst]
      rcases readAs_cases frame with ⟨response, read⟩ | ⟨error, read⟩
      · rw [read] at polled ⊢
        exact .answered polled ih
      · rw [read] at polled ⊢
        exact .malformed polled ih

/-- Draining has read these bytes, and behind them the failure that stood there, if there was one;
everything behind that is left. -/
structure Stopped (session : Session) (bytes : Bytes) (fault : Option IoKind)
    (answers : List (Except LinkError Response)) (last : Session) : Prop where
  pending_eq : session.queue.pending =
    bytes.map .ok ++ fault.toList.map .error ++ last.queue.pending
  answers_eq : answers = (session.reassembler.feedAll bytes).1.map readAs ++
    fault.toList.map fun kind => .error (.line (.ofKind kind))
  reassembler_eq : last.reassembler = (session.reassembler.feedAll bytes).2
  emptied : fault = none → last.queue.pending = []

variable {fault : Option IoKind} {more : Bytes}

theorem pollFrame_idle_stopped (polling : session.pollFrame = (.ok none, last)) :
    ∃ bytes, Stopped session bytes none [] last := by
  obtain ⟨bytes, pending, emptied, fed⟩ := pollFrame_idle polling
  refine ⟨bytes, ?_, ?_, ?_, fun _ => emptied⟩
  · rw [pending, emptied]
    exact ((List.append_nil _).trans (List.append_nil _)).symm
  · rw [fed]
    rfl
  · rw [fed]

theorem pollFrame_failed_stopped {error : LinkError}
    (polling : session.pollFrame = (.error error, last)) :
    ∃ bytes kind, Stopped session bytes (some kind) [.error error] last := by
  obtain ⟨bytes, kind, rfl, pending, fed⟩ := pollFrame_failed polling
  refine ⟨bytes, kind, ?_, ?_, ?_, ?_⟩
  · rw [pending, List.append_assoc]
    rfl
  · rw [fed]
    rfl
  · rw [fed]
  · intro unfailing
    cases unfailing

theorem Stopped.behind
    (pending : session.queue.pending = bytes.map .ok ++ polled.queue.pending)
    (fed : session.reassembler.feedAll bytes = ([frame], polled.reassembler))
    (stopped : Stopped polled more fault answers last) :
    Stopped session (bytes ++ more) fault (readAs frame :: answers) last := by
  refine ⟨?_, ?_, ?_, stopped.emptied⟩
  · rw [pending, stopped.pending_eq, List.map_append]
    simp only [List.append_assoc]
  · rw [stopped.answers_eq, feedAll_append, fed]
    rfl
  · rw [stopped.reassembler_eq, feedAll_append, fed]

theorem drain_stopped (session : Session) :
    ∃ bytes fault, Stopped session bytes fault session.drain.1 session.drain.2 := by
  fun_induction Session.drain session with
  | case1 session error polled polling =>
      obtain ⟨bytes, kind, stopped⟩ := pollFrame_failed_stopped polling
      exact ⟨bytes, some kind, stopped⟩
  | case2 session polled polling =>
      obtain ⟨bytes, stopped⟩ := pollFrame_idle_stopped polling
      exact ⟨bytes, none, stopped⟩
  | case3 session frame polled polling _ rest last draining ih =>
      obtain ⟨bytes, pending, fed⟩ := pollFrame_completed polling
      obtain ⟨more, fault, stopped⟩ := ih
      rw [draining] at stopped
      rw [← polled.decode_queue frame] at pending
      rw [← polled.decode_reassembler frame] at fed
      rw [decode_fst]
      exact ⟨bytes ++ more, fault, stopped.behind pending fed⟩

/-- Draining comes to what polling comes to, answer by answer, and leaves the session as polling
leaves it.  Every frame up to the first failure of the line is answered, whether it decodes or not;
behind that failure nothing is read. -/
theorem drain_is_polling (session : Session) :
    (∀ answers last, Polls session answers last ↔ session.drain = (answers, last)) ∧
      (∃ bytes fault, Stopped session bytes fault session.drain.1 session.drain.2) ∧
      ∀ frame error, readAs frame ≠ .error (.line error) := by
  refine ⟨?_, session.drain_stopped, ?_⟩
  · intro answers last
    refine ⟨Polls.drain, ?_⟩
    intro drained
    have polls := session.drain_polls
    rwa [drained] at polls
  · intro frame error
    rcases readAs_cases frame with ⟨response, read⟩ | ⟨malformation, read⟩
    · rw [read]
      nofun
    · rw [read]
      nofun

end SerialLink.Session
