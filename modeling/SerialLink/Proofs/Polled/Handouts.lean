import Mathlib.Algebra.Ring.Nat
import SerialLink.Proofs.Polled.Calls

namespace SerialLink

open Reassembler

/-! What polled reads hand out, held against the queue that they share.

Whichever call takes an item from the queue, the item has its own place in the account: a byte may
complete a frame, a failure comes out as it is and leaves the frame under way alone.
-/

def bytesOf (items : List (Except IoKind UInt8)) : Bytes := items.filterMap Except.toOption

def failuresOf (items : List (Except IoKind UInt8)) : List IoKind :=
  items.filterMap fun item =>
    match item with
    | .ok _ => none
    | .error kind => some kind

theorem bytesOf_append (front back : List (Except IoKind UInt8)) :
    bytesOf (front ++ back) = bytesOf front ++ bytesOf back := List.filterMap_append

theorem bytesOf_bytes (bytes : Bytes) : bytesOf (bytes.map .ok) = bytes := by
  simp [bytesOf, List.filterMap_map, Function.comp_def, Except.toOption]

def failureOf? : Except LinkError Bytes → Option LinkError
  | .ok _ => none
  | .error error => some error

/-- The account of a queue: every item of it in its turn. -/
def Reassembler.account : Reassembler → List (Except IoKind UInt8) → List (Except LinkError Bytes)
  | _, [] => []
  | reassembler, .error kind :: rest =>
      .error (.line (.ofKind kind)) :: reassembler.account rest
  | reassembler, .ok byte :: rest =>
      let (frame, fed) := reassembler.feed byte
      frame.toList.map .ok ++ fed.account rest

namespace Reassembler

theorem account_append (reassembler : Reassembler) (front back : List (Except IoKind UInt8)) :
    reassembler.account (front ++ back) =
      reassembler.account front ++ (reassembler.feedAll (bytesOf front)).2.account back := by
  induction front generalizing reassembler with
  | nil => rfl
  | cons item rest ih =>
      cases item with
      | error kind => exact congrArg (_ :: ·) (ih reassembler)
      | ok byte =>
          simp only [List.cons_append, account, ih, List.append_assoc]
          rfl

theorem account_bytes (reassembler : Reassembler) (bytes : Bytes) :
    reassembler.account (bytes.map .ok) = (reassembler.feedAll bytes).1.map .ok := by
  induction bytes generalizing reassembler with
  | nil => rfl
  | cons byte rest ih => simp only [List.map_cons, account, feedAll, ih, List.map_append]

theorem frames_account (reassembler : Reassembler) (items : List (Except IoKind UInt8)) :
    (reassembler.account items).filterMap Except.toOption =
      (reassembler.feedAll (bytesOf items)).1 := by
  induction items generalizing reassembler with
  | nil => rfl
  | cons item rest ih =>
      cases item with
      | error kind => exact ih reassembler
      | ok byte =>
          have whole (frames : List Bytes) :
              (frames.map fun frame => (.ok frame : Except LinkError Bytes)).filterMap
                Except.toOption = frames := by
            simp [List.filterMap_map, Function.comp_def, Except.toOption]
          simp only [account, List.filterMap_append, whole, ih]
          rfl

theorem failures_account (reassembler : Reassembler) (items : List (Except IoKind UInt8)) :
    (reassembler.account items).filterMap failureOf? =
      (failuresOf items).map (.line ∘ .ofKind) := by
  induction items generalizing reassembler with
  | nil => rfl
  | cons item rest ih =>
      cases item with
      | error kind => exact congrArg (_ :: ·) (ih reassembler)
      | ok byte =>
          have none_failed (frames : List Bytes) :
              (frames.map fun frame => (.ok frame : Except LinkError Bytes)).filterMap
                failureOf? = [] := by
            simp [List.filterMap_map, Function.comp_def, failureOf?]
          simp only [account, List.filterMap_append, none_failed, ih]
          rfl

end Reassembler

namespace Session

/-- What a read hands out, as frames: a response stands for the frame that it was read from. -/
def handedOver : Except LinkError (Option Bytes) → List (Except LinkError Bytes)
  | .error error => [.error error]
  | .ok none => []
  | .ok (some frame) => [.ok frame]

def Reply.handouts : Reply → List (Except LinkError Bytes)
  | .frame outcome => handedOver outcome
  | .response outcome => handedOver (outcome.map (·.map Response.encode))
  | .responses outcomes => outcomes.map (·.map Response.encode)
  | .sent _ | .taken _ | .done => []

/-- A read that came to the end of the queue. -/
def Reply.IsIdle : Reply → Prop
  | .frame outcome => outcome = .ok none
  | .response outcome => outcome = .ok none
  | .responses outcomes => ∀ error, .error error ∉ outcomes
  | .sent _ | .taken _ | .done => False

def Call.pushed : Call → List (Except IoKind UInt8)
  | .pushBytes bytes => bytes.map .ok
  | .pushError kind => [.error kind]
  | .send _ | .pollFrame | .pollResponse | .drain | .failWrites _ | .takeWritten => []

/-- Takes items from the front of a queue and hands out what they come to. -/
def Takes (pending : List (Except IoKind UInt8)) (reassembler : Reassembler)
    (handed : List (Except LinkError Bytes)) (after : Session) : Prop :=
  ∃ taken, pending = taken ++ after.queue.pending ∧ handed = reassembler.account taken ∧
    after.reassembler = (reassembler.feedAll (bytesOf taken)).2

variable {session polled middle after : Session} {pending : List (Except IoKind UInt8)}
  {reassembler : Reassembler} {handed later : List (Except LinkError Bytes)}

theorem Takes.trans (first : Takes pending reassembler handed middle)
    (second : Takes middle.queue.pending middle.reassembler later after) :
    Takes pending reassembler (handed ++ later) after := by
  obtain ⟨taken, rfl, rfl, fed⟩ := first
  obtain ⟨others, left, rfl, fedMore⟩ := second
  refine ⟨taken ++ others, ?_, ?_, ?_⟩
  · rw [left, List.append_assoc]
  · rw [account_append, fed]
  · rw [bytesOf_append, feedAll_append, fedMore, fed]

theorem Takes.push (takes : Takes pending reassembler handed after)
    (more : List (Except IoKind UInt8)) :
    Takes (pending ++ more) reassembler handed
      { after with queue := { after.queue with pending := after.queue.pending ++ more } } := by
  obtain ⟨taken, rfl, account, fed⟩ := takes
  exact ⟨taken, List.append_assoc _ _ _, account, fed⟩

theorem Takes.nothing (session : Session) :
    Takes session.queue.pending session.reassembler [] session := ⟨[], rfl, rfl, rfl⟩

theorem pollFrame_takes (session : Session) :
    Takes session.queue.pending session.reassembler (handedOver session.pollFrame.1)
        session.pollFrame.2 ∧
      (session.pollFrame.1 = .ok none → session.pollFrame.2.queue.pending = []) := by
  rcases polling : pollPending session.queue.pending session.reassembler with ⟨outcome, fed, rest⟩
  simp only [pollFrame, polling]
  obtain ⟨bytes, cases⟩ := pollPending_cases polling
  rcases cases with ⟨rfl, pending, rfl, fedAll⟩ | ⟨frame, rfl, pending, fedAll⟩ |
    ⟨kind, rfl, pending, fedAll⟩
  · refine ⟨⟨bytes.map .ok, ?_, ?_, ?_⟩, fun _ => rfl⟩
    · rw [pending, List.append_nil]
    · rw [account_bytes, fedAll]
      rfl
    · rw [bytesOf_bytes, fedAll]
  · refine ⟨⟨bytes.map .ok, pending, ?_, ?_⟩, by simp⟩
    · rw [account_bytes, fedAll]
      rfl
    · rw [bytesOf_bytes, fedAll]
  · refine ⟨⟨bytes.map .ok ++ [.error kind], ?_, ?_, ?_⟩, by simp⟩
    · rw [pending, List.append_assoc]
      rfl
    · rw [account_append, account_bytes, fedAll]
      rfl
    · rw [bytesOf_append, bytesOf_bytes, show bytesOf [.error kind] = [] from rfl,
        List.append_nil, fedAll]

theorem pollResponse_takes (sound : session.Sound) :
    Takes session.queue.pending session.reassembler
        (handedOver (session.pollResponse.1.map (·.map Response.encode)))
        session.pollResponse.2 ∧
      (session.pollResponse.1 = .ok none → session.pollResponse.2.queue.pending = []) := by
  obtain ⟨_, _, whole⟩ := sound.pollFrame
  obtain ⟨takes, idle⟩ := session.pollFrame_takes
  unfold Session.pollResponse
  split
  · rename_i error polled polling
    rw [polling] at takes
    exact ⟨takes, by simp⟩
  · rename_i polled polling
    rw [polling] at takes idle
    exact ⟨takes, fun _ => idle rfl⟩
  · rename_i frame polled polling
    rw [polling] at takes whole
    obtain ⟨response, decoded⟩ := Response.decodeInPlace_of_isFrame (whole frame rfl)
    simp only [decode, decoded]
    rw [← Response.encode_of_decodeInPlace decoded] at takes
    exact ⟨takes, by simp [Except.map]⟩

theorem drain_takes (sound : session.Sound) :
    Takes session.queue.pending session.reassembler
        (session.drain.1.map (·.map Response.encode)) session.drain.2 ∧
      ((∀ error, .error error ∉ session.drain.1) → session.drain.2.queue.pending = []) := by
  fun_induction Session.drain session with
  | case1 session error polled polling =>
      obtain ⟨takes, _⟩ := session.pollFrame_takes
      rw [polling] at takes
      exact ⟨takes, by simp⟩
  | case2 session polled polling =>
      obtain ⟨takes, idle⟩ := session.pollFrame_takes
      rw [polling] at takes idle
      exact ⟨takes, fun _ => idle rfl⟩
  | case3 session frame polled polling _ rest last draining ih =>
      obtain ⟨polledSound, _, whole⟩ := sound.pollFrame
      obtain ⟨takes, _⟩ := session.pollFrame_takes
      rw [polling] at polledSound takes whole
      obtain ⟨response, decoded⟩ := Response.decodeInPlace_of_isFrame (whole frame rfl)
      have counted := polledSound.decode (whole frame rfl)
      obtain ⟨takesRest, idle⟩ := ih counted.1
      rw [draining] at takesRest idle
      simp only [decode, decoded] at takesRest idle ⊢
      rw [← Response.encode_of_decodeInPlace decoded] at takes
      exact ⟨takes.trans takesRest, fun unfailing => idle fun error => by simpa using unfailing error⟩

theorem send_takes (session : Session) (request : Request) :
    Takes session.queue.pending session.reassembler [] (session.send request).2 := by
  unfold Session.send ByteQueue.write
  cases session.queue.writeFault with
  | some kind => exact .nothing session
  | none => exact ⟨[], rfl, rfl, rfl⟩

theorem perform_takes (sound : session.Sound) (call : Call) :
    Takes (session.queue.pending ++ call.pushed) session.reassembler
        (session.perform call).1.handouts (session.perform call).2 ∧
      ((session.perform call).1.IsIdle → (session.perform call).2.queue.pending = []) := by
  have pushed := (Takes.nothing session).push call.pushed
  cases call with
  | send request =>
      rw [Call.pushed, List.append_nil]
      exact ⟨session.send_takes request, False.elim⟩
  | pollFrame =>
      rw [Call.pushed, List.append_nil]
      exact session.pollFrame_takes
  | pollResponse =>
      rw [Call.pushed, List.append_nil]
      exact pollResponse_takes sound
  | drain =>
      rw [Call.pushed, List.append_nil]
      exact drain_takes sound
  | pushBytes bytes => exact ⟨pushed, False.elim⟩
  | pushError kind => exact ⟨pushed, False.elim⟩
  | failWrites kind => exact ⟨⟨[], List.append_nil _, rfl, rfl⟩, False.elim⟩
  | takeWritten => exact ⟨⟨[], List.append_nil _, rfl, rfl⟩, False.elim⟩

/-- How far calls have come along all that was ever queued. -/
structure Handing (queue : ByteQueue) (entries : List (Call × Reply)) (session : Session) : Prop where
  sound : session.Sound
  takes : Takes (queue.pending ++ entries.flatMap (·.1.pushed)) (empty .response)
    (entries.flatMap (·.2.handouts)) session
  idle : ∀ entry, entries.getLast? = some entry → entry.2.IsIdle → session.queue.pending = []

theorem Handing.step {queue : ByteQueue} {entries : List (Call × Reply)}
    (handing : Handing queue entries session) (call : Call) :
    Handing queue (entries ++ [(call, (session.perform call).1)]) (session.perform call).2 := by
  obtain ⟨takes, idle⟩ := perform_takes handing.sound call
  refine ⟨(handing.sound.perform call).2, ?_, ?_⟩
  · rw [List.flatMap_append, List.flatMap_append, ← List.append_assoc]
    have further := (handing.takes.push call.pushed).trans takes
    simpa using further
  · simpa using idle

theorem handing_history (queue : ByteQueue) (calls : List Call) :
    let run := history perform (start queue) calls
    Handing queue run.1 run.2 := by
  refine history_run (motive := Handing queue) (fun _ _ call handing => handing.step call) ?_ calls
  exact ⟨sound_start queue, ⟨[], List.append_nil _, rfl, rfl⟩, by simp⟩

/-- Frames and failures come out in the order of the queue, each of them once, whichever calls take
them out; a read ends with nothing more to hand out only at the end of the queue. -/
theorem history_handouts (queue : ByteQueue) (calls : List Call) :
    let run := history perform (start queue) calls
    let session := run.2
    let handed := run.1.flatMap (·.2.handouts)
    let frames := handed.filterMap Except.toOption
    let queued := queue.pending ++ calls.flatMap Call.pushed
    ∃ taken, queued = taken ++ session.queue.pending ∧
      handed = (empty .response).account taken ∧
      (empty .response).feedAll (bytesOf taken) = (frames, session.reassembler) ∧
      handed.filterMap failureOf? = (failuresOf taken).map (.line ∘ .ofKind) ∧
      (bytesOf queued).length = (frames.map List.length).sum + session.reassembler.buffer.size +
        (bytesOf session.queue.pending).length ∧
      ∀ entry, run.1.getLast? = some entry → entry.2.IsIdle → session.queue.pending = [] := by
  intro run session handed frames queued
  obtain ⟨_, ⟨taken, split, account, fed⟩, idle⟩ := handing_history queue calls
  have called : run.1.flatMap (·.1.pushed) = calls.flatMap Call.pushed := by
    rw [← history_calls perform (start queue) calls, List.flatMap_map]
  rw [called] at split
  have emitted : frames = ((empty .response).feedAll (bytesOf taken)).1 := by
    rw [← frames_account, ← account]
  have fedAll : (empty .response).feedAll (bytesOf taken) = (frames, session.reassembler) :=
    Prod.ext emitted.symm fed.symm
  refine ⟨taken, split, account, fedAll, ?_, ?_, idle⟩
  · rw [← failures_account, ← account]
  · obtain ⟨_, cut⟩ := feedAll_consistent (consistent_empty .response) (bytesOf taken)
    have whole : frames.flatten ++ session.reassembler.buffer.toList = bytesOf taken := by
      rw [fedAll] at cut
      exact cut.flatten
    rw [show queued = taken ++ session.queue.pending from split, bytesOf_append,
      List.length_append, ← whole, List.length_append, List.length_flatten, Array.length_toList]

/-- A failure between two bytes of a frame comes out before the frame, which is whole all the same. -/
example :
    let run := history perform (start ⟨[], [], none⟩)
      [.pushBytes [5, 2, 0, 0xaa], .pushError .timedOut, .pushBytes [0xbb, 1], .pollFrame,
        .pollResponse, .pollFrame]
    run.1.flatMap (·.2.handouts) =
        [.error (.line (.ofKind .timedOut)), .ok [5, 2, 0, 0xaa, 0xbb]] ∧
      run.2.reassembler.buffer = #[1] := ⟨rfl, rfl⟩

end Session

end SerialLink
