import SerialLink.Fault.Link
import SerialLink.Frame.Request
import SerialLink.Frame.Response
import SerialLink.Polled.ByteQueue
import SerialLink.Stream.Reassembler
import SerialLink.Traffic

namespace SerialLink

/-! Requests and responses over a line that is polled byte by byte.

Every read takes bytes from the queue only until one frame is complete or a failure comes up.  A
failure stands at its place in the queue and does not disturb a frame under way.
-/

structure Session where
  queue : ByteQueue
  reassembler : Reassembler
  traffic : Traffic

namespace Session

def start (queue : ByteQueue) : Session := ⟨queue, .empty .response, .zero⟩

/-- Writes a request at once.  A failed write changes nothing. -/
def send (session : Session) (request : Request) : Except LinkError Unit × Session :=
  match session.queue.write request.encode with
  | .error error => (.error (.line error), session)
  | .ok queue => (.ok (), { session with queue, traffic := session.traffic.recordSent })

/-- Reads along a queue until a frame is complete, a failure comes or the queue ends. -/
def pollPending : List (Except IoKind UInt8) → Reassembler →
    Except LinkError (Option Bytes) × Reassembler × List (Except IoKind UInt8)
  | [], reassembler => (.ok none, reassembler, [])
  | .error kind :: rest, reassembler => (.error (.line (.ofKind kind)), reassembler, rest)
  | .ok byte :: rest, reassembler =>
      match reassembler.feed byte with
      | (some frame, fed) => (.ok (some frame), fed, rest)
      | (none, fed) => pollPending rest fed

/-- The next complete frame of the queue, as it is. -/
def pollFrame (session : Session) : Except LinkError (Option Bytes) × Session :=
  let (outcome, reassembler, pending) := pollPending session.queue.pending session.reassembler
  (outcome, { session with reassembler, queue := { session.queue with pending } })

/-- Reads a frame as a response and counts it. -/
def decode (session : Session) (frame : Bytes) : Except LinkError Response × Session :=
  match Response.decodeInPlace frame with
  | .ok response => (.ok response, { session with traffic := session.traffic.recordValid })
  | .error error =>
      (.error (.protocol error), { session with traffic := session.traffic.recordCorrupted })

/-- The next response of the queue. -/
def pollResponse (session : Session) : Except LinkError (Option Response) × Session :=
  match session.pollFrame with
  | (.error error, polled) => (.error error, polled)
  | (.ok none, polled) => (.ok none, polled)
  | (.ok (some frame), polled) =>
      let (outcome, decoded) := polled.decode frame
      (outcome.map some, decoded)

/-- Reading along the queue is polling it byte by byte. -/
theorem pollFrame_eq (session : Session) :
    session.pollFrame =
      match session.queue.poll with
      | (.error error, queue) => (.error (.line error), { session with queue })
      | (.ok none, queue) => (.ok none, { session with queue })
      | (.ok (some byte), queue) =>
          match session.reassembler.feed byte with
          | (some frame, reassembler) => (.ok (some frame), { session with queue, reassembler })
          | (none, reassembler) => pollFrame { session with queue, reassembler } := by
  obtain ⟨⟨pending, written, writeFault⟩, reassembler, traffic⟩ := session
  match pending with
  | [] => rfl
  | .error kind :: rest => rfl
  | .ok byte :: rest =>
      simp only [pollFrame, pollPending, ByteQueue.poll]
      split <;> rfl

theorem pollPending_shorter {queue : List (Except IoKind UInt8)} {reassembler fed : Reassembler}
    {frame : Bytes} {rest : List (Except IoKind UInt8)}
    (completed : pollPending queue reassembler = (.ok (some frame), fed, rest)) :
    rest.length < queue.length := by
  fun_induction pollPending queue reassembler with
  | case1 => simp at completed
  | case2 => simp at completed
  | case3 byte queue reassembler frame fed feeding =>
      cases completed
      exact Nat.lt_succ_self _
  | case4 byte queue reassembler fed feeding ih => exact Nat.lt_succ_of_lt (ih completed)

theorem pollFrame_shorter {session polled : Session} {frame : Bytes}
    (completed : session.pollFrame = (.ok (some frame), polled)) :
    polled.queue.pending.length < session.queue.pending.length := by
  simp only [pollFrame, Prod.mk.injEq] at completed
  obtain ⟨outcome, after⟩ := completed
  rw [← after]
  exact pollPending_shorter (Prod.ext outcome rfl)

theorem decode_queue (session : Session) (frame : Bytes) :
    (session.decode frame).2.queue = session.queue := by
  unfold decode
  split <;> rfl

/-- Reads every response of the queue, up to its end or up to a failure, which then comes last. -/
def drain (session : Session) : List (Except LinkError Response) × Session :=
  match completed : session.pollFrame with
  | (.error error, polled) => ([.error error], polled)
  | (.ok none, polled) => ([], polled)
  | (.ok (some frame), polled) =>
      have : (polled.decode frame).2.queue.pending.length <
          session.queue.pending.length := by
        rw [decode_queue]
        exact pollFrame_shorter completed
      let (rest, last) := (polled.decode frame).2.drain
      ((polled.decode frame).1 :: rest, last)
termination_by session.queue.pending.length

end Session

end SerialLink
