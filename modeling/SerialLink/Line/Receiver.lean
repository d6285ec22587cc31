import SerialLink.Line.Script
import SerialLink.Stream.Reassembler
import SerialLink.Text.Literal

namespace SerialLink

/-! Frames out of a line.

A receiver takes what one read delivers into a buffer and reassembles frames from there; it reads
again only when the bytes in the buffer are used up.  The buffer is filled from its beginning to its
end, whatever is taken out meanwhile, and then again from its beginning; no read brings more than
fits up to the end.

After a failed read the next call answers that the stream has ended, without looking at the line,
and the call after that reads on.  Neither a failure nor the end of the stream touches a frame under
way.
-/

inductive Delivery where
  | frame (bytes : Bytes)
  | failed (error : IoError)
  | ended
deriving DecidableEq, Repr

structure Receiver where
  reassembler : Reassembler
  /-- Bytes read from the line and not yet reassembled. -/
  buffer : Bytes
  /-- How many bytes have been read from the line so far. -/
  received : Nat
  /-- Whether the last call reported a failed read. -/
  failed : Bool
deriving DecidableEq, Repr

namespace Receiver

/-- The bytes that the buffer holds. -/
def bufferSize : Nat := 8192

def start (layout : Layout) : Receiver := ⟨.empty layout, [], 0, false⟩

/-- The most bytes that the next read can bring. -/
def window (receiver : Receiver) : Nat := bufferSize - receiver.received % bufferSize

def hasPartial (receiver : Receiver) : Bool := receiver.reassembler.hasPartial

/-- Forgets the frame under way; what has been read and not yet reassembled stays. -/
def reset (receiver : Receiver) : Receiver :=
  { receiver with reassembler := receiver.reassembler.clear }

def withLayout (receiver : Receiver) (layout : Layout) : Receiver :=
  { receiver with reassembler := receiver.reassembler.withLayout layout }

/-- Reassembles from the buffer, up to the first complete frame. -/
def decode (receiver : Receiver) : Option Bytes × Receiver :=
  let (frame, reassembler, buffer) := receiver.reassembler.next receiver.buffer
  (frame, { receiver with reassembler, buffer })

def fill (receiver : Receiver) (bytes : Bytes) : Receiver :=
  { receiver with
    buffer := receiver.buffer ++ bytes
    received := receiver.received + bytes.length }

/-- Reads what an action delivers, up to the first complete frame, with nothing left in the buffer
before.  What the last read brings behind the frame stays in the buffer; what no read has brought
yet comes third. -/
def take (receiver : Receiver) (bytes : Bytes) : Option Bytes × Receiver × Bytes :=
  let (frame, reassembler, rest) := receiver.reassembler.next bytes
  let reached := receiver.received + (bytes.length - rest.length)
  let ahead := (bufferSize - reached % bufferSize) % bufferSize
  let started : Receiver := { receiver with reassembler, buffer := [], received := reached }
  (frame, started.fill (rest.take ahead), rest.drop ahead)

/-- A receiver that has read on along a queue. -/
structure Pulled where
  delivery : Option Delivery
  receiver : Receiver
  clock : Clock
  reads : List ReadAction

/-- Reads until there is something to hand out or the deadline comes. -/
def pull (deadline : Deadline) (hangs : Bool) :
    Receiver → Clock → List ReadAction → Pulled
  | receiver, clock, [] =>
      if hangs then ⟨none, receiver, clock.expire deadline, []⟩
      else ⟨some .ended, receiver, clock, []⟩
  | receiver, clock, .finish :: rest => ⟨some .ended, receiver, clock, rest⟩
  | receiver, clock, .fail kind :: rest =>
      ⟨some (.failed (.ofKind kind)), { receiver with failed := true }, clock, rest⟩
  | receiver, clock, .data bytes :: rest =>
      if bytes.isEmpty then ⟨some .ended, receiver, clock, rest⟩
      else
        match receiver.take bytes with
        | (some frame, taken, left) =>
            ⟨some (.frame frame), taken, clock, Line.putBack left rest⟩
        | (none, taken, _) => taken.pull deadline hangs clock rest
  | receiver, clock, .wait milliseconds begun :: rest =>
      match clock.pass (waitDue clock.now milliseconds begun) deadline with
      | some later => receiver.pull deadline hangs later rest
      | none =>
          ⟨none, receiver, clock.expire deadline,
            .wait milliseconds (some (begun.getD clock.now)) :: rest⟩

/-- The next frame, or why there is none. -/
def next (receiver : Receiver) (line : Line) (deadline : Deadline) : Attempt Delivery Receiver :=
  if receiver.failed then ⟨some .ended, { receiver with failed := false }, line⟩
  else
    match receiver.decode with
    | (some frame, decoded) => ⟨some (.frame frame), decoded, line⟩
    | (none, decoded) =>
        let pulled := decoded.pull deadline line.readsHang line.clock line.reads
        ⟨pulled.delivery, pulled.receiver,
          { line with clock := pulled.clock, reads := pulled.reads }⟩

/-- Shows no more than the name of the line. -/
def describe (line : String) : String := Text.record "FrameReader" [("transport", line)] false

theorem window_pos (receiver : Receiver) : 0 < receiver.window :=
  Nat.sub_pos_of_lt (Nat.mod_lt _ (by decide))

theorem decode_buffer_of_none {receiver decoded : Receiver}
    (unfinished : receiver.decode = (none, decoded)) : decoded.buffer = [] := by
  simp only [decode, Prod.mk.injEq] at unfinished
  obtain ⟨outcome, rfl⟩ := unfinished
  exact Reassembler.next_remainder_of_none (Prod.ext outcome rfl)

theorem decode_buffer_of_some {receiver decoded : Receiver} {frame : Bytes}
    (completed : receiver.decode = (some frame, decoded)) :
    decoded.buffer.length < receiver.buffer.length := by
  simp only [decode, Prod.mk.injEq] at completed
  obtain ⟨outcome, rfl⟩ := completed
  exact Reassembler.next_remainder_of_some (Prod.ext outcome rfl)

/-- What is decoded is the first frame of all that is still to come. -/
theorem feedAll_of_decode_some {receiver decoded : Receiver} {frame : Bytes}
    (completed : receiver.decode = (some frame, decoded)) (later : Bytes) :
    (receiver.reassembler.feedAll (receiver.buffer ++ later)).1 =
      frame :: (decoded.reassembler.feedAll (decoded.buffer ++ later)).1 := by
  simp only [decode, Prod.mk.injEq] at completed
  obtain ⟨outcome, rfl⟩ := completed
  simp only [Reassembler.feedAll_append, Reassembler.feedAll_of_next_some (Prod.ext outcome rfl),
    List.cons_append]

theorem feedAll_of_decode_none {receiver decoded : Receiver}
    (unfinished : receiver.decode = (none, decoded)) (later : Bytes) :
    (receiver.reassembler.feedAll (receiver.buffer ++ later)).1 =
      (decoded.reassembler.feedAll (decoded.buffer ++ later)).1 := by
  rw [decode_buffer_of_none unfinished]
  simp only [decode, Prod.mk.injEq] at unfinished
  obtain ⟨outcome, rfl⟩ := unfinished
  simp only [Reassembler.feedAll_append, Reassembler.feedAll_of_next_none (Prod.ext outcome rfl),
    List.nil_append]

end Receiver

end SerialLink
