import SerialLink.Fault.Link
import SerialLink.Line.Script
import SerialLink.Text.Literal

namespace SerialLink

/-! Frames into a line.

A sender keeps what it has accepted until the line has taken it.  A failed or interrupted write
leaves the rest in place, in front of whatever is accepted later.
-/

/-- Bytes accepted and not yet taken by the line. -/
structure Sender where
  pending : Bytes
deriving DecidableEq, Repr

namespace Sender

/-- From this many pending bytes on, a sender writes before it accepts more. -/
def boundary : Nat := 8192

def start : Sender := ⟨[]⟩

/-- A write that takes nothing although something was offered. -/
def stalled : IoError := ⟨.writeZero, some "failed to write frame to transport"⟩

/-- Pending bytes that have been written along a queue. -/
structure Pushed where
  outcome : Option (Except IoError Unit)
  pending : Bytes
  clock : Clock
  writes : List WriteAction
  /-- What the line has taken. -/
  taken : Bytes

/-- Counts bytes as taken in front of all others. -/
def Pushed.after (front : Bytes) (pushed : Pushed) : Pushed :=
  { pushed with taken := front ++ pushed.taken }

/-- Writes until nothing is pending, a write fails or the deadline comes. -/
def push (deadline : Deadline) (hangs : Bool) : Bytes → Clock → List WriteAction → Pushed
  | [], clock, writes => ⟨some (.ok ()), [], clock, writes, []⟩
  | byte :: bytes, clock, [] =>
      if hangs then ⟨none, byte :: bytes, clock.expire deadline, [], []⟩
      else ⟨some (.ok ()), [], clock, [], byte :: bytes⟩
  | byte :: bytes, clock, .accept count :: rest =>
      if count = 0 then ⟨some (.error stalled), byte :: bytes, clock, rest, []⟩
      else
        (push deadline hangs ((byte :: bytes).drop count) clock rest).after
          ((byte :: bytes).take count)
  | byte :: bytes, clock, .fail kind :: rest =>
      ⟨some (.error (.ofKind kind)), byte :: bytes, clock, rest, []⟩
  | byte :: bytes, clock, .wait milliseconds begun :: rest =>
      match clock.pass (waitDue clock.now milliseconds begun) deadline with
      | some later => push deadline hangs (byte :: bytes) later rest
      | none =>
          ⟨none, byte :: bytes, clock.expire deadline,
            .wait milliseconds (some (begun.getD clock.now)) :: rest, []⟩

def flush (sender : Sender) (line : Line) (deadline : Deadline) :
    Attempt (Except LinkError Unit) Sender :=
  let pushed := push deadline line.writesHang sender.pending line.clock line.writes
  let written := line.written ++ pushed.taken
  ⟨pushed.outcome.map fun result => result.mapError .line, ⟨pushed.pending⟩,
    { line with clock := pushed.clock, writes := pushed.writes, written }⟩

def accept (sender : Sender) (frame : Bytes) : Sender := ⟨sender.pending ++ frame⟩

/-- Accepts a frame.  When too much is pending, that is written first, and without success the frame
is not accepted. -/
def feed (sender : Sender) (frame : Bytes) (line : Line) (deadline : Deadline) :
    Attempt (Except LinkError Unit) Sender :=
  if sender.pending.length < boundary then ⟨some (.ok ()), sender.accept frame, line⟩
  else
    let flushed := sender.flush line deadline
    match flushed.outcome with
    | some (.ok ()) => flushed.mapOwner (·.accept frame)
    | _ => flushed

def send (sender : Sender) (frame : Bytes) (line : Line) (deadline : Deadline) :
    Attempt (Except LinkError Unit) Sender :=
  let fed := sender.feed frame line deadline
  match fed.outcome with
  | some (.ok ()) => fed.owner.flush fed.line deadline
  | _ => fed

def close (sender : Sender) (line : Line) (deadline : Deadline) :
    Attempt (Except LinkError Unit) Sender :=
  let flushed := sender.flush line deadline
  match flushed.outcome with
  | some (.ok ()) => { flushed with line := { flushed.line with isShut := true } }
  | _ => flushed

def describe (line : String) : String := Text.record "FrameWriter" [("transport", line)] false

end Sender

end SerialLink
