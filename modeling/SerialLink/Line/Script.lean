import SerialLink.Bytes
import SerialLink.Fault.Io
import SerialLink.Line.Clock

namespace SerialLink

/-! A byte line in time.

A line is described by what it will do: one queue of actions for reads, one for writes, and what
happens once a queue is used up.
-/

/-- What a line does when it is read.  A wait counts from the instant at which a read first comes to
it, and goes on while nobody reads. -/
inductive ReadAction where
  | data (bytes : Bytes)
  | finish
  | fail (kind : IoKind)
  | wait (milliseconds : Nat) (begun : Option Nat)
deriving DecidableEq, Repr

inductive WriteAction where
  /-- Takes this many bytes at most. -/
  | accept (count : Nat)
  | fail (kind : IoKind)
  | wait (milliseconds : Nat) (begun : Option Nat)
deriving DecidableEq, Repr

/-- A line at an instant, with all it will still do and all it has taken. -/
structure Line where
  clock : Clock
  reads : List ReadAction
  /-- After the last read action: silence for ever, or the end of the stream. -/
  readsHang : Bool
  writes : List WriteAction
  /-- After the last write action: nothing is taken any more, or everything at once. -/
  writesHang : Bool
  written : Bytes
  isShut : Bool
deriving DecidableEq, Repr

namespace Line

def ofScript (reads : List ReadAction) (readsHang : Bool) (writes : List WriteAction) : Line :=
  ⟨.start, reads, readsHang, writes, false, [], false⟩

def extend (line : Line) (reads : List ReadAction) (writes : List WriteAction) : Line :=
  { line with reads := line.reads ++ reads, writes := line.writes ++ writes }

/-- Everything a list of read actions delivers. -/
def delivered : List ReadAction → Bytes
  | [] => []
  | .data bytes :: rest => bytes ++ delivered rest
  | _ :: rest => delivered rest

/-- Puts back what a read has left of what an action delivers. -/
def putBack : Bytes → List ReadAction → List ReadAction
  | [], reads => reads
  | byte :: bytes, reads => .data (byte :: bytes) :: reads

def now (line : Line) : Nat := line.clock.now

def sleep (line : Line) (milliseconds : Nat) : Line :=
  { line with clock := line.clock.sleep milliseconds }

theorem delivered_putBack (bytes : Bytes) (reads : List ReadAction) :
    delivered (putBack bytes reads) = bytes ++ delivered reads := by
  cases bytes <;> rfl

end Line

/-- The end of a wait that an operation comes to now. -/
def waitDue (now milliseconds : Nat) (begun : Option Nat) : Nat :=
  Clock.waitEnd (begun.getD now) milliseconds

/-- What came of an operation on a line, or nothing if its deadline passed first.  The owner of the
operation and the line go on from here in both cases. -/
structure Attempt (α σ : Type) where
  outcome : Option α
  owner : σ
  line : Line

namespace Attempt

def mapOwner (attempt : Attempt α σ) (f : σ → τ) : Attempt α τ :=
  ⟨attempt.outcome, f attempt.owner, attempt.line⟩

end Attempt

end SerialLink
