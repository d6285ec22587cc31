import SerialLink.Bytes
import SerialLink.Fault.Io

namespace SerialLink

/-- A line that is asked for one byte at a time.  What it will deliver, bytes and failures, stands
in a queue; what it takes is kept until somebody collects it. -/
structure ByteQueue where
  pending : List (Except IoKind UInt8)
  written : Bytes
  writeFault : Option IoKind

namespace ByteQueue

/-- A queue that will deliver these bytes. -/
def ofBytes (bytes : Bytes) : ByteQueue := ⟨bytes.map .ok, [], none⟩

def pushBytes (queue : ByteQueue) (bytes : Bytes) : ByteQueue :=
  { queue with pending := queue.pending ++ bytes.map .ok }

def pushError (queue : ByteQueue) (kind : IoKind) : ByteQueue :=
  { queue with pending := queue.pending ++ [.error kind] }

/-- From now on every write fails. -/
def failWrites (queue : ByteQueue) (kind : IoKind) : ByteQueue :=
  { queue with writeFault := some kind }

/-- Collects the bytes taken so far. -/
def takeWritten (queue : ByteQueue) : Bytes × ByteQueue :=
  (queue.written, { queue with written := [] })

/-- Takes all the bytes or none. -/
def write (queue : ByteQueue) (bytes : Bytes) : Except IoError ByteQueue :=
  match queue.writeFault with
  | some kind => .error (.ofKind kind)
  | none => .ok { queue with written := queue.written ++ bytes }

/-- What stands first in the queue; nothing when the queue is empty. -/
def poll (queue : ByteQueue) : Except IoError (Option UInt8) × ByteQueue :=
  match queue.pending with
  | [] => (.ok none, queue)
  | .ok byte :: rest => (.ok (some byte), { queue with pending := rest })
  | .error kind :: rest => (.error (.ofKind kind), { queue with pending := rest })

end ByteQueue

end SerialLink
