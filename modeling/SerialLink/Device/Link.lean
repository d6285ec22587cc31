import SerialLink.Device.Setup
import SerialLink.Line.Receiver

namespace SerialLink

/-! One link between a host and a simulated device, and what the device does on it.

A link is a bounded queue of bytes in each direction.  The device does one thing at a time: it reads
only when it has nothing left to reassemble and then takes all there is, as far as its buffer goes,
and it does not read while an answer waits for room.  `Link.step` is the next thing it does; when
there is none, it waits for the host.  Behind each piece of an answer the device pauses for the
host.
-/

/-- An answer that is being written. -/
structure Outgoing where
  whole : Bytes
  /-- What is still to be written. -/
  rest : Bytes
  /-- How many bytes have been written. -/
  written : Nat
deriving DecidableEq, Repr

namespace Outgoing

def start (bytes : Bytes) : Outgoing := ⟨bytes, bytes, 0⟩

def advance (outgoing : Outgoing) (count : Nat) : Outgoing :=
  { outgoing with
    rest := outgoing.rest.drop count
    written := outgoing.written + (outgoing.rest.take count).length }

end Outgoing

structure Link where
  capacity : Nat
  toDevice : Bytes
  toHost : Bytes
  receiver : Receiver
  outgoing : Option Outgoing
  hostOpen : Bool
  deviceOpen : Bool
deriving DecidableEq, Repr

namespace Link

def fresh (capacity : Nat) : Link := ⟨capacity, [], [], .start .request, none, true, true⟩

def room (link : Link) : Nat := link.capacity - link.toHost.length

def hostRoom (link : Link) : Nat := link.capacity - link.toDevice.length

def dropHost (link : Link) : Link := { link with hostOpen := false }

/-- The device lets go of the link; nothing that is not yet written will be. -/
def dropDevice (link : Link) : Link := { link with deviceOpen := false, outgoing := none }

/-- Writes the next piece of an answer, or as much of it as there is room for.  With nobody to read
it, the link has come to its end. -/
def writePiece (setup : Setup) (link : Link) (outgoing : Outgoing) : Option Link :=
  if link.hostOpen then
    let count := setup.pieceWithin outgoing.written link.room
    if count = 0 then none
    else
      some { link with
        toHost := link.toHost ++ outgoing.rest.take count
        outgoing := some (outgoing.advance count) }
  else some link.dropDevice

/-- Takes the next request from what has been read, or reads.  The end of the stream is the end of
the link, also inside a request. -/
def takeRequest (setup : Setup) (link : Link) : Option (Link × Option Entry) :=
  match link.receiver.decode with
  | (some frame, receiver) =>
      let outgoing := (setup.answer? frame).map .start
      some ({ link with receiver, outgoing }, some ⟨false, frame⟩)
  | (none, receiver) =>
      if link.toDevice ≠ [] then
        let window := receiver.window
        let filled := receiver.fill (link.toDevice.take window)
        some ({ link with receiver := filled, toDevice := link.toDevice.drop window }, none)
      else if ¬link.hostOpen then some (link.dropDevice, none)
      else if link.receiver.buffer ≠ [] then some ({ link with receiver }, none)
      else none

/-- The next thing that the device does on a link, and what it logs.  A device that is stopped
finishes the answer it is writing and then lets go. -/
def step (setup : Setup) (stopped : Bool) (link : Link) : Option (Link × Option Entry) :=
  if link.deviceOpen then
    match link.outgoing with
    | some outgoing =>
        if outgoing.rest = [] then
          some ({ link with outgoing := none }, some ⟨true, outgoing.whole⟩)
        else (writePiece setup link outgoing).map fun written => (written, none)
    | none => if stopped then some (link.dropDevice, none) else takeRequest setup link
  else none

/-- Whether the device has come to the end of a piece of an answer. -/
def pauses (setup : Setup) (link : Link) : Bool :=
  match setup.pieceSize, link.outgoing with
  | some size, some outgoing =>
      0 < outgoing.written && (outgoing.rest.isEmpty || outgoing.written % size.val = 0)
  | _, _ => false

/-- The bytes that the host can still get to read, if it writes nothing more. -/
def readable (setup : Setup) (link : Link) : Nat :=
  let unwritten := (link.outgoing.map (·.rest)).getD []
  let frames := (link.receiver.reassembler.feedAll (link.receiver.buffer ++ link.toDevice)).1
  link.toHost.length + unwritten.length + (frames.filterMap setup.answer?).flatten.length

/-- More than the number of things that the device can do before it waits for the host. -/
def effort (link : Link) : Nat :=
  link.room + 2 * link.receiver.buffer.length + 3 * link.toDevice.length +
    (if link.outgoing.isSome then 1 else 0) + (if link.deviceOpen then 1 else 0)

theorem writePiece_effort {setup : Setup} {link after : Link} {outgoing : Outgoing}
    (live : link.deviceOpen = true) (writing : link.outgoing = some outgoing)
    (unwritten : outgoing.rest ≠ [])
    (wrote : writePiece setup link outgoing = some after) : after.effort < link.effort := by
  have some_byte := List.length_pos_iff.mpr unwritten
  have within := setup.pieceWithin_le outgoing.written link.room
  simp only [writePiece] at wrote
  split at wrote
  · split at wrote
    · contradiction
    · rename_i some_room
      cases wrote
      simp only [room] at within some_room
      simp only [effort, room, live, writing, Option.isSome_some, List.length_append,
        List.length_take]
      omega
  · cases wrote
    simp only [effort, room, dropDevice, live, writing, Option.isSome_some, Option.isSome_none,
      Bool.false_eq_true, ↓reduceIte]
    omega

theorem takeRequest_effort {setup : Setup} {link after : Link} {entry : Option Entry}
    (live : link.deviceOpen = true) (idle : link.outgoing = none)
    (took : takeRequest setup link = some (after, entry)) : after.effort < link.effort := by
  unfold takeRequest at took
  split at took
  · rename_i frame receiver completed
    have shorter := Receiver.decode_buffer_of_some completed
    cases took
    simp only [effort, room, live, idle, Option.isSome_none, Bool.false_eq_true, ↓reduceIte]
    split <;> omega
  · rename_i receiver unfinished
    have used := Receiver.decode_buffer_of_none unfinished
    split at took
    · rename_i arrived
      have some_byte := List.length_pos_iff.mpr arrived
      have open_window := receiver.window_pos
      cases took
      simp only [effort, room, live, idle, Receiver.fill, used, List.nil_append, List.length_take,
        List.length_drop]
      omega
    · split at took
      · cases took
        simp only [effort, room, dropDevice, live, idle, Option.isSome_none, Bool.false_eq_true,
          ↓reduceIte]
        omega
      · split at took
        · rename_i buffered
          have some_byte := List.length_pos_iff.mpr buffered
          cases took
          simp only [effort, room, live, idle, used, List.length_nil]
          omega
        · contradiction

/-- Whatever the device does, it comes nearer to waiting. -/
theorem step_effort {setup : Setup} {stopped : Bool} {link after : Link} {entry : Option Entry}
    (did : step setup stopped link = some (after, entry)) : after.effort < link.effort := by
  unfold step at did
  split at did
  · rename_i live
    split at did
    · rename_i outgoing writing
      split at did
      · cases did
        simp only [effort, room, live, writing, Option.isSome_some, Option.isSome_none,
          Bool.false_eq_true, ↓reduceIte]
        omega
      · rename_i unwritten
        obtain ⟨written, wrote, same⟩ := Option.map_eq_some_iff.mp did
        cases same
        exact writePiece_effort live writing unwritten wrote
    · rename_i idle
      split at did
      · cases did
        simp only [effort, room, dropDevice, live, idle, Option.isSome_none, Bool.false_eq_true,
            ↓reduceIte]
        omega
      · exact takeRequest_effort live idle did
  · contradiction

theorem readable_dropDevice (setup : Setup) (link : Link) :
    link.dropDevice.readable setup ≤ link.readable setup := by
  simp only [readable, dropDevice, Option.map_none, Option.getD_none, List.length_nil]
  omega

theorem writePiece_readable {setup : Setup} {link after : Link} {outgoing : Outgoing}
    (writing : link.outgoing = some outgoing)
    (wrote : writePiece setup link outgoing = some after) :
    after.readable setup ≤ link.readable setup := by
  simp only [writePiece] at wrote
  split at wrote
  · split at wrote
    · contradiction
    · cases wrote
      simp only [readable, writing, Outgoing.advance, Option.map_some, Option.getD_some,
        List.length_append, List.length_take, List.length_drop]
      omega
  · cases wrote
    exact link.readable_dropDevice setup

theorem takeRequest_readable {setup : Setup} {link after : Link} {entry : Option Entry}
    (idle : link.outgoing = none) (took : takeRequest setup link = some (after, entry)) :
    after.readable setup ≤ link.readable setup := by
  unfold takeRequest at took
  split at took
  · rename_i frame receiver completed
    have frames := Receiver.feedAll_of_decode_some completed link.toDevice
    cases took
    simp only [readable, idle, frames, Option.map_none, Option.getD_none, List.length_nil]
    cases answer : setup.answer? frame with
    | none =>
        simp only [List.filterMap_cons, answer, Option.map_none, Option.getD_none, List.length_nil]
        omega
    | some bytes =>
        simp only [List.filterMap_cons, answer, Option.map_some, Option.getD_some, Outgoing.start,
          List.flatten_cons, List.length_append]
        omega
  · rename_i receiver unfinished
    have frames := Receiver.feedAll_of_decode_none unfinished link.toDevice
    have used := Receiver.decode_buffer_of_none unfinished
    split at took
    · cases took
      simp only [readable, frames, Receiver.fill, used, List.nil_append, List.take_append_drop]
      omega
    · split at took
      · cases took
        exact link.readable_dropDevice setup
      · split at took
        · cases took
          simp only [readable, frames]
          omega
        · contradiction

/-- Nothing that the device does can bring the host more than was to come. -/
theorem step_readable {setup : Setup} {stopped : Bool} {link after : Link} {entry : Option Entry}
    (did : step setup stopped link = some (after, entry)) :
    after.readable setup ≤ link.readable setup := by
  unfold step at did
  split at did
  · split at did
    · rename_i outgoing writing
      split at did
      · cases did
        simp only [readable, Option.map_none, Option.getD_none, List.length_nil]
        omega
      · obtain ⟨written, wrote, same⟩ := Option.map_eq_some_iff.mp did
        cases same
        exact writePiece_readable writing wrote
    · rename_i idle
      split at did
      · cases did
        exact link.readable_dropDevice setup
      · exact takeRequest_readable idle did
  · contradiction

end Link

end SerialLink
