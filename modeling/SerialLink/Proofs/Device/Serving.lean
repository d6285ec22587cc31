import SerialLink.Device.Service
import SerialLink.Proofs.Device.Resolving
import SerialLink.Proofs.Line.Receiving

namespace SerialLink

/-! A device that is not stopped, on a link whose host stays.

Whatever the device has done so far comes down to the frames that it has taken from the link: what it
has logged and what it has written are theirs, in order, but for what is still to be written and
logged of the answer under way.
-/

namespace Answer

/-- The response that answers a request, if the answer comes down to a response. -/
def reply? : Answer → Request → Option Response
  | .reply response, _ => some response
  | .raw _, _ => none
  | .silent, _ => none
  | .computed answer, request => (answer request).reply? request

theorem resolve_of_reply? {answer : Answer} {request : Request} {response : Response}
    (replies : answer.reply? request = some response) :
    answer.resolve request = some response.encode := by
  induction answer with
  | reply known =>
      cases replies
      rfl
  | raw bytes => cases replies
  | silent => cases replies
  | computed answer ih => exact ih request replies

theorem reply?_echo (request : Request) : echo.reply? request = some ⟨0, 0, request.payload⟩ := by
  change (ok request.payload.bytes).reply? request = _
  rw [ok_payload]
  rfl

end Answer

namespace Setup

variable {setup : Setup}

def reply? (setup : Setup) (request : Request) : Option Response :=
  if setup.addresses request then (setup.answerTo request.operation).reply? request else none

theorem addresses_of_reply? {request : Request} {response : Response}
    (replies : setup.reply? request = some response) : setup.addresses request = true := by
  unfold reply? at replies
  split at replies
  · assumption
  · contradiction

theorem reply?_echo {request : Request} (addressed : setup.addresses request = true)
    (echoes : setup.answerTo request.operation = .echo) :
    setup.reply? request = some ⟨0, 0, request.payload⟩ := by
  rw [reply?, if_pos addressed, echoes]
  exact Answer.reply?_echo request

theorem answer?_encode {request : Request} {response : Response}
    (replies : setup.reply? request = some response) :
    setup.answer? request.encode = some response.encode := by
  have addressed := addresses_of_reply? replies
  rw [reply?, if_pos addressed] at replies
  simp only [answer?, request.decode_encode, addressed, if_true]
  exact Answer.resolve_of_reply? replies

theorem pieceWithin_pos (setup : Setup) (written : Nat) {room : Nat} (some_room : 0 < room) :
    0 < setup.pieceWithin written room := by
  unfold pieceWithin
  split
  · exact some_room
  · rename_i size _
    have within := Nat.mod_lt written size.property
    apply Nat.lt_min.mpr
    omega

end Setup

namespace Link

variable {setup : Setup} {link after : Link} {entry : Option Entry}

/-- What is still to be written of the answer under way. -/
def unwritten (link : Link) : Bytes := (link.outgoing.map (·.rest)).getD []

/-- What is still to be logged of it. -/
def unlogged (link : Link) : Recording :=
  (link.outgoing.map fun answer => ⟨true, answer.whole⟩).toList

/-- The things that a device does one at a time, as long as nobody leaves. -/
inductive Does (setup : Setup) (link : Link) : Link → Option Entry → Prop where
  | finish (answer : Outgoing) (writing : link.outgoing = some answer) (written : answer.rest = []) :
      Does setup link { link with outgoing := none } (some ⟨true, answer.whole⟩)
  | write (answer : Outgoing) (count : Nat) (writing : link.outgoing = some answer)
      (more : answer.rest ≠ []) (some_byte : 0 < count) :
      Does setup link
        { link with
          toHost := link.toHost ++ answer.rest.take count
          outgoing := some (answer.advance count) }
        none
  | take (frame : Bytes) (receiver : Receiver) (idle : link.outgoing = none)
      (completed : link.receiver.decode = (some frame, receiver)) :
      Does setup link
        { link with receiver, outgoing := (setup.answer? frame).map .start } (some ⟨false, frame⟩)
  | read (receiver : Receiver) (idle : link.outgoing = none)
      (unfinished : link.receiver.decode = (none, receiver)) (arrived : link.toDevice ≠ []) :
      Does setup link
        { link with
          receiver := receiver.fill (link.toDevice.take receiver.window)
          toDevice := link.toDevice.drop receiver.window }
        none
  | digest (receiver : Receiver) (idle : link.outgoing = none)
      (unfinished : link.receiver.decode = (none, receiver)) (buffered : link.receiver.buffer ≠ []) :
      Does setup link { link with receiver } none

theorem step_does (hostOpen : link.hostOpen = true)
    (did : link.step setup false = some (after, entry)) : Does setup link after entry := by
  obtain ⟨capacity, toDevice, toHost, receiver, outgoing, hosted, served⟩ := link
  obtain rfl : hosted = true := hostOpen
  unfold step at did
  split at did
  · split at did
    · rename_i answer writing
      split at did
      · rename_i written
        cases did
        exact .finish answer writing written
      · rename_i more
        obtain ⟨wrote, writes, same⟩ := Option.map_eq_some_iff.mp did
        cases same
        simp only [writePiece, if_true] at writes
        split at writes
        · contradiction
        · rename_i some_byte
          cases writes
          exact .write answer _ writing more (Nat.pos_of_ne_zero some_byte)
    · rename_i idle
      simp only [takeRequest, not_true_eq_false, Bool.false_eq_true, if_false] at did
      split at did
      · rename_i frame receiver completed
        cases did
        exact .take frame receiver idle completed
      · rename_i receiver unfinished
        split at did
        · rename_i arrived
          cases did
          exact .read receiver idle unfinished arrived
        · split at did
          · rename_i buffered
            cases did
            exact .digest receiver idle unfinished buffered
          · contradiction
  · contradiction

/-- A device waits for room to write or for bytes to read. -/
theorem waits_cases (hostOpen : link.hostOpen = true) (deviceOpen : link.deviceOpen = true)
    (waits : link.step setup false = none) :
    link.unwritten ≠ [] ∧ link.room = 0 ∨
      link.outgoing = none ∧ link.toDevice = [] ∧ link.receiver.buffer = [] := by
  simp only [step, deviceOpen, if_true] at waits
  split at waits
  · rename_i answer writing
    split at waits
    · contradiction
    · rename_i more
      refine .inl ⟨by simpa [unwritten, writing] using more, ?_⟩
      have stuck := Option.map_eq_none_iff.mp waits
      simp only [writePiece, hostOpen, if_true] at stuck
      split at stuck
      · rename_i no_room
        apply Nat.eq_zero_of_not_pos
        intro some_room
        exact Nat.ne_of_gt (setup.pieceWithin_pos answer.written some_room) no_room
      · contradiction
  · rename_i idle
    simp only [takeRequest, hostOpen, not_true_eq_false, Bool.false_eq_true, if_false] at waits
    split at waits
    · contradiction
    · split at waits
      · contradiction
      · rename_i nothing
        split at waits
        · contradiction
        · rename_i used
          exact .inr ⟨idle, Decidable.not_not.mp nothing, Decidable.not_not.mp used⟩

/-- Bytes that the device has not yet fed, those in the pipe counted twice. -/
def backlog (link : Link) : Nat := 2 * link.toDevice.length + link.receiver.buffer.length

end Link

/-- How far a device has come on a link, with `input` the bytes that the host has written so far,
`emitted` those that the device has written, and `handled` the frames that it has taken. -/
structure Served (setup : Setup) (input emitted : Bytes) (handled : List Bytes) (service : Service) :
    Prop where
  hostOpen : service.link.hostOpen = true
  deviceOpen : service.link.deviceOpen = true
  takes : ∃ fed,
    input = fed ++ (service.link.receiver.buffer ++ service.link.toDevice) ∧
      (Reassembler.empty .request).feedAll fed = (handled, service.link.receiver.reassembler)
  answers : emitted ++ service.link.unwritten = (handled.filterMap setup.answer?).flatten
  logs : service.log.reverse ++ service.link.unlogged = handled.flatMap setup.exchange

namespace Served

variable {setup : Setup} {input emitted : Bytes} {handled : List Bytes} {service after : Service}

theorem fresh (setup : Setup) (capacity : Nat) : Served setup [] [] [] ⟨.fresh capacity, []⟩ :=
  ⟨rfl, rfl, ⟨[], rfl, rfl⟩, rfl, rfl⟩

/-- What one thing that the device does adds to all that it has done. -/
structure Adds (setup : Setup) (input emitted : Bytes) (handled : List Bytes)
    (service after : Service) (piece : Bytes) (taken : List Bytes) : Prop where
  served : Served setup input (emitted ++ piece) (handled ++ taken) after
  toHost_eq : after.link.toHost = service.link.toHost ++ piece
  capacity_eq : after.link.capacity = service.link.capacity
  advances : after.link.backlog + service.log.length <
    service.link.backlog + after.log.length + piece.length

theorem step (served : Served setup input emitted handled service)
    (did : service.step setup false = some after) :
    ∃ piece taken, Adds setup input emitted handled service after piece taken := by
  obtain ⟨⟨link, entry⟩, moved, same⟩ := Option.map_eq_some_iff.mp did
  cases same
  obtain ⟨hostOpen, deviceOpen, ⟨fed, split, fedAll⟩, answers, logs⟩ := served
  cases Link.step_does hostOpen moved with
  | finish answer writing written =>
      simp only [Link.unwritten, Link.unlogged, writing, Option.map_some, Option.getD_some, written,
        Option.toList_some] at answers logs
      refine ⟨[], [], ⟨?_, (List.append_nil _).symm, rfl, ?_⟩⟩
      · rw [List.append_nil, List.append_nil]
        refine ⟨hostOpen, deviceOpen, ⟨fed, split, fedAll⟩, answers, ?_⟩
        simpa [Link.unlogged] using logs
      · simp [Link.backlog]
  | write answer count writing more some_byte =>
      simp only [Link.unwritten, Link.unlogged, writing, Option.map_some, Option.getD_some,
        Option.toList_some] at answers logs
      refine ⟨answer.rest.take count, [], ⟨?_, rfl, rfl, ?_⟩⟩
      · rw [List.append_nil]
        refine ⟨hostOpen, deviceOpen, ⟨fed, split, fedAll⟩, ?_, logs⟩
        simpa [Link.unwritten, Outgoing.advance, List.append_assoc] using answers
      · have positive := List.length_pos_iff.mpr more
        simp only [Link.backlog, Option.toList_none, List.nil_append, List.length_take]
        omega
  | take frame receiver idle completed =>
      have shorter := Receiver.decode_buffer_of_some completed
      obtain ⟨consumed, buffered, frameFed, _, _⟩ := Receiver.decode_cases completed
      simp only [Link.unwritten, Link.unlogged, idle, Option.map_none, Option.getD_none,
        Option.toList_none, List.append_nil] at answers logs
      refine ⟨[], [frame], ⟨?_, (List.append_nil _).symm, rfl, ?_⟩⟩
      · rw [List.append_nil]
        refine ⟨hostOpen, deviceOpen, ⟨fed ++ consumed, ?_, ?_⟩, ?_, ?_⟩
        · rw [split, buffered]
          simp only [List.append_assoc]
        · rw [Reassembler.feedAll_append, fedAll, frameFed]
          rfl
        · rw [answers]
          cases answer : setup.answer? frame <;>
            simp [Link.unwritten, answer, Outgoing.start, List.filterMap_append]
        · simp only [Option.toList_some, List.singleton_append, List.reverse_cons, logs]
          cases answer : setup.answer? frame <;>
            simp [Link.unlogged, answer, Outgoing.start, Setup.exchange]
      · simp only [Link.backlog, Option.toList_some, List.singleton_append, List.length_cons]
        omega
  | read receiver idle unfinished arrived =>
      have openWindow := receiver.window_pos
      have positive := List.length_pos_iff.mpr arrived
      obtain ⟨consumed, buffered, quiet, drained, _⟩ := Receiver.decode_cases unfinished
      have used := drained rfl
      refine ⟨[], [], ⟨?_, (List.append_nil _).symm, rfl, ?_⟩⟩
      · rw [List.append_nil, List.append_nil]
        refine ⟨hostOpen, deviceOpen, ⟨fed ++ consumed, ?_, ?_⟩, answers, logs⟩
        · simp only [split, buffered, used, Receiver.fill, List.append_nil, List.nil_append,
            List.append_assoc, List.take_append_drop]
        · rw [Reassembler.feedAll_append, fedAll, quiet]
          exact Prod.ext (List.append_nil _) rfl
      · simp only [Link.backlog, Receiver.fill, used, List.nil_append, Option.toList_none,
          List.length_take, List.length_drop, List.length_nil]
        omega
  | digest receiver idle unfinished buffered =>
      have positive := List.length_pos_iff.mpr buffered
      obtain ⟨consumed, split_buffer, quiet, drained, _⟩ := Receiver.decode_cases unfinished
      have used := drained rfl
      refine ⟨[], [], ⟨?_, (List.append_nil _).symm, rfl, ?_⟩⟩
      · rw [List.append_nil, List.append_nil]
        refine ⟨hostOpen, deviceOpen, ⟨fed ++ consumed, ?_, ?_⟩, answers, logs⟩
        · simp only [split, split_buffer, List.append_assoc]
        · rw [Reassembler.feedAll_append, fedAll, quiet]
          exact Prod.ext (List.append_nil _) rfl
      · simp only [Link.backlog, used, Option.toList_none, List.nil_append, List.length_nil]
        omega

theorem hostWrites (served : Served setup input emitted handled service) (more : Bytes) :
    Served setup (input ++ more) emitted handled
      { service with link := { service.link with toDevice := service.link.toDevice ++ more } } := by
  obtain ⟨hostOpen, deviceOpen, ⟨fed, split, fedAll⟩, answers, logs⟩ := served
  exact ⟨hostOpen, deviceOpen, ⟨fed, by rw [split]; simp only [List.append_assoc], fedAll⟩, answers,
    logs⟩

theorem hostReads (served : Served setup input emitted handled service) (toHost : Bytes) :
    Served setup input emitted handled
      { service with link := { service.link with toHost } } :=
  ⟨served.hostOpen, served.deviceOpen, served.takes, served.answers, served.logs⟩

/-- A device that has nothing to write and nothing to take has done all that there is to do. -/
theorem of_idle (served : Served setup input emitted handled service)
    (idle : service.link.outgoing = none) (nothing : service.link.toDevice = [])
    (used : service.link.receiver.buffer = []) :
    (Reassembler.empty .request).feedAll input = (handled, service.link.receiver.reassembler) ∧
      emitted = (handled.filterMap setup.answer?).flatten ∧
      service.log.reverse = handled.flatMap setup.exchange := by
  obtain ⟨hostOpen, deviceOpen, ⟨fed, split, fedAll⟩, answers, logs⟩ := served
  simp only [Link.unwritten, Link.unlogged, idle, Option.map_none, Option.getD_none,
    Option.toList_none, List.append_nil] at answers logs
  rw [nothing, used, List.append_nil, List.append_nil] at split
  rw [split]
  exact ⟨fedAll, answers, logs⟩

/-- So has a device that waits although there is room. -/
theorem of_waits (served : Served setup input emitted handled service)
    (waits : service.step setup false = none) (some_room : 0 < service.link.room) :
    (Reassembler.empty .request).feedAll input = (handled, service.link.receiver.reassembler) ∧
      emitted = (handled.filterMap setup.answer?).flatten ∧
      service.log.reverse = handled.flatMap setup.exchange := by
  have stuck : service.link.step setup false = none := Option.map_eq_none_iff.mp waits
  rcases Link.waits_cases served.hostOpen served.deviceOpen stuck with
    ⟨_, no_room⟩ | ⟨idle, nothing, used⟩
  · omega
  · exact served.of_idle idle nothing used

end Served

end SerialLink
