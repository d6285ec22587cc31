import SerialLink.Proofs.Device.Dialogue
import SerialLink.Proofs.History

namespace SerialLink

/-! A device as a transducer of bytes.

The host writes what it likes, piece by piece, and reads what comes.  It may be held up anywhere
inside a write or a read, and device and host have their turns in any order.  What the device logs
and what the host gets to read is known from the bytes alone.
-/

structure Host where
  /-- What is left of the piece that is being written, and the pieces behind it. -/
  unsent : List Bytes
  received : Bytes

structure Terminal where
  host : Host
  service : Service

/-- The device waits for a request, not for room to answer one. -/
structure Link.Idle (setup : Setup) (link : Link) : Prop where
  waits : link.step setup false = none
  unwritten : link.outgoing = none

namespace Setup

/-- All that the device writes when it gets a stream. -/
def output (setup : Setup) (stream : Bytes) : Bytes :=
  ((Layout.request.segment stream).1.filterMap setup.answer?).flatten

/-- All that it logs. -/
def recording (setup : Setup) (stream : Bytes) : Recording :=
  (Layout.request.segment stream).1.flatMap setup.exchange

variable {setup : Setup} {frames others : List Bytes} {frame : Bytes}

theorem answers_prefix (setup : Setup) (begins : frames <+: others) :
    (frames.filterMap setup.answer?).flatten <+: (others.filterMap setup.answer?).flatten := by
  obtain ⟨more, rfl⟩ := begins
  rw [List.filterMap_append, List.flatten_append]
  exact List.prefix_append _ _

theorem exchanges_prefix (setup : Setup) (begins : frames <+: others) :
    frames.flatMap setup.exchange <+: others.flatMap setup.exchange := by
  obtain ⟨more, rfl⟩ := begins
  rw [List.flatMap_append]
  exact List.prefix_append _ _

theorem requests_exchanges (setup : Setup) (frames : List Bytes) :
    Recording.requests (frames.flatMap setup.exchange) = frames := by
  induction frames with
  | nil => rfl
  | cons frame frames ih =>
      simp only [Recording.requests] at ih
      cases answer : setup.answer? frame <;>
        simp [Recording.requests, Setup.exchange, answer, ih]

theorem responses_exchanges (setup : Setup) (frames : List Bytes) :
    Recording.responses (frames.flatMap setup.exchange) = frames.filterMap setup.answer? := by
  induction frames with
  | nil => rfl
  | cons frame frames ih =>
      simp only [Recording.responses] at ih
      cases answer : setup.answer? frame <;>
        simp [Recording.responses, Setup.exchange, answer, ih]

theorem answer?_eq_some_iff {request : Request} {bytes : Bytes}
    (decoded : Request.decode frame = .ok request) :
    setup.answer? frame = some bytes ↔
      (setup.target = none ∨ setup.target = some request.target) ∧
        ((setup.answers.lookup request.operation).getD setup.fallback).resolve request =
          some bytes := by
  have addressed : setup.addresses request = true ↔
      setup.target = none ∨ setup.target = some request.target := by
    unfold addresses
    cases setup.target <;> simp
  rw [← addressed]
  simp only [answer?, decoded, answerTo]
  split
  · rename_i addressed
    simp only [addressed, true_and]
  · rename_i ignored
    simp only [ignored, Bool.false_eq_true, false_and, reduceCtorEq]

end Setup

theorem Layout.segment_prefix (layout : Layout) (front back : Bytes) :
    (layout.segment front).1 <+: (layout.segment (front ++ back)).1 := by
  rw [← Reassembler.feedAll_frames, ← Reassembler.feedAll_frames, Reassembler.feedAll_append]
  exact List.prefix_append _ _

theorem Layout.decode_of_mem_segment {stream frame : Bytes}
    (member : frame ∈ (Layout.request.segment stream).1) :
    ∃ request, Request.decode frame = .ok request :=
  Request.decode_of_isFrame ((Layout.request.isSegmentation_segment stream).complete frame member)

namespace Terminal

/-- A turn of the host is limited to a number of bytes. -/
inductive Move where
  | write (limit : Nat)
  | read (limit : Nat)
  | device
  /-- The turn is taken on another link. -/
  | elsewhere

/-- The host writes and reads again and again, and the device is not left out either. -/
structure Fair (schedule : Nat → Move) : Prop where
  write : ∀ now, ∃ later limit, now ≤ later ∧ 0 < limit ∧ schedule later = .write limit
  read : ∀ now, ∃ later limit, now ≤ later ∧ 0 < limit ∧ schedule later = .read limit
  device : ∀ now, ∃ later, now ≤ later ∧ schedule later = .device

theorem Fair.later {schedule : Nat → Move} (fair : Fair schedule) (since : Nat) :
    Fair fun now => schedule (since + now) := by
  constructor
  · intro now
    obtain ⟨later, limit, behind, some_byte, due⟩ := fair.write (since + now)
    exact ⟨later - since, limit, by omega, some_byte, by rwa [Nat.add_sub_of_le (by omega)]⟩
  · intro now
    obtain ⟨later, limit, behind, some_byte, due⟩ := fair.read (since + now)
    exact ⟨later - since, limit, by omega, some_byte, by rwa [Nat.add_sub_of_le (by omega)]⟩
  · intro now
    obtain ⟨later, behind, due⟩ := fair.device (since + now)
    exact ⟨later - since, by omega, by rwa [Nat.add_sub_of_le (by omega)]⟩

def start (setup : Setup) (pieces : List Bytes) : Terminal :=
  ⟨⟨pieces, []⟩, ⟨.fresh setup.capacity.val, []⟩⟩

def write (limit : Nat) (terminal : Terminal) : Terminal :=
  match terminal.host.unsent with
  | [] => terminal
  | piece :: later =>
      let link := terminal.service.link
      let flushed := Sender.flush ⟨piece⟩ (link.narrowed limit).hostLine none
      let unsent := if flushed.outcome.isSome then later else flushed.owner.pending :: later
      ⟨{ terminal.host with unsent },
        { terminal.service with link := link.afterNarrowed limit flushed.line }⟩

def read (limit : Nat) (terminal : Terminal) : Terminal :=
  let link := terminal.service.link
  ⟨{ terminal.host with received := terminal.host.received ++ link.toHost.take limit },
    { terminal.service with link := { link with toHost := link.toHost.drop limit } }⟩

def serve (setup : Setup) (terminal : Terminal) : Terminal :=
  { terminal with service := (terminal.service.step setup false).getD terminal.service }

def move (setup : Setup) (terminal : Terminal) : Move → Terminal
  | .write limit => terminal.write limit
  | .read limit => terminal.read limit
  | .device => terminal.serve setup
  | .elsewhere => terminal

/-- What goes out of pieces when there is so much room, and what is left of them. -/
def advance (room : Nat) : List Bytes → Bytes × List Bytes
  | [] => ([], [])
  | piece :: later =>
      (piece.take room, if piece.drop room = [] then later else piece.drop room :: later)

theorem advance_flatten (room : Nat) (pieces : List Bytes) :
    (advance room pieces).1 ++ (advance room pieces).2.flatten = pieces.flatten := by
  cases pieces with
  | nil => rfl
  | cons piece later =>
      have whole : piece.take room ++ piece.drop room = piece := List.take_append_drop room piece
      simp only [advance, List.flatten_cons]
      split
      · rename_i finished
        rw [finished, List.append_nil] at whole
        rw [whole]
      · rw [List.flatten_cons, ← List.append_assoc, whole]

theorem advance_cases (room : Nat) (pieces : List Bytes) :
    advance room pieces = ([], pieces) ∧ (pieces = [] ∨ room = 0) ∨
      (advance room pieces).2.length < pieces.length + (advance room pieces).1.length := by
  cases pieces with
  | nil => exact .inl ⟨rfl, .inl rfl⟩
  | cons piece later =>
      simp only [advance]
      split
      · refine .inr ?_
        simp only [List.length_cons]
        omega
      · rename_i more
        by_cases no_room : room = 0
        · refine .inl ⟨?_, .inr no_room⟩
          rw [no_room, List.take_zero, List.drop_zero]
        · have left : 0 < (piece.drop room).length := List.length_pos_iff.mpr more
          refine .inr ?_
          simp only [List.length_cons, List.length_take, List.length_drop] at left ⊢
          omega

variable {setup : Setup} {input written : Bytes} {handled : List Bytes} {terminal : Terminal}

theorem write_eq (limit : Nat) (deviceOpen : terminal.service.link.deviceOpen = true) :
    let link := terminal.service.link
    let advanced := advance (min link.hostRoom limit) terminal.host.unsent
    terminal.write limit = ⟨{ terminal.host with unsent := advanced.2 },
      { terminal.service with
        link := { link with toDevice := link.toDevice ++ advanced.1 } }⟩ := by
  obtain ⟨⟨unsent, received⟩, service⟩ := terminal
  cases unsent with
  | nil => simp only [write, advance, List.append_nil]
  | cons piece later =>
      obtain ⟨outcome, owner, after⟩ := Link.flush_narrowed ⟨piece⟩ limit deviceOpen
      simp only [write, advance, outcome, owner, after]
      split
      · rfl
      · rfl

/-- How far host and device have come, with `written` of all the `input` that the host has for the
device. -/
structure Lawful (setup : Setup) (input written : Bytes) (handled : List Bytes)
    (terminal : Terminal) : Prop where
  served : Served setup written (terminal.host.received ++ terminal.service.link.toHost) handled
    terminal.service
  roomy : 0 < terminal.service.link.capacity
  input_eq : written ++ terminal.host.unsent.flatten = input

theorem lawful_start (setup : Setup) (pieces : List Bytes) :
    Lawful setup pieces.flatten [] [] (start setup pieces) :=
  ⟨Served.fresh setup _, setup.capacity.property, rfl⟩

/-- How many things have happened, and how many still can. -/
def progress (written : Bytes) (terminal : Terminal) : Nat :=
  3 * written.length + terminal.service.log.length + 2 * terminal.host.received.length +
    terminal.service.link.toHost.length

def remaining (terminal : Terminal) : Nat :=
  terminal.service.link.backlog + terminal.host.unsent.length

/-- More than that cannot happen. -/
def limit (setup : Setup) (input : Bytes) : Nat :=
  3 * input.length + (setup.recording input).length + 2 * (setup.output input).length

/-- Something happens, and all that can be said of a terminal can still be said. -/
structure Advances (setup : Setup) (input written : Bytes) (terminal : Terminal)
    (gained : Bytes) (taken : List Bytes) (after : Terminal) : Prop where
  lawful : Lawful setup input gained taken after
  further : progress written terminal + after.remaining < progress gained after + terminal.remaining

namespace Lawful

theorem handled_prefix (lawful : Lawful setup input written handled terminal) :
    handled <+: (Layout.request.segment written).1 := by
  obtain ⟨fed, split, fedAll⟩ := lawful.served.takes
  have frames : handled = (Layout.request.segment fed).1 := by
    rw [← Reassembler.feedAll_frames, fedAll]
  rw [frames, split]
  exact Layout.request.segment_prefix fed _

theorem received_prefix (lawful : Lawful setup input written handled terminal) :
    terminal.host.received ++ terminal.service.link.toHost <+: setup.output written :=
  List.IsPrefix.trans ⟨_, lawful.served.answers⟩ (setup.answers_prefix lawful.handled_prefix)

theorem log_prefix (lawful : Lawful setup input written handled terminal) :
    terminal.service.log.reverse <+: setup.recording written :=
  List.IsPrefix.trans ⟨_, lawful.served.logs⟩ (setup.exchanges_prefix lawful.handled_prefix)

theorem progress_le (lawful : Lawful setup input written handled terminal) :
    progress written terminal ≤ limit setup input := by
  have begins : (Layout.request.segment written).1 <+: (Layout.request.segment input).1 := by
    rw [← lawful.input_eq]
    exact Layout.request.segment_prefix written _
  have length := congrArg List.length lawful.input_eq
  have received := (lawful.received_prefix.trans (setup.answers_prefix begins)).length_le
  have logged := (lawful.log_prefix.trans (setup.exchanges_prefix begins)).length_le
  simp only [List.length_append, List.length_reverse] at length received logged
  simp only [progress, limit, Setup.output, Setup.recording]
  omega

theorem write (lawful : Lawful setup input written handled terminal) (limit : Nat) :
    terminal.write limit = terminal ∧
        (0 < limit → terminal.host.unsent = [] ∨ terminal.service.link.hostRoom = 0) ∨
      ∃ gained, Advances setup input written terminal gained handled (terminal.write limit) := by
  rw [write_eq limit lawful.served.deviceOpen]
  let room := min terminal.service.link.hostRoom limit
  have whole := advance_flatten room terminal.host.unsent
  rcases advance_cases room terminal.host.unsent with ⟨same, stuck⟩ | moved
  · refine .inl ⟨?_, ?_⟩
    · simp only [room] at same
      simp only [same, List.append_nil]
    · intro some_byte
      apply stuck.imp_right
      intro no_room
      simp only [room] at no_room
      omega
  · let part := (advance room terminal.host.unsent).1
    refine .inr ⟨written ++ part, ⟨lawful.served.hostWrites part, lawful.roomy, ?_⟩, ?_⟩
    · rw [← lawful.input_eq, ← whole, List.append_assoc]
    · simp only [progress, remaining, Link.backlog, List.length_append, part, room] at moved ⊢
      omega

theorem read (lawful : Lawful setup input written handled terminal) (limit : Nat) :
    terminal.read limit = terminal ∧ (0 < limit → terminal.service.link.toHost = []) ∨
      ∃ gained, Advances setup input written terminal gained handled (terminal.read limit) := by
  by_cases nothing : terminal.service.link.toHost.take limit = []
  · refine .inl ⟨?_, ?_⟩
    · have same := List.take_append_drop limit terminal.service.link.toHost
      rw [nothing, List.nil_append] at same
      simp only [Terminal.read, nothing, same, List.append_nil]
    · intro some_byte
      rcases List.take_eq_nil_iff.mp nothing with no_byte | silent
      · omega
      · exact silent
  · have positive := List.length_pos_iff.mpr nothing
    refine .inr ⟨written, ⟨?_, lawful.roomy, lawful.input_eq⟩, ?_⟩
    · have served := lawful.served.hostReads (terminal.service.link.toHost.drop limit)
      simpa only [Terminal.read, List.append_assoc, List.take_append_drop] using served
    · simp only [progress, remaining, Terminal.read, Link.backlog, List.length_append,
        List.length_take, List.length_drop] at positive ⊢
      omega

theorem serve (lawful : Lawful setup input written handled terminal) :
    terminal.serve setup = terminal ∧ terminal.service.link.step setup false = none ∨
      ∃ taken, Advances setup input written terminal written taken (terminal.serve setup) := by
  cases did : terminal.service.step setup false with
  | none =>
      refine .inl ⟨?_, Option.map_eq_none_iff.mp did⟩
      simp only [Terminal.serve, did, Option.getD_none]
  | some after =>
      obtain ⟨piece, taken, adds⟩ := lawful.served.step did
      simp only [Terminal.serve, did, Option.getD_some]
      refine .inr ⟨handled ++ taken, ⟨?_, ?_, lawful.input_eq⟩, ?_⟩
      · have served := adds.served
        rw [List.append_assoc, ← adds.toHost_eq] at served
        exact served
      · rw [adds.capacity_eq]
        exact lawful.roomy
      · have advances := adds.advances
        have written := congrArg List.length adds.toHost_eq
        simp only [List.length_append] at written
        simp only [progress, remaining]
        omega

end Lawful

/-- What can still happen takes no more than so much effort. -/
def Due (setup : Setup) (input : Bytes) (effort : Nat) (terminal : Terminal) : Prop :=
  ∃ written handled, Lawful setup input written handled terminal ∧
    effort + progress written terminal = limit setup input + terminal.remaining

variable {effort : Nat} {schedule : Nat → Move}

theorem Advances.spends {gained : Bytes} {taken : List Bytes} {after : Terminal}
    (advances : Advances setup input written terminal gained taken after)
    (enough : effort + progress written terminal = limit setup input + terminal.remaining) :
    ∃ less, less < effort ∧ Due setup input less after := by
  have further := advances.further
  have within := advances.lawful.progress_le
  refine ⟨limit setup input + after.remaining - progress gained after, by omega, gained, taken,
    advances.lawful, by omega⟩

theorem due_spends (setup : Setup) (input : Bytes) : Spends (move setup) (Due setup input) := by
  rintro effort terminal due ⟨written, handled, lawful, enough⟩
  cases due with
  | write limit =>
      rcases lawful.write limit with ⟨same, _⟩ | ⟨gained, advances⟩
      · exact .inl same
      · exact .inr (advances.spends enough)
  | read limit =>
      rcases lawful.read limit with ⟨same, _⟩ | ⟨gained, advances⟩
      · exact .inl same
      · exact .inr (advances.spends enough)
  | device =>
      rcases lawful.serve with ⟨same, _⟩ | ⟨taken, advances⟩
      · exact .inl same
      · exact .inr (advances.spends enough)
  | elsewhere => exact .inl rfl

theorem due_start (setup : Setup) (pieces : List Bytes) :
    ∃ effort, Due setup pieces.flatten effort (start setup pieces) :=
  ⟨limit setup pieces.flatten + (start setup pieces).remaining, [], [], lawful_start setup pieces,
    rfl⟩

/-- Everything is written, answered and read. -/
structure Finished (setup : Setup) (input : Bytes) (terminal : Terminal) : Prop where
  idle : terminal.service.link.Idle setup
  unsent_eq : terminal.host.unsent = []
  log_eq : terminal.service.log.reverse = setup.recording input
  received_eq : terminal.host.received = setup.output input

namespace Lawful

theorem of_idle (lawful : Lawful setup input written handled terminal)
    (idle : terminal.service.link.Idle setup) :
    terminal.service.log.reverse = setup.recording written ∧
      terminal.host.received ++ terminal.service.link.toHost = setup.output written := by
  rcases Link.waits_cases lawful.served.hostOpen lawful.served.deviceOpen idle.waits with
    ⟨unwritten, _⟩ | ⟨quiet, nothing, used⟩
  · exact absurd (by simp [Link.unwritten, idle.unwritten]) unwritten
  · obtain ⟨fed, emitted, logged⟩ := lawful.served.of_idle quiet nothing used
    have frames : (Layout.request.segment written).1 = handled := by
      rw [← Reassembler.feedAll_frames, fed]
    rw [Setup.recording, Setup.output, frames]
    exact ⟨logged, emitted⟩

theorem idle (lawful : Lawful setup input written handled terminal)
    (heard : terminal.service.link.toHost = [])
    (waits : terminal.service.link.step setup false = none) :
    terminal.service.link.Idle setup ∧ terminal.service.link.toDevice = [] := by
  have roomy := lawful.roomy
  rcases Link.waits_cases lawful.served.hostOpen lawful.served.deviceOpen waits with
    ⟨_, no_room⟩ | ⟨quiet, nothing, _⟩
  · simp only [Link.room, heard, List.length_nil] at no_room
    omega
  · exact ⟨⟨waits, quiet⟩, nothing⟩

theorem finished (lawful : Lawful setup input written handled terminal)
    (stuck : terminal.host.unsent = [] ∨ terminal.service.link.hostRoom = 0)
    (heard : terminal.service.link.toHost = [])
    (waits : terminal.service.link.step setup false = none) : Finished setup input terminal := by
  have roomy := lawful.roomy
  obtain ⟨idle, nothing⟩ := lawful.idle heard waits
  have unsent : terminal.host.unsent = [] := by
    rcases stuck with unsent | no_room
    · exact unsent
    · simp only [Link.hostRoom, nothing, List.length_nil] at no_room
      omega
  have all := lawful.input_eq
  rw [unsent, List.flatten_nil, List.append_nil] at all
  obtain ⟨logged, received⟩ := lawful.of_idle idle
  rw [heard, List.append_nil] at received
  rw [all] at logged received
  exact ⟨idle, unsent, logged, received⟩

end Lawful

theorem finishes (due : Due setup input effort terminal) (fair : Fair schedule) :
    ∃ finish, ∀ now, finish ≤ now →
      Finished setup input (afterTurns (move setup) schedule terminal now) := by
  let reached := afterTurns (move setup) schedule terminal
  have initially : Due setup input effort (reached 0) := due
  obtain ⟨rest, least, ⟨written, handled, lawful, enough⟩, still⟩ :=
    comes_to_rest (due_spends setup input) initially
  -- At rest no effort can be spent, so whoever has a turn then has nothing to do.
  have spent {gained : Bytes} {taken : List Bytes} {now : Nat} (behind : rest ≤ now)
      (advances : Advances setup input written (reached rest) gained taken
        (move setup (reached rest) (schedule now))) : False := by
    obtain ⟨less, below, more⟩ := advances.spends enough
    exact (still now behind).2 less below more
  have stuck : (reached rest).host.unsent = [] ∨ (reached rest).service.link.hostRoom = 0 := by
    obtain ⟨later, limit, behind, some_byte, due⟩ := fair.write rest
    rcases lawful.write limit with ⟨_, stuck⟩ | ⟨gained, advances⟩
    · exact stuck some_byte
    · exact absurd (by rwa [due]) (spent behind)
  have heard : (reached rest).service.link.toHost = [] := by
    obtain ⟨later, limit, behind, some_byte, due⟩ := fair.read rest
    rcases lawful.read limit with ⟨_, heard⟩ | ⟨gained, advances⟩
    · exact heard some_byte
    · exact absurd (by rwa [due]) (spent behind)
  have waits : (reached rest).service.link.step setup false = none := by
    obtain ⟨later, behind, due⟩ := fair.device rest
    rcases lawful.serve with ⟨_, waits⟩ | ⟨taken, advances⟩
    · exact waits
    · exact absurd (by rwa [due]) (spent behind)
  refine ⟨rest, ?_⟩
  intro now behind
  rw [(still now behind).1]
  exact lawful.finished stuck heard waits

/-- Whatever the host writes and however it cuts it, whoever has the next turn, whatever a link
holds and in whatever pieces the answers come: the device logs the frames that the bytes make up,
each with its answer behind it if it has one, and the host reads the answers one after the other. -/
theorem frames_answered (setup : Setup) (pieceSize : Option { size : Nat // 0 < size })
    (capacity : { size : Nat // 0 < size }) (pieces : List Bytes) (schedule : Nat → Move) :
    let configured := { setup with pieceSize, capacity }
    let terminal := afterTurns (move configured) schedule (start configured pieces)
    let frames (stream : Bytes) := (Layout.request.segment stream).1
    (∀ frame ∈ frames pieces.flatten, ∃ request, Request.decode frame = .ok request ∧
      ∀ bytes, setup.answer? frame = some bytes ↔
        (setup.target = none ∨ setup.target = some request.target) ∧
          ((setup.answers.lookup request.operation).getD setup.fallback).resolve request =
            some bytes) ∧
      (∀ now, ∃ written, written ++ (terminal now).host.unsent.flatten = pieces.flatten ∧
        (terminal now).service.log.reverse <+: (frames written).flatMap setup.exchange ∧
        (terminal now).host.received <+: ((frames written).filterMap setup.answer?).flatten ∧
        ((terminal now).service.link.Idle configured →
          (terminal now).service.log.reverse = (frames written).flatMap setup.exchange ∧
            (terminal now).host.received ++ (terminal now).service.link.toHost =
              ((frames written).filterMap setup.answer?).flatten)) ∧
      (Fair schedule → ∃ finish, ∀ now, finish ≤ now →
        (terminal now).service.link.Idle configured ∧ (terminal now).host.unsent = [] ∧
          (terminal now).service.log.reverse = (frames pieces.flatten).flatMap setup.exchange ∧
          (terminal now).host.received =
            ((frames pieces.flatten).filterMap setup.answer?).flatten ∧
          Recording.requests (terminal now).service.log.reverse = frames pieces.flatten ∧
          Recording.responseStream (terminal now).service.log.reverse =
            (terminal now).host.received) := by
  intro configured terminal frames
  obtain ⟨effort, due⟩ := due_start configured pieces
  refine ⟨?_, ?_, ?_⟩
  · intro frame member
    obtain ⟨request, decoded⟩ := Layout.decode_of_mem_segment member
    exact ⟨request, decoded, fun bytes => setup.answer?_eq_some_iff decoded⟩
  · intro now
    have kept : ∃ left, Due configured pieces.flatten left (terminal now) :=
      (due_spends configured pieces.flatten).keeps due now
    obtain ⟨_, written, handled, lawful, _⟩ := kept
    refine ⟨written, lawful.input_eq, lawful.log_prefix, ?_, lawful.of_idle⟩
    exact List.IsPrefix.trans (List.prefix_append _ _) lawful.received_prefix
  · intro fair
    obtain ⟨finish, finished⟩ := finishes due fair
    refine ⟨finish, ?_⟩
    intro now behind
    obtain ⟨idle, unsent, logged, received⟩ := finished now behind
    refine ⟨idle, unsent, logged, received, ?_, ?_⟩
    · rw [logged]
      exact configured.requests_exchanges _
    · rw [logged, received, Recording.responseStream]
      exact congrArg List.flatten (configured.responses_exchanges _)

def roundRobin (now : Nat) : Move :=
  if now % 3 = 0 then .write 2 else if now % 3 = 1 then .read 1 else .device

theorem fair_roundRobin : Fair roundRobin := by
  constructor
  · intro now
    exact ⟨3 * now, 2, by omega, by omega, if_pos (by omega)⟩
  · intro now
    refine ⟨3 * now + 1, 1, by omega, Nat.one_pos, ?_⟩
    rw [roundRobin, if_neg (by omega), if_pos (by omega)]
  · intro now
    refine ⟨3 * now + 2, by omega, ?_⟩
    rw [roundRobin, if_neg (by omega), if_neg (by omega)]

/-- Answers of all kinds on a link that holds a byte, to requests that are cut inside their headers.
The fourth is for somebody else, and the last is not complete. -/
theorem frames_answered_by_bytes :
    let setup : Setup := ⟨[(1, .echo), (2, .raw [9, 9, 9]), (3, .silent)], .raw [], some 1, none,
      ⟨1024, by decide⟩⟩
    let configured := { setup with pieceSize := some ⟨2, by decide⟩, capacity := ⟨1, by decide⟩ }
    let pieces : List Bytes :=
      [[1, 1, 2], [0, 7, 8, 1], [], [2, 0, 0, 1, 3, 0, 0, 5, 1, 0, 0], [1, 4, 0, 0, 1, 9]]
    let terminal := afterTurns (move configured) roundRobin (start configured pieces)
    Fair roundRobin ∧ ∃ finish, ∀ now, finish ≤ now →
      (terminal now).service.log.reverse =
          [⟨false, [1, 1, 2, 0, 7, 8]⟩, ⟨true, [0, 2, 0, 7, 8]⟩, ⟨false, [1, 2, 0, 0]⟩,
            ⟨true, [9, 9, 9]⟩, ⟨false, [1, 3, 0, 0]⟩, ⟨false, [5, 1, 0, 0]⟩,
            ⟨false, [1, 4, 0, 0]⟩, ⟨true, []⟩] ∧
        (terminal now).host.received = [0, 2, 0, 7, 8, 9, 9, 9] := by
  intro setup configured pieces terminal
  obtain ⟨_, _, finishing⟩ := frames_answered setup (some ⟨2, by decide⟩) ⟨1, by decide⟩ pieces
    roundRobin
  obtain ⟨finish, finished⟩ := finishing fair_roundRobin
  have cut : (Layout.request.segment pieces.flatten).1 =
      [[1, 1, 2, 0, 7, 8], [1, 2, 0, 0], [1, 3, 0, 0], [5, 1, 0, 0], [1, 4, 0, 0]] := by
    rw [← Reassembler.feedAll_frames]
    rfl
  refine ⟨fair_roundRobin, finish, ?_⟩
  intro now behind
  obtain ⟨_, _, logged, received, _⟩ := finished now behind
  simp only [cut] at logged received
  exact ⟨logged, received⟩

end Terminal

end SerialLink
