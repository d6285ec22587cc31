import SerialLink.Proofs.Line.Reports
import SerialLink.Proofs.Sending

namespace SerialLink

/-! When a connection says that its line is closed.

It says so when a read of that very call has come to the end of the stream, and once more behind every
failed read, when no read has come to anything.
-/

namespace Connection

variable {connection after : Connection} {line later : Line}

/-- What the reads of a call come back with, if it is one that gets to read. -/
def Call.reports? (state : Connection × Line) (call : Call × Deadline) :
    Option (List Line.Report) :=
  match call.1 with
  | .sendRequest _ | .recordTimeout => none
  | .readFrame | .readResponse => some (state.1.receiver.reports state.2 call.2)
  | .request wanted =>
      let sent := state.1.sendRequest wanted state.2 call.2
      match sent.outcome with
      | some (.ok ()) => some (sent.owner.receiver.reports sent.line call.2)
      | _ => none

def observing (state : Connection × Line) (call : Call × Deadline) :
    (Reply × Option (List Line.Report)) × (Connection × Line) :=
  (((perform state call).1, Call.reports? state call), (perform state call).2)

/-- The last call that got to read has reported a failed read. -/
def FailedLast (entries : List ((Call × Deadline) × (Reply × Option (List Line.Report)))) : Prop :=
  ∃ reports, (entries.filterMap (·.2.2)).getLast? = some reports ∧ ∃ kind, .failed kind ∈ reports

structure Heard (connection : Connection) (line : Line) (reports : Option (List Line.Report))
    (after : Connection) (later : Line) : Prop where
  hangs : later.readsHang = line.readsHang
  script : Line.Reports line.readsHang line.reads (reports.getD []) later.reads
  unread : reports = none → after.receiver = connection.receiver
  failed_iff : ∀ heard, reports = some heard →
    (after.receiver.failed = true ↔ ∃ kind, .failed kind ∈ heard)

theorem readFrame_heard (connection : Connection) (line : Line) (deadline : Deadline) :
    let read := connection.readFrame line deadline
    Heard connection line (some (connection.receiver.reports line deadline)) read.owner
      read.line := by
  obtain ⟨script, failed_iff⟩ := connection.receiver.next_reports line deadline
  refine ⟨?_, script, by simp, ?_⟩
  · obtain ⟨clock, reads, read⟩ := connection.receiver.next_line line deadline
    simp only [readFrame, read]
  · rintro heard ⟨rfl⟩
    exact failed_iff

theorem readResponse_heard (connection : Connection) (line : Line) (deadline : Deadline) :
    let response := connection.readResponse line deadline
    Heard connection line (some (connection.receiver.reports line deadline)) response.owner
      response.line := by
  obtain ⟨hangs, script, _, failed_iff⟩ := connection.readFrame_heard line deadline
  obtain ⟨_, receiver, same⟩ := connection.readResponse_readFrame line deadline
  simp only
  rw [← receiver] at failed_iff
  rw [← same] at hangs script
  exact ⟨hangs, script, by simp, failed_iff⟩

theorem sendRequest_heard (connection : Connection) (request : Request) (line : Line)
    (deadline : Deadline) :
    let sent := connection.sendRequest request line deadline
    Heard connection line none sent.owner sent.line := by
  obtain ⟨clock, writes, written, sent⟩ := connection.sender.send_line request.encode line deadline
  simp only [sendRequest_eq, sent]
  exact ⟨rfl, .unread line.reads, fun _ => rfl, by simp⟩

theorem perform_heard (state : Connection × Line) (call : Call × Deadline) :
    Heard state.1 state.2 (Call.reports? state call) (perform state call).2.1
      (perform state call).2.2 := by
  obtain ⟨connection, line⟩ := state
  obtain ⟨call, deadline⟩ := call
  cases call with
  | sendRequest wanted => exact connection.sendRequest_heard wanted line deadline
  | readFrame => exact connection.readFrame_heard line deadline
  | readResponse => exact connection.readResponse_heard line deadline
  | request wanted =>
      have sent := connection.sendRequest_heard wanted line deadline
      simp only [perform, Call.reports?, Connection.request]
      rcases outcome : (connection.sendRequest wanted line deadline).outcome with _ | error | done
      · exact sent
      · exact sent
      · obtain ⟨hangs, script, _, failed_iff⟩ :=
          (connection.sendRequest wanted line deadline).owner.readResponse_heard
            (connection.sendRequest wanted line deadline).line deadline
        rw [sent.hangs] at hangs script
        exact ⟨hangs, sent.script.trans script, by simp, failed_iff⟩
  | recordTimeout =>
      refine ⟨rfl, .unread line.reads, fun _ => rfl, ?_⟩
      intro heard read
      cases read

/-- What calls have heard of a line.  A connection remembers a failure until the next call that reads. -/
structure Followed (line : Line)
    (entries : List ((Call × Deadline) × (Reply × Option (List Line.Report))))
    (state : Connection × Line) : Prop where
  sound : state.1.Sound
  hangs : state.2.readsHang = line.readsHang
  script : Line.Reports line.readsHang line.reads (entries.filterMap (·.2.2)).flatten state.2.reads
  failed_iff : state.1.receiver.failed = true ↔ FailedLast entries

theorem followed_start (line : Line) : Followed line [] (start, line) :=
  ⟨sound_start, rfl, .unread line.reads, by simp [FailedLast, start, Receiver.start]⟩

theorem Followed.step {state : Connection × Line}
    {entries : List ((Call × Deadline) × (Reply × Option (List Line.Report)))}
    (followed : Followed line entries state) (call : Call × Deadline) :
    Followed line (entries ++ [(call, (observing state call).1)]) (observing state call).2 := by
  obtain ⟨sound, hangs, script, failed_iff⟩ := followed
  have heard := perform_heard state call
  have kept := (sound.perform call).2
  have following : Line.Reports line.readsHang state.2.reads ((Call.reports? state call).getD [])
      (perform state call).2.2.reads := by
    rw [← hangs]
    exact heard.script
  refine ⟨kept, heard.hangs.trans hangs, ?_, ?_⟩
  · have joined := script.trans following
    cases found : Call.reports? state call with
    | none => simpa [observing, found] using joined
    | some reports => simpa [observing, found] using joined
  · cases found : Call.reports? state call with
    | none => simpa [observing, FailedLast, found, heard.unread found] using failed_iff
    | some reports => simpa [observing, FailedLast, found] using heard.failed_iff reports found

theorem followed_history (line : Line) (calls : List (Call × Deadline)) :
    let run := history observing (start, line) calls
    Followed line run.1 run.2 :=
  history_induction (motive := Followed line)
    (fun _ _ call followed => Followed.step followed call) (followed_start line) calls

theorem frameOf_eq_none_iff {isPartial : Bool} {delivery : Delivery} :
    frameOf isPartial delivery = .ok none ↔ delivery = .ended ∧ isPartial = false := by
  cases delivery with
  | frame bytes => simp [frameOf]
  | failed fault => simp [frameOf]
  | ended => cases isPartial <;> simp [frameOf]

theorem frameOf_eq_closed_iff {isPartial : Bool} {delivery : Delivery} :
    frameOf isPartial delivery = .error .closed ↔ delivery = .ended ∧ isPartial = true := by
  cases delivery with
  | frame bytes => simp [frameOf]
  | failed fault => simp [frameOf]
  | ended => cases isPartial <;> simp [frameOf]

/-- With no failure left to speak of, what is said of the end is what a read has come to. -/
theorem readFrame_ended (live : connection.receiver.failed = false) (line : Line)
    (deadline : Deadline) :
    let reports := connection.receiver.reports line deadline
    let read := connection.readFrame line deadline
    (read.outcome = some (.ok none) ↔ .ended ∈ reports ∧ read.owner.hasPartial = false) ∧
      (read.outcome = some (.error .closed) ↔ .ended ∈ reports ∧ read.owner.hasPartial = true) := by
  intro reports read
  have ended_iff := (Receiver.next_reporting live line deadline).ended_iff
  rw [← ended_iff]
  simp only [read, readFrame, Option.map_eq_some_iff, frameOf_eq_none_iff, frameOf_eq_closed_iff]
  constructor
  · constructor
    · rintro ⟨delivery, found, rfl, outside⟩
      exact ⟨found, outside⟩
    · rintro ⟨found, outside⟩
      exact ⟨.ended, found, rfl, outside⟩
  · constructor
    · rintro ⟨delivery, found, rfl, inside⟩
      exact ⟨found, inside⟩
    · rintro ⟨found, inside⟩
      exact ⟨.ended, found, rfl, inside⟩

theorem readFrame_of_failed (failed : connection.receiver.failed = true) (line : Line)
    (deadline : Deadline) :
    connection.receiver.reports line deadline = [] ∧
      connection.readFrame line deadline =
        ⟨some (if connection.hasPartial then .error .closed else .ok none),
          { connection with receiver := { connection.receiver with failed := false } }, line⟩ := by
  obtain ⟨same, silent⟩ := Receiver.next_of_failed failed line deadline
  refine ⟨silent, ?_⟩
  rw [readFrame, same]
  rfl

/-- One more read behind any calls at all on a fresh connection. -/
theorem history_closing (line : Line) (calls : List (Call × Deadline)) (deadline : Deadline) :
    let run := history observing (start, line) calls
    let connection := run.2.1
    let now := run.2.2
    let reports := connection.receiver.reports now deadline
    let frame := connection.readFrame now deadline
    let response := connection.readResponse now deadline
    Line.Reports line.readsHang line.reads ((run.1.filterMap (·.2.2)).flatten ++ reports)
        frame.line.reads ∧
      Line.Reports line.readsHang now.reads reports frame.line.reads ∧
      response.outcome = frame.outcome.map responseOf ∧
      (response.outcome = some (.ok none) ↔ frame.outcome = some (.ok none)) ∧
      (response.outcome = some (.error .closed) ↔ frame.outcome = some (.error .closed)) ∧
      (¬ FailedLast run.1 →
        (frame.outcome = some (.ok none) ↔ .ended ∈ reports ∧ frame.owner.hasPartial = false) ∧
        (frame.outcome = some (.error .closed) ↔
          .ended ∈ reports ∧ frame.owner.hasPartial = true) ∧
        ∀ front rest first more, now.reads = front ++ rest →
          (∀ action ∈ front, action.brings = true) →
          (connection.receiver.reassembler.feedAll
            (connection.receiver.buffer ++ Line.delivered front)).1 = first :: more →
          (deadline = none → frame.outcome.isSome) ∧
            ∀ reply, frame.outcome = some reply → reply = .ok (some first)) ∧
      (FailedLast run.1 → reports = [] ∧
        frame = ⟨some (if connection.hasPartial then .error .closed else .ok none),
          { connection with receiver := { connection.receiver with failed := false } }, now⟩) := by
  intro run connection now reports frame response
  obtain ⟨sound, hangs, script, failed_iff⟩ := followed_history line calls
  have last : Line.Reports line.readsHang now.reads reports frame.line.reads := by
    rw [← hangs]
    exact (connection.receiver.next_reports now deadline).1
  obtain ⟨outcome, _, _⟩ := connection.readResponse_readFrame now deadline
  have answered : response.outcome = frame.outcome.map responseOf := outcome
  refine ⟨script.trans last, last, answered, ?_, ?_, ?_, ?_⟩
  · rw [answered]
    simp only [Option.map_eq_some_iff, responseOf_eq_none_iff, exists_eq_right]
  · rw [answered]
    simp only [Option.map_eq_some_iff, responseOf_eq_closed_iff, exists_eq_right]
  · intro quiet
    have live : connection.receiver.failed = false :=
      Bool.eq_false_iff.mpr fun failed => quiet (failed_iff.mp failed)
    obtain ⟨none_iff, closed_iff⟩ := readFrame_ended live now deadline
    refine ⟨none_iff, closed_iff, ?_⟩
    intro front rest first more ahead bringing completed
    obtain ⟨given, same⟩ :=
      Receiver.next_completes sound.settled live ahead bringing completed deadline
    refine ⟨?_, ?_⟩
    · intro patient
      rw [show frame.outcome.isSome = _ from Option.isSome_map]
      exact given patient
    · intro reply found
      obtain ⟨delivery, handed, rfl⟩ := Option.map_eq_some_iff.mp found
      rw [same delivery handed, frameOf]
  · intro failed
    exact readFrame_of_failed (failed_iff.mpr failed) now deadline

/-- The line fails once and then brings a whole frame.  The call behind the failure says that the line
is closed, and the call behind that returns the frame. -/
theorem closing_after_failure :
    let reading (reads : List ReadAction) :=
      (history observing (start, Line.ofScript reads false [])
        (List.replicate 3 (.readFrame, none))).1.map (·.2)
    reading [.fail .timedOut, .data [5, 0, 0]] =
        [(.frame (some (.error (.line (.ofKind .timedOut)))), some [.failed .timedOut]),
          (.frame (some (.ok none)), some []),
          (.frame (some (.ok (some [5, 0, 0]))), some [.brought [5, 0, 0]])] ∧
      reading [.data [5, 2], .fail .timedOut, .data [0, 1, 2]] =
        [(.frame (some (.error (.line (.ofKind .timedOut)))),
            some [.brought [5, 2], .failed .timedOut]),
          (.frame (some (.error .closed)), some []),
          (.frame (some (.ok (some [5, 2, 0, 1, 2]))), some [.brought [0, 1, 2]])] := by
  constructor
  · rfl
  · rfl

end Connection

end SerialLink
