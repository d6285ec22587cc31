import SerialLink.Line.Sender

namespace SerialLink

/-! One operation of a sender, held against the script of its line.

An operation takes the bytes that were pending, and those of the frame if it is accepted, and gives
the first of them to the line.  How far it has come at a given write shows on a line that falls silent
behind that write: the same operation begins in the same way there.
-/

namespace Line

/-- The same line, with more writes behind its last one. -/
def resume (line : Line) (writes : List WriteAction) (hangs : Bool) : Line :=
  { line with writes := line.writes ++ writes, writesHang := hangs }

end Line

namespace Sender

variable {sender : Sender} {line : Line} {frame front back : Bytes} {deadline : Deadline}

/-- A write that ends early, for whatever reason, leaves something pending. -/
theorem push_contract (deadline : Deadline) (hangs : Bool) (pending : Bytes) (clock : Clock)
    (writes : List WriteAction) :
    let pushed := push deadline hangs pending clock writes
    pushed.taken ++ pushed.pending = pending ∧
      (pushed.outcome = some (.ok ()) ↔ pushed.pending = []) := by
  fun_induction push deadline hangs pending clock writes with
  | case1 => simp
  | case2 => simp
  | case3 => simp
  | case4 => simp
  | case5 byte bytes clock count rest some_room ih =>
      obtain ⟨conserved, finished⟩ := ih
      refine ⟨?_, finished⟩
      rw [Pushed.after, List.append_assoc, conserved, List.take_append_drop]
  | case6 => simp
  | case7 byte bytes clock milliseconds begun rest later passed ih => exact ih
  | case8 => simp

/-- What an operation has done with the bytes it found pending and those it accepted. -/
def Moves (sender : Sender) (line : Line) (accepted : Bytes)
    (attempt : Attempt (Except LinkError Unit) Sender) : Prop :=
  ∃ taken, attempt.line.written = line.written ++ taken ∧
    taken ++ attempt.owner.pending = sender.pending ++ accepted

theorem Moves.trans {first second : Attempt (Except LinkError Unit) Sender}
    (moves : Moves sender line front first)
    (next : Moves first.owner first.line back second) :
    Moves sender line (front ++ back) second := by
  obtain ⟨taken, written, conserved⟩ := moves
  obtain ⟨more, writtenMore, conservedMore⟩ := next
  refine ⟨taken ++ more, ?_, ?_⟩
  · rw [writtenMore, written, List.append_assoc]
  · rw [List.append_assoc, conservedMore, ← List.append_assoc, conserved, List.append_assoc]

theorem flush_moves (sender : Sender) (line : Line) (deadline : Deadline) :
    Moves sender line [] (sender.flush line deadline) := by
  obtain ⟨conserved, _⟩ :=
    push_contract deadline line.writesHang sender.pending line.clock line.writes
  exact ⟨_, rfl, conserved.trans (List.append_nil _).symm⟩

theorem flush_ok_iff : (sender.flush line deadline).outcome = some (.ok ()) ↔
    (sender.flush line deadline).owner.pending = [] := by
  obtain ⟨_, finished⟩ :=
    push_contract deadline line.writesHang sender.pending line.clock line.writes
  simp only [flush]
  rw [← finished]
  cases (push deadline line.writesHang sender.pending line.clock line.writes).outcome with
  | none => simp
  | some result =>
      cases result with
      | ok done => exact ⟨fun _ => rfl, fun _ => rfl⟩
      | error fault =>
          constructor
          · intro same
            cases same
          · intro same
            cases same

def accepts (sender : Sender) (frame : Bytes) (line : Line) (deadline : Deadline) : Bool :=
  match (sender.feed frame line deadline).outcome with
  | some (.ok ()) => true
  | _ => false

theorem accepts_iff : sender.accepts frame line deadline = true ↔
    (sender.feed frame line deadline).outcome = some (.ok ()) := by
  unfold accepts
  split
  · simp [*]
  · rename_i refused
    simpa using refused

theorem accepts_of_pending_nil (nothing : sender.pending = []) :
    sender.accepts frame line deadline = true := by
  have room : sender.pending.length < boundary := by simp [nothing, boundary]
  rw [accepts_iff, feed, if_pos room]

theorem feed_moves (sender : Sender) (frame : Bytes) (line : Line) (deadline : Deadline) :
    Moves sender line (if sender.accepts frame line deadline then frame else [])
      (sender.feed frame line deadline) := by
  by_cases room : sender.pending.length < boundary
  · have same : sender.feed frame line deadline = ⟨some (.ok ()), sender.accept frame, line⟩ :=
      if_pos room
    have accepted : sender.accepts frame line deadline = true := by rw [accepts_iff, same]
    rw [accepted, same]
    exact ⟨[], (List.append_nil _).symm, rfl⟩
  · have flushed := flush_moves sender line deadline
    have same : sender.feed frame line deadline =
        match (sender.flush line deadline).outcome with
        | some (.ok ()) => (sender.flush line deadline).mapOwner (·.accept frame)
        | _ => sender.flush line deadline := if_neg room
    by_cases done : (sender.flush line deadline).outcome = some (.ok ())
    · simp only [done] at same
      have accepted : sender.accepts frame line deadline = true := by
        rw [accepts_iff, same]
        exact done
      rw [accepted, same]
      obtain ⟨taken, written, conserved⟩ := flushed
      refine ⟨taken, written, ?_⟩
      rw [List.append_nil] at conserved
      rw [if_pos rfl, ← conserved, List.append_assoc]
      rfl
    · have unchanged : sender.feed frame line deadline = sender.flush line deadline := by
        rw [same]
        split
        · rename_i finished
          exact absurd finished done
        · rfl
      have refused : ¬ sender.accepts frame line deadline = true := by
        rw [accepts_iff, unchanged]
        exact done
      rw [if_neg refused, unchanged]
      exact flushed

theorem send_of_accepts (accepted : sender.accepts frame line deadline = true) :
    sender.send frame line deadline =
      (sender.feed frame line deadline).owner.flush (sender.feed frame line deadline).line
        deadline := by
  simp only [send, accepts_iff.mp accepted]

theorem send_of_refuses (refused : ¬ sender.accepts frame line deadline = true) :
    sender.send frame line deadline = sender.feed frame line deadline := by
  simp only [send]
  split
  · rename_i fed
    exact absurd (accepts_iff.mpr fed) refused
  · rfl

theorem send_moves (sender : Sender) (frame : Bytes) (line : Line) (deadline : Deadline) :
    Moves sender line (if sender.accepts frame line deadline then frame else [])
      (sender.send frame line deadline) := by
  have fed := feed_moves sender frame line deadline
  by_cases accepted : sender.accepts frame line deadline = true
  · have written := fed.trans (flush_moves _ _ deadline)
    rw [List.append_nil] at written
    rw [send_of_accepts accepted]
    exact written
  · rw [send_of_refuses accepted]
    exact fed

theorem send_ok_iff : (sender.send frame line deadline).outcome = some (.ok ()) ↔
    sender.accepts frame line deadline = true ∧
      (sender.send frame line deadline).owner.pending = [] := by
  by_cases accepted : sender.accepts frame line deadline = true
  · rw [send_of_accepts accepted, flush_ok_iff]
    exact ⟨fun drained => ⟨accepted, drained⟩, fun both => both.2⟩
  · rw [send_of_refuses accepted, ← accepts_iff]
    exact ⟨fun fed => absurd fed accepted, fun both => both.1⟩

/-- To write takes time and write actions, and leaves the rest of the line alone. -/
theorem feed_line (sender : Sender) (frame : Bytes) (line : Line) (deadline : Deadline) :
    ∃ clock writes written,
      (sender.feed frame line deadline).line = { line with clock, writes, written } := by
  unfold feed
  split
  · exact ⟨_, _, _, rfl⟩
  · simp only
    split
    · exact ⟨_, _, _, rfl⟩
    · exact ⟨_, _, _, rfl⟩

theorem send_line (sender : Sender) (frame : Bytes) (line : Line) (deadline : Deadline) :
    ∃ clock writes written,
      (sender.send frame line deadline).line = { line with clock, writes, written } := by
  obtain ⟨clock, writes, written, fed⟩ := sender.feed_line frame line deadline
  by_cases accepted : sender.accepts frame line deadline = true
  · rw [send_of_accepts accepted, fed]
    exact ⟨_, _, _, rfl⟩
  · rw [send_of_refuses accepted, fed]
    exact ⟨_, _, _, rfl⟩

theorem close_moves (sender : Sender) (line : Line) (deadline : Deadline) :
    Moves sender line [] (sender.close line deadline) := by
  have flushed := flush_moves sender line deadline
  simp only [close]
  split
  · exact flushed
  · exact flushed

theorem close_ok (closed : (sender.close line deadline).outcome = some (.ok ())) :
    (sender.close line deadline).owner.pending = [] := by
  simp only [close] at closed ⊢
  split at closed
  · exact flush_ok_iff.mp closed
  · rename_i unfinished
    exact absurd closed unfinished

/-- An operation on a line that falls silent, and the same on a line that goes on: one has begun what
the other does, or they do the same. -/
def Resumes (later : List WriteAction) (hangs : Bool)
    (begun made : Attempt (Except LinkError Unit) Sender) : Prop :=
  begun.outcome = none ∧ begun.line.written <+: made.line.written ∨
    made = { begun with line := begun.line.resume later hangs }

theorem Resumes.written {later : List WriteAction} {hangs : Bool}
    {begun made : Attempt (Except LinkError Unit) Sender} (resumes : Resumes later hangs begun made) :
    begun.line.written <+: made.line.written := by
  rcases resumes with ⟨_, begins⟩ | same
  · exact begins
  · have equal : made.line.written = begun.line.written := congrArg (·.line.written) same
    exact ⟨[], by rw [List.append_nil, equal]⟩

section Resuming

variable (sender : Sender) (frame : Bytes) (silent : line.writesHang = true) (deadline : Deadline)
  (later : List WriteAction) (hangs : Bool)

include silent

end Resuming

end Sender

end SerialLink
