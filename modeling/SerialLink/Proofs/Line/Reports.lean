import SerialLink.Proofs.Line.Receiving

namespace SerialLink

/-! What a line tells those who read from it.

A receiver hands on what it hears only in part: bytes that complete no frame are kept back, and an
end may be handed on that nobody has heard.  So the reads of a call are listed on their own.
-/

namespace Line

/-- What reads come back with.  An end is a read of no bytes. -/
inductive Report where
  | brought (bytes : Bytes)
  | failed (kind : IoKind)
  | ended
deriving DecidableEq, Repr

/-- Reads along a script: what they come back with, and what they leave of the script. -/
inductive Reports (hangs : Bool) : List ReadAction → List Report → List ReadAction → Prop where
  | unread (reads : List ReadAction) : Reports hangs reads [] reads
  | waiting (milliseconds : Nat) (begun : Option Nat) (since : Nat) (rest : List ReadAction) :
      Reports hangs (.wait milliseconds begun :: rest) []
        (.wait milliseconds (some since) :: rest)
  | waited (milliseconds : Nat) (begun : Option Nat) {rest : List ReadAction}
      {reports : List Report} {last : List ReadAction} (later : Reports hangs rest reports last) :
      Reports hangs (.wait milliseconds begun :: rest) reports last
  | exhausted {reports : List Report} {last : List ReadAction} (finite : hangs = false)
      (later : Reports hangs [] reports last) : Reports hangs [] (.ended :: reports) last
  | finished {rest : List ReadAction} {reports : List Report} {last : List ReadAction}
      (later : Reports hangs rest reports last) :
      Reports hangs (.finish :: rest) (.ended :: reports) last
  | nothing {rest : List ReadAction} {reports : List Report} {last : List ReadAction}
      (later : Reports hangs rest reports last) :
      Reports hangs (.data [] :: rest) (.ended :: reports) last
  | failed (kind : IoKind) {rest : List ReadAction} {reports : List Report}
      {last : List ReadAction} (later : Reports hangs rest reports last) :
      Reports hangs (.fail kind :: rest) (.failed kind :: reports) last
  | brought {front behind : Bytes} {rest : List ReadAction} {reports : List Report}
      {last : List ReadAction} (some_byte : front ≠ [])
      (later : Reports hangs (putBack behind rest) reports last) :
      Reports hangs (.data (front ++ behind) :: rest) (.brought front :: reports) last

theorem Reports.brought_all {hangs : Bool} {bytes : Bytes} {rest last : List ReadAction}
    {reports : List Report} (some_byte : bytes ≠ []) (later : Reports hangs rest reports last) :
    Reports hangs (.data bytes :: rest) (.brought bytes :: reports) last := by
  have brought : Reports hangs (.data (bytes ++ []) :: rest) (.brought bytes :: reports) last :=
    .brought some_byte later
  rwa [List.append_nil] at brought

theorem Reports.trans {hangs : Bool} {reads between last : List ReadAction}
    {reports more : List Report} (first : Reports hangs reads reports between)
    (second : Reports hangs between more last) : Reports hangs reads (reports ++ more) last := by
  induction first with
  | unread reads => exact second
  | waiting milliseconds begun since rest =>
      cases second with
      | unread => exact .waiting milliseconds begun since rest
      | waiting _ _ again => exact .waiting milliseconds begun again rest
      | waited _ _ later => exact .waited milliseconds begun later
  | waited milliseconds begun _ ih => exact .waited milliseconds begun (ih second)
  | exhausted finite _ ih => exact .exhausted finite (ih second)
  | finished _ ih => exact .finished (ih second)
  | nothing _ ih => exact .nothing (ih second)
  | failed kind _ ih => exact .failed kind (ih second)
  | brought some_byte _ ih => exact .brought some_byte (ih second)

end Line

/-- Brings bytes, now or after a wait. -/
def ReadAction.brings : ReadAction → Bool
  | .data bytes => !bytes.isEmpty
  | .finish => false
  | .fail _ => false
  | .wait _ _ => true

/-- Nothing but bytes: what they complete comes first of all that the script has in store. -/
theorem Reassembler.upcoming_brought (reassembler : Reassembler) {front : List ReadAction}
    (bringing : ∀ action ∈ front, action.brings = true) (rest : List ReadAction) :
    reassembler.upcoming (front ++ rest) =
      (reassembler.feedAll (Line.delivered front)).1.map .frame ++
        (reassembler.feedAll (Line.delivered front)).2.upcoming rest := by
  induction front generalizing reassembler with
  | nil => rfl
  | cons action front ih =>
      have brings := bringing action List.mem_cons_self
      have others : ∀ other ∈ front, other.brings = true :=
        fun other member => bringing other (List.mem_cons_of_mem _ member)
      cases action with
      | finish => contradiction
      | fail kind => contradiction
      | wait milliseconds begun => exact ih reassembler others
      | data bytes =>
          have some_byte : ¬ bytes.isEmpty = true := by
            simpa only [ReadAction.brings, Bool.not_eq_true', Bool.not_eq_true] using brings
          simp only [List.cons_append, Reassembler.upcoming, if_neg some_byte, Line.delivered,
            feedAll_append, List.map_append, List.append_assoc, ih _ others]

namespace Receiver

variable {receiver after : Receiver} {reads rest : List ReadAction} {line : Line}

/-- What the reads of one pull come back with, those that a single action answers taken together. -/
def pullReports (deadline : Deadline) (hangs : Bool) :
    Receiver → Clock → List ReadAction → List Line.Report
  | _, _, [] => if hangs then [] else [.ended]
  | _, _, .finish :: _ => [.ended]
  | _, _, .fail kind :: _ => [.failed kind]
  | receiver, clock, .data bytes :: rest =>
      if bytes.isEmpty then [.ended]
      else
        match receiver.take bytes with
        | (some _, _, left) => [.brought (bytes.take (bytes.length - left.length))]
        | (none, taken, _) => .brought bytes :: taken.pullReports deadline hangs clock rest
  | receiver, clock, .wait milliseconds begun :: rest =>
      match clock.pass (waitDue clock.now milliseconds begun) deadline with
      | some later => receiver.pullReports deadline hangs later rest
      | none => []

def reports (receiver : Receiver) (line : Line) (deadline : Deadline) : List Line.Report :=
  if receiver.failed then []
  else
    match receiver.decode with
    | (some _, _) => []
    | (none, decoded) => decoded.pullReports deadline line.readsHang line.clock line.reads

/-- What a call that looks at the line makes of its reads. -/
structure Reporting (hangs : Bool) (reads : List ReadAction) (reports : List Line.Report)
    (delivery : Option Delivery) (after : Receiver) (rest : List ReadAction) : Prop where
  script : Line.Reports hangs reads reports rest
  ended_iff : delivery = some .ended ↔ .ended ∈ reports
  failed_iff : after.failed = true ↔ ∃ kind, .failed kind ∈ reports

theorem pull_reporting (deadline : Deadline) (hangs : Bool) (clock : Clock)
    (reads : List ReadAction) (live : receiver.failed = false) :
    let pulled := receiver.pull deadline hangs clock reads
    Reporting hangs reads (receiver.pullReports deadline hangs clock reads) pulled.delivery
      pulled.receiver pulled.reads := by
  fun_induction receiver.pull deadline hangs clock reads with
  | case1 receiver clock hang =>
      rw [pullReports, if_pos hang]
      exact ⟨.unread [], by simp, by simp [live]⟩
  | case2 receiver clock hang =>
      rw [pullReports, if_neg hang]
      exact ⟨.exhausted (Bool.eq_false_iff.mpr hang) (.unread []), by simp, by simp [live]⟩
  | case3 receiver clock rest =>
      exact ⟨.finished (.unread rest), by simp [pullReports], by simp [pullReports, live]⟩
  | case4 receiver clock kind rest =>
      exact ⟨.failed kind (.unread rest), by simp [pullReports], by simp [pullReports]⟩
  | case5 receiver clock bytes rest nothing =>
      obtain rfl := List.isEmpty_iff.mp nothing
      exact ⟨.nothing (.unread rest), by simp [pullReports], by simp [pullReports, live]⟩
  | case6 receiver clock bytes rest some_byte frame taken left taking =>
      obtain ⟨consumed, split, fedAll, _, sameFailed⟩ := take_cases taking
      have read : bytes.take (bytes.length - left.length) = consumed ++ taken.buffer := by
        rw [split, ← List.append_assoc, List.length_append, Nat.add_sub_cancel,
          List.take_left]
      have fed : consumed ≠ [] := by
        rintro rfl
        simp [Reassembler.feedAll] at fedAll
      simp only [pullReports, if_neg some_byte, taking, read]
      refine ⟨?_, by simp, by simp [sameFailed, live]⟩
      rw [split, ← List.append_assoc]
      exact .brought (List.append_ne_nil_of_left_ne_nil fed _) (.unread _)
  | case7 receiver clock bytes rest some_byte taken left taking ih =>
      obtain ⟨_, _, _, drained, sameFailed⟩ := take_cases taking
      obtain ⟨script, ended_iff, failed_iff⟩ := ih (sameFailed.trans live)
      simp only [pullReports, if_neg some_byte, taking]
      refine ⟨.brought_all ?_ script, by simpa using ended_iff, by simpa using failed_iff⟩
      rintro rfl
      exact some_byte rfl
  | case8 receiver clock milliseconds begun rest later passed ih =>
      obtain ⟨script, ended_iff, failed_iff⟩ := ih live
      simp only [pullReports, passed]
      exact ⟨.waited milliseconds begun script, ended_iff, failed_iff⟩
  | case9 receiver clock milliseconds begun rest blocked =>
      simp only [pullReports, blocked]
      exact ⟨.waiting milliseconds begun _ rest, by simp, by simp [live]⟩

/-- With no failure reported just before, an end is handed out exactly when a read has come to it. -/
theorem next_reporting (live : receiver.failed = false) (line : Line) (deadline : Deadline) :
    let attempt := receiver.next line deadline
    Reporting line.readsHang line.reads (receiver.reports line deadline) attempt.outcome
      attempt.owner attempt.line.reads := by
  have looks : ¬ receiver.failed = true := Bool.eq_false_iff.mp live
  rcases decoding : receiver.decode with ⟨outcome, decoded⟩
  obtain ⟨_, _, _, _, sameFailed⟩ := decode_cases decoding
  cases outcome with
  | some frame =>
      simp only [next, reports, if_neg looks, decoding]
      exact ⟨.unread _, by simp, by simp [sameFailed, live]⟩
  | none =>
      simp only [next, reports, if_neg looks, decoding]
      exact pull_reporting deadline line.readsHang line.clock line.reads (sameFailed.trans live)

/-- Behind a failure an end is handed out that no read has come to. -/
theorem next_of_failed (failed : receiver.failed = true) (line : Line) (deadline : Deadline) :
    receiver.next line deadline = ⟨some .ended, { receiver with failed := false }, line⟩ ∧
      receiver.reports line deadline = [] :=
  ⟨if_pos failed, if_pos failed⟩

/-- Whatever a call does, it reads along the script, and a failure is remembered by it alone. -/
theorem next_reports (receiver : Receiver) (line : Line) (deadline : Deadline) :
    let attempt := receiver.next line deadline
    let reports := receiver.reports line deadline
    Line.Reports line.readsHang line.reads reports attempt.line.reads ∧
      (attempt.owner.failed = true ↔ ∃ kind, .failed kind ∈ reports) := by
  intro attempt reports
  by_cases failed : receiver.failed = true
  · obtain ⟨same, silent⟩ := next_of_failed failed line deadline
    simp only [attempt, reports, same, silent]
    exact ⟨.unread _, by simp⟩
  · have reporting := next_reporting (Bool.eq_false_iff.mpr failed) line deadline
    exact ⟨reporting.script, reporting.failed_iff⟩

theorem upcoming_brought (live : receiver.failed = false) {front : List ReadAction}
    (bringing : ∀ action ∈ front, action.brings = true) (rest : List ReadAction) :
    ∃ later, receiver.upcoming (front ++ rest) =
      (receiver.reassembler.feedAll (receiver.buffer ++ Line.delivered front)).1.map .frame ++
        later := by
  simp only [upcoming, live, Reassembler.upcoming_brought _ bringing, Reassembler.feedAll_append,
    Bool.false_eq_true, if_false, List.nil_append, List.map_append, ← List.append_assoc]
  exact ⟨_, rfl⟩

/-- A frame that bytes alone complete is handed out, unless the call is given up before. -/
theorem next_completes (settled : receiver.Settled) (live : receiver.failed = false)
    {front rest : List ReadAction} {first : Bytes} {more : List Bytes}
    (ahead : line.reads = front ++ rest) (bringing : ∀ action ∈ front, action.brings = true)
    (completed : (receiver.reassembler.feedAll
      (receiver.buffer ++ Line.delivered front)).1 = first :: more) (deadline : Deadline) :
    let attempt := receiver.next line deadline
    (deadline = none → attempt.outcome.isSome) ∧
      ∀ delivery, attempt.outcome = some delivery → delivery = .frame first := by
  intro attempt
  obtain ⟨_, drains, nextUpcoming, answers, _⟩ := next_reading settled line deadline
  obtain ⟨later, upcoming⟩ := upcoming_brought live bringing rest
  rw [completed, List.map_cons, List.cons_append, ← ahead] at upcoming
  have first_of_all : attempt.outcome.toList ++ attempt.owner.upcoming attempt.line.reads =
      .frame first :: (more.map .frame ++ later) := by
    rcases nextUpcoming with same | ⟨_, nothing, _⟩
    · exact same.trans upcoming
    · rw [upcoming] at nothing
      contradiction
  constructor
  · intro patient
    cases silent : attempt.outcome with
    | some delivery => rfl
    | none =>
        have used : attempt.owner.buffer = [] :=
          drains (congrArg (·.bind Delivery.frame?) silent)
        rw [silent, (answers patient silent).2] at first_of_all
        simp only [Receiver.upcoming, used, Reassembler.feedAll, Reassembler.upcoming]
          at first_of_all
        split at first_of_all <;> simp at first_of_all
  · intro delivery handed
    rw [handed] at first_of_all
    exact (List.cons.inj first_of_all).1

end Receiver

end SerialLink
