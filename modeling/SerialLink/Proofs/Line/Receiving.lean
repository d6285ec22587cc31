import SerialLink.Line.Receiver
import SerialLink.Proofs.Stream.Reassembly

namespace SerialLink

/-! One call of a receiver, held against the script of its line.

A call feeds some bytes to the reassembler: those left over from the last read, then those of the
script, without a gap.  What it hands out is the first thing that the script still had in store.
-/

namespace Delivery

def frame? : Delivery → Option Bytes
  | .frame bytes => some bytes
  | _ => none

def failure? : Delivery → Option IoError
  | .failed error => some error
  | _ => none

end Delivery

namespace Line

/-- Every failure that a list of read actions has in it, as it will be reported. -/
def failures : List ReadAction → List IoError
  | [] => []
  | .fail kind :: rest => .ofKind kind :: failures rest
  | _ :: rest => failures rest

end Line

/-- All that a list of read actions will ever make a receiver hand out.  A failed read is followed by
an end of the stream that the line knows nothing of. -/
def Reassembler.upcoming : Reassembler → List ReadAction → List Delivery
  | _, [] => []
  | reassembler, .finish :: rest => .ended :: reassembler.upcoming rest
  | reassembler, .fail kind :: rest =>
      .failed (.ofKind kind) :: .ended :: reassembler.upcoming rest
  | reassembler, .wait _ _ :: rest => reassembler.upcoming rest
  | reassembler, .data bytes :: rest =>
      if bytes.isEmpty then .ended :: reassembler.upcoming rest
      else
        let (frames, fed) := reassembler.feedAll bytes
        frames.map .frame ++ fed.upcoming rest

namespace Receiver

open Reassembler

variable {receiver after : Receiver} {reads rest : List ReadAction} {bytes left : Bytes}
  {outcome : Option Bytes} {deadline : Deadline} {hangs : Bool} {clock : Clock}

/-- All that a receiver will still hand out on its way along a list of read actions. -/
def upcoming (receiver : Receiver) (reads : List ReadAction) : List Delivery :=
  let (frames, fed) := receiver.reassembler.feedAll receiver.buffer
  (if receiver.failed then [.ended] else []) ++ (frames.map .frame ++ fed.upcoming reads)

/-- A failed read is reported only when the buffer is used up. -/
def Settled (receiver : Receiver) : Prop := receiver.failed = true → receiver.buffer = []

/-- What one call does with a script. -/
structure Reading (deadline : Deadline) (hangs : Bool) (before : Receiver)
    (reads : List ReadAction) (delivery : Option Delivery) (after : Receiver)
    (rest : List ReadAction) : Prop where
  consumes : ∃ consumed,
    before.buffer ++ Line.delivered reads = consumed ++ (after.buffer ++ Line.delivered rest) ∧
      before.reassembler.feedAll consumed =
        ((delivery.bind Delivery.frame?).toList, after.reassembler)
  drains : delivery.bind Delivery.frame? = none → after.buffer = []
  next_upcoming : delivery.toList ++ after.upcoming rest = before.upcoming reads ∨
    delivery = some .ended ∧ before.upcoming reads = [] ∧ after.upcoming rest = []
  answers : deadline = none → delivery = none → hangs = true ∧ rest = []
  settled : after.Settled

theorem Reading.keeps {layout : Layout} {delivery : Option Delivery}
    (reading : Reading deadline hangs receiver reads delivery after rest)
    (consistent : receiver.reassembler.Consistent layout) :
    after.reassembler.Consistent layout ∧
      ∀ frame, delivery = some (.frame frame) → layout.IsFrame frame := by
  obtain ⟨consumed, _, fedAll⟩ := reading.consumes
  obtain ⟨last, whole⟩ := consistent.of_feedAll fedAll
  refine ⟨last, ?_⟩
  rintro frame rfl
  exact whole frame List.mem_cons_self

theorem upcoming_of_used (used : receiver.buffer = []) (live : receiver.failed = false) :
    receiver.upcoming reads = receiver.reassembler.upcoming reads := by
  simp [upcoming, used, live, feedAll]

theorem upcoming_putBack (reassembler : Reassembler) (left : Bytes) (rest : List ReadAction) :
    reassembler.upcoming (Line.putBack left rest) =
      (reassembler.feedAll left).1.map .frame ++ (reassembler.feedAll left).2.upcoming rest := by
  cases left with
  | nil => rfl
  | cons byte bytes => rfl

theorem decode_cases {decoded : Receiver} (decoding : receiver.decode = (outcome, decoded)) :
    ∃ consumed, receiver.buffer = consumed ++ decoded.buffer ∧
      receiver.reassembler.feedAll consumed = (outcome.toList, decoded.reassembler) ∧
      (outcome = none → decoded.buffer = []) ∧ decoded.failed = receiver.failed := by
  simp only [decode, Prod.mk.injEq] at decoding
  obtain ⟨rfl, rfl⟩ := decoding
  obtain ⟨consumed, split, fedAll, drained⟩ := next_consumed (Prod.ext rfl rfl)
  exact ⟨consumed, split, fedAll, drained, rfl⟩

theorem decode_keeps {layout : Layout} {decoded : Receiver}
    (decoding : receiver.decode = (outcome, decoded))
    (consistent : receiver.reassembler.Consistent layout) :
    decoded.reassembler.Consistent layout ∧ ∀ frame, outcome = some frame → layout.IsFrame frame := by
  obtain ⟨consumed, _, fedAll, _⟩ := decode_cases decoding
  obtain ⟨last, whole⟩ := consistent.of_feedAll fedAll
  refine ⟨last, ?_⟩
  rintro frame rfl
  exact whole frame List.mem_cons_self

/-- What a read brings is split in three: fed, kept in the buffer, left to a later read. -/
theorem take_cases {taken : Receiver} (taking : receiver.take bytes = (outcome, taken, left)) :
    ∃ consumed, bytes = consumed ++ (taken.buffer ++ left) ∧
      receiver.reassembler.feedAll consumed = (outcome.toList, taken.reassembler) ∧
      (outcome = none → taken.buffer = [] ∧ left = []) ∧ taken.failed = receiver.failed := by
  simp only [take, fill, List.nil_append, Prod.mk.injEq] at taking
  obtain ⟨rfl, rfl, rfl⟩ := taking
  obtain ⟨consumed, split, fedAll, drained⟩ := next_consumed (Prod.ext rfl rfl)
  refine ⟨consumed, ?_, fedAll, ?_, rfl⟩
  · rw [List.take_append_drop]
    exact split
  · intro unfinished
    rw [drained unfinished]
    exact ⟨List.take_nil, List.drop_nil⟩

/-- Bytes fed in front of a call that complete no frame count as the call's own. -/
theorem Reading.of_quiet {middle : Receiver} {between : List ReadAction} {delivery : Option Delivery}
    {front : Bytes}
    (split : receiver.buffer ++ Line.delivered reads =
      front ++ (middle.buffer ++ Line.delivered between))
    (quiet : receiver.reassembler.feedAll front = ([], middle.reassembler))
    (same : middle.upcoming between = receiver.upcoming reads)
    (reading : Reading deadline hangs middle between delivery after rest) :
    Reading deadline hangs receiver reads delivery after rest := by
  obtain ⟨⟨consumed, remaining, fedAll⟩, drains, nextUpcoming, answers, settled⟩ := reading
  refine ⟨⟨front ++ consumed, ?_, ?_⟩, drains, by rwa [same] at nextUpcoming, answers, settled⟩
  · rw [split, remaining, List.append_assoc]
  · rw [feedAll_append, quiet, List.nil_append, fedAll]

theorem upcoming_take_some {taken : Receiver} {frame : Bytes} (used : receiver.buffer = [])
    (live : receiver.failed = false) (some_byte : ¬ bytes.isEmpty)
    (taking : receiver.take bytes = (some frame, taken, left)) :
    .frame frame :: taken.upcoming (Line.putBack left rest) =
      receiver.upcoming (.data bytes :: rest) := by
  obtain ⟨consumed, rfl, fedAll, _, sameFailed⟩ := take_cases taking
  rw [upcoming_of_used used live, Reassembler.upcoming, if_neg some_byte]
  simp only [feedAll_append, fedAll, Option.toList_some, upcoming, sameFailed, live,
    upcoming_putBack, Bool.false_eq_true, if_false, List.nil_append, List.map_append,
    List.map_cons, List.cons_append, List.append_assoc]

theorem upcoming_take_none {taken : Receiver} (used : receiver.buffer = [])
    (live : receiver.failed = false) (some_byte : ¬ bytes.isEmpty)
    (taking : receiver.take bytes = (none, taken, left)) :
    taken.upcoming rest = receiver.upcoming (.data bytes :: rest) := by
  obtain ⟨consumed, rfl, fedAll, drained, sameFailed⟩ := take_cases taking
  obtain ⟨takenUsed, rfl⟩ := drained rfl
  rw [upcoming_of_used used live, upcoming_of_used takenUsed (sameFailed.trans live),
    Reassembler.upcoming, if_neg some_byte, takenUsed, List.append_nil, List.append_nil, fedAll]
  rfl

theorem pass_isSome (clock : Clock) (due : Nat) : (clock.pass due none).isSome := by
  unfold Clock.pass
  split
  · rfl
  · split <;> rfl

theorem settled_of_live (live : receiver.failed = false) : receiver.Settled := by
  intro failed
  rw [live] at failed
  contradiction

theorem pull_reading (used : receiver.buffer = []) (live : receiver.failed = false) :
    let pulled := receiver.pull deadline hangs clock reads
    Reading deadline hangs receiver reads pulled.delivery pulled.receiver pulled.reads := by
  fun_induction receiver.pull deadline hangs clock reads with
  | case1 receiver clock hang =>
      exact ⟨⟨[], rfl, rfl⟩, fun _ => used, .inl rfl, fun _ _ => ⟨hang, rfl⟩,
        settled_of_live live⟩
  | case2 receiver clock =>
      have nothing : receiver.upcoming [] = [] := upcoming_of_used used live
      exact ⟨⟨[], rfl, rfl⟩, fun _ => used, .inr ⟨rfl, nothing, nothing⟩, by simp,
        settled_of_live live⟩
  | case3 receiver clock rest =>
      refine ⟨⟨[], rfl, rfl⟩, fun _ => used, .inl ?_, by simp, settled_of_live live⟩
      simp only [upcoming_of_used used live, Reassembler.upcoming, Option.toList_some,
        List.singleton_append]
  | case4 receiver clock kind rest =>
      refine ⟨⟨[], rfl, rfl⟩, fun _ => used, .inl ?_, by simp, fun _ => used⟩
      rw [upcoming_of_used used live]
      simp [upcoming, used, feedAll, Reassembler.upcoming]
  | case5 receiver clock bytes rest nothing =>
      obtain rfl := List.isEmpty_iff.mp nothing
      refine ⟨⟨[], rfl, rfl⟩, fun _ => used, .inl ?_, by simp, settled_of_live live⟩
      simp only [upcoming_of_used used live, Reassembler.upcoming, List.isEmpty_nil, if_true,
        Option.toList_some, List.singleton_append]
  | case6 receiver clock bytes rest some_byte frame taken left taking =>
      obtain ⟨consumed, split, fedAll, _, sameFailed⟩ := take_cases taking
      refine ⟨⟨consumed, ?_, fedAll⟩, by simp [Delivery.frame?],
        .inl (upcoming_take_some used live some_byte taking), by simp,
        settled_of_live (sameFailed.trans live)⟩
      rw [used, List.nil_append, Line.delivered_putBack, Line.delivered, split]
      simp only [List.append_assoc]
  | case7 receiver clock bytes rest some_byte taken left taking ih =>
      obtain ⟨consumed, split, fedAll, drained, sameFailed⟩ := take_cases taking
      obtain ⟨takenUsed, rfl⟩ := drained rfl
      refine Reading.of_quiet ?_ fedAll (upcoming_take_none used live some_byte taking)
        (ih takenUsed (sameFailed.trans live))
      rw [used, List.nil_append, Line.delivered, split, List.append_nil, List.append_assoc]
  | case8 receiver clock milliseconds begun rest later passed ih =>
      have split : receiver.buffer ++ Line.delivered (.wait milliseconds begun :: rest) =
          [] ++ (receiver.buffer ++ Line.delivered rest) := rfl
      exact Reading.of_quiet split rfl rfl (ih used live)
  | case9 receiver clock milliseconds begun rest blocked =>
      refine ⟨⟨[], rfl, rfl⟩, fun _ => used, .inl rfl, ?_, settled_of_live live⟩
      rintro rfl
      have passed := pass_isSome clock (waitDue clock.now milliseconds begun)
      rw [blocked] at passed
      contradiction

/-- To read takes time and read actions, and leaves the rest of the line alone. -/
theorem next_line (receiver : Receiver) (line : Line) (deadline : Deadline) :
    ∃ clock reads, (receiver.next line deadline).line = { line with clock, reads } := by
  unfold next
  split
  · exact ⟨_, _, rfl⟩
  · split
    · exact ⟨_, _, rfl⟩
    · exact ⟨_, _, rfl⟩

theorem upcoming_decode {decoded : Receiver} (decoding : receiver.decode = (outcome, decoded))
    (live : receiver.failed = false) (reads : List ReadAction) :
    (outcome.toList.map .frame) ++ decoded.upcoming reads = receiver.upcoming reads := by
  obtain ⟨consumed, split, fedAll, _, sameFailed⟩ := decode_cases decoding
  simp only [upcoming, sameFailed, live, split, feedAll_append, fedAll, Bool.false_eq_true,
    if_false, List.nil_append, List.map_append, List.append_assoc]

/-- The law of one call: all that is said of runs comes from here. -/
theorem next_reading (settled : receiver.Settled) (line : Line) (deadline : Deadline) :
    let attempt := receiver.next line deadline
    Reading deadline line.readsHang receiver line.reads attempt.outcome attempt.owner
      attempt.line.reads := by
  intro attempt
  by_cases failed : receiver.failed = true
  · have same : attempt = ⟨some .ended, { receiver with failed := false }, line⟩ := if_pos failed
    rw [same]
    refine ⟨⟨[], rfl, rfl⟩, fun _ => settled failed, .inl ?_, by simp, settled_of_live rfl⟩
    simp [upcoming, failed]
  · have live : receiver.failed = false := Bool.eq_false_iff.mpr failed
    rcases decoding : receiver.decode with ⟨outcome, decoded⟩
    obtain ⟨consumed, split, fedAll, drained, sameFailed⟩ := decode_cases decoding
    have ahead := upcoming_decode decoding live line.reads
    cases outcome with
    | some frame =>
        have same : attempt = ⟨some (.frame frame), decoded, line⟩ := by
          simp only [attempt, next, if_neg failed, decoding]
        rw [same]
        refine ⟨⟨consumed, ?_, fedAll⟩, by simp [Delivery.frame?], .inl ahead, by simp,
          settled_of_live (sameFailed.trans live)⟩
        rw [split, List.append_assoc]
    | none =>
        refine Reading.of_quiet ?_ fedAll ahead ?_
        · rw [split, List.append_assoc]
        · simpa only [attempt, next, if_neg failed, decoding] using
            pull_reading (drained rfl) (sameFailed.trans live)

end Receiver

end SerialLink
