import SerialLink.Line.Duplex
import SerialLink.Proofs.Line.Conservation
import SerialLink.Proofs.Line.Lossless

namespace SerialLink

/-! The two directions of one line.

They share the line, and so the time: what one of them waits for, the other waits for too.  Apart
from that a direction is what it would be alone.  This is shown call by call, for calls that are done
when they return: such a call does at any time what it does at this one.
-/

namespace Line

/-- The line with nothing but its read script, at the beginning of time. -/
def readSide (line : Line) : Line :=
  { line with clock := .start, writes := [], writesHang := false, written := [], isShut := false }

/-- The line with nothing but its write script and what it has taken. -/
def writeSide (line : Line) : Line := { line with clock := .start, reads := [], readsHang := false }

variable {line other : Line}

theorem readSide_eq_iff : other.readSide = line.readSide ↔
    other.reads = line.reads ∧ other.readsHang = line.readsHang := by
  simp [readSide]

theorem writeSide_eq_iff : other.writeSide = line.writeSide ↔
    other.writes = line.writes ∧ other.writesHang = line.writesHang ∧
      other.written = line.written ∧ other.isShut = line.isShut := by
  simp [writeSide]

end Line

/-- Two attempts that come to the same on one side of their lines. -/
structure Attempt.Agrees (side : Line → Line) (made again : Attempt α σ) : Prop where
  outcome_eq : again.outcome = made.outcome
  owner_eq : again.owner = made.owner
  side_eq : side again.line = side made.line

namespace Receiver

variable {receiver : Receiver} {line other : Line} {deadline : Deadline} {hangs : Bool}
  {clock : Clock} {reads : List ReadAction}

/-- A pull that is not cut short does the same at any time, in any hurry. -/
theorem pull_agrees (done : (receiver.pull deadline hangs clock reads).delivery.isSome = true)
    (elsewhen : Clock) :
    let pulled := receiver.pull deadline hangs clock reads
    let again := receiver.pull none hangs elsewhen reads
    again.delivery = pulled.delivery ∧ again.receiver = pulled.receiver ∧
      again.reads = pulled.reads := by
  fun_induction receiver.pull deadline hangs clock reads generalizing elsewhen with
  | case1 => contradiction
  | case2 receiver clock finite => simp [pull, finite]
  | case3 => simp [pull]
  | case4 => simp [pull]
  | case5 receiver clock bytes rest nothing => simp [pull, nothing]
  | case6 receiver clock bytes rest some_byte frame taken left taking =>
      simp [pull, some_byte, taking]
  | case7 receiver clock bytes rest some_byte taken left taking ih =>
      simp only [pull, if_neg some_byte, taking]
      exact ih done elsewhen
  | case8 receiver clock milliseconds begun rest later passed ih =>
      obtain ⟨after, patient⟩ :=
        Option.isSome_iff_exists.mp (pass_isSome elsewhen (waitDue elsewhen.now milliseconds begun))
      simp only [pull, patient]
      exact ih done after
  | case9 => contradiction

theorem next_agrees (same : other.readSide = line.readSide)
    (done : (receiver.next line deadline).outcome.isSome = true) :
    (receiver.next line deadline).Agrees Line.readSide (receiver.next other none) := by
  obtain ⟨reads, hangs⟩ := Line.readSide_eq_iff.mp same
  by_cases failed : receiver.failed = true
  · simp only [next, if_pos failed]
    exact ⟨rfl, rfl, same⟩
  · rcases decoding : receiver.decode with ⟨outcome, decoded⟩
    cases outcome with
    | some frame =>
        simp only [next, if_neg failed, decoding]
        exact ⟨rfl, rfl, same⟩
    | none =>
        simp only [next, if_neg failed, decoding] at done ⊢
        obtain ⟨delivery, owner, left⟩ := pull_agrees done other.clock
        rw [reads, hangs]
        exact ⟨delivery, owner, Line.readSide_eq_iff.mpr ⟨left, rfl⟩⟩

theorem next_writeSide (receiver : Receiver) (line : Line) (deadline : Deadline) :
    (receiver.next line deadline).line.writeSide = line.writeSide := by
  obtain ⟨clock, reads, same⟩ := receiver.next_line line deadline
  rw [same]
  rfl

end Receiver

namespace Sender

variable {sender : Sender} {line other : Line} {deadline : Deadline} {hangs : Bool}
  {clock : Clock} {pending frame : Bytes} {writes : List WriteAction}

theorem push_agrees (done : (push deadline hangs pending clock writes).outcome.isSome = true)
    (elsewhen : Clock) :
    let pushed := push deadline hangs pending clock writes
    let again := push none hangs pending elsewhen writes
    again.outcome = pushed.outcome ∧ again.pending = pushed.pending ∧
      again.writes = pushed.writes ∧ again.taken = pushed.taken := by
  fun_induction push deadline hangs pending clock writes generalizing elsewhen with
  | case1 => simp [push]
  | case2 => contradiction
  | case3 byte bytes clock finite => simp [push, finite]
  | case4 => simp [push]
  | case5 byte bytes clock count rest some_room ih =>
      obtain ⟨outcome, left, later, taken⟩ := ih done elsewhen
      simp only [push, if_neg some_room, Pushed.after]
      exact ⟨outcome, left, later, congrArg _ taken⟩
  | case6 => simp [push]
  | case7 byte bytes clock milliseconds begun rest later passed ih =>
      obtain ⟨after, patient⟩ := Option.isSome_iff_exists.mp
        (Receiver.pass_isSome elsewhen (waitDue elsewhen.now milliseconds begun))
      simp only [push, patient]
      exact ih done after
  | case8 => contradiction

theorem flush_agrees (same : other.writeSide = line.writeSide)
    (done : (sender.flush line deadline).outcome.isSome = true) :
    (sender.flush line deadline).Agrees Line.writeSide (sender.flush other none) := by
  obtain ⟨writes, hangs, written, shut⟩ := Line.writeSide_eq_iff.mp same
  simp only [flush, Option.isSome_map] at done
  obtain ⟨outcome, left, later, taken⟩ := push_agrees done other.clock
  refine ⟨?_, ?_, Line.writeSide_eq_iff.mpr ⟨?_, hangs, ?_, shut⟩⟩
  · simp only [flush, writes, hangs, outcome]
  · simp only [flush, writes, hangs, left]
  · simp only [flush, writes, hangs, later]
  · simp only [flush, writes, hangs, written, taken]

theorem feed_agrees (same : other.writeSide = line.writeSide)
    (done : (sender.feed frame line deadline).outcome.isSome = true) :
    (sender.feed frame line deadline).Agrees Line.writeSide (sender.feed frame other none) := by
  by_cases room : sender.pending.length < boundary
  · simp only [feed, if_pos room]
    exact ⟨rfl, rfl, same⟩
  · simp only [feed, if_neg room] at done ⊢
    have finished : (sender.flush line deadline).outcome.isSome = true := by
      split at done
      · exact done
      · exact done
    obtain ⟨outcome, owner, side⟩ := flush_agrees same finished
    rw [outcome]
    split
    · exact ⟨outcome, congrArg (·.accept frame) owner, side⟩
    · exact ⟨outcome, owner, side⟩

theorem send_agrees (same : other.writeSide = line.writeSide)
    (done : (sender.send frame line deadline).outcome.isSome = true) :
    (sender.send frame line deadline).Agrees Line.writeSide (sender.send frame other none) := by
  have fed : (sender.feed frame line deadline).outcome.isSome = true := by
    simp only [send] at done
    split at done
    · rename_i accepted
      rw [accepted]
      rfl
    · exact done
  obtain ⟨outcome, owner, side⟩ := feed_agrees same fed
  simp only [send] at done ⊢
  rw [outcome, owner]
  split
  · rename_i accepted
    simp only [accepted] at done
    exact flush_agrees side done
  · exact ⟨outcome, owner, side⟩

theorem close_agrees (same : other.writeSide = line.writeSide)
    (done : (sender.close line deadline).outcome.isSome = true) :
    (sender.close line deadline).Agrees Line.writeSide (sender.close other none) := by
  simp only [close] at done ⊢
  have finished : (sender.flush line deadline).outcome.isSome = true := by
    split at done
    · exact done
    · exact done
  obtain ⟨outcome, owner, side⟩ := flush_agrees same finished
  obtain ⟨writes, hangs, written, _⟩ := Line.writeSide_eq_iff.mp side
  rw [outcome]
  split
  · exact ⟨rfl, owner, Line.writeSide_eq_iff.mpr ⟨writes, hangs, written, rfl⟩⟩
  · exact ⟨outcome, owner, side⟩

theorem attempt_agrees {call : Call} (same : other.writeSide = line.writeSide)
    (done : (sender.attempt line deadline call).outcome.isSome = true) :
    (sender.attempt line deadline call).Agrees Line.writeSide
      (sender.attempt other none call) := by
  cases call with
  | feed item => exact feed_agrees same done
  | send item => exact send_agrees same done
  | flush => exact flush_agrees same done
  | close => exact close_agrees same done

theorem attempt_readSide (sender : Sender) (line : Line) (deadline : Deadline) (call : Call) :
    (sender.attempt line deadline call).line.readSide = line.readSide := by
  cases call with
  | feed item =>
      obtain ⟨clock, writes, written, same⟩ := sender.feed_line item.encode line deadline
      simp only [attempt, same]
      rfl
  | send item =>
      obtain ⟨clock, writes, written, same⟩ := sender.send_line item.encode line deadline
      simp only [attempt, same]
      rfl
  | flush => rfl
  | close =>
      simp only [attempt, close]
      split
      · rfl
      · rfl

end Sender

namespace Duplex

inductive Call where
  | next
  | write (call : Sender.Call)

/-- The call that a receiver alone gets in the place of this one, without any hurry. -/
def Call.read? : Call → Option Deadline
  | .next => some none
  | .write _ => none

/-- The call that a sender alone gets in the place of this one. -/
def Call.write? : Call → Option (Sender.Call × Deadline)
  | .next => none
  | .write call => some (call, none)

inductive Reply where
  | received (outcome : Option Delivery)
  | wrote (outcome : Option (Except LinkError Unit))

namespace Reply

def received? : Reply → Option (Option Delivery)
  | .received outcome => some outcome
  | .wrote _ => none

def wrote? : Reply → Option (Option (Except LinkError Unit))
  | .received _ => none
  | .wrote outcome => some outcome

def isDone : Reply → Bool
  | .received outcome => outcome.isSome
  | .wrote outcome => outcome.isSome

end Reply

def write (duplex : Duplex) (line : Line) (deadline : Deadline) :
    Sender.Call → Attempt (Except LinkError Unit) Duplex
  | .feed item => duplex.feed item.encode line deadline
  | .send item => duplex.send item.encode line deadline
  | .flush => duplex.flush line deadline
  | .close => duplex.close line deadline

theorem write_eq (duplex : Duplex) (line : Line) (deadline : Deadline) (call : Sender.Call) :
    duplex.write line deadline call =
      (duplex.sender.attempt line deadline call).mapOwner
        fun sender => { duplex with sender } := by
  cases call <;> rfl

def perform (state : Duplex × Line) (call : Call × Deadline) : Reply × (Duplex × Line) :=
  match call.1 with
  | .next =>
      let made := state.1.next state.2 call.2
      (.received made.outcome, made.owner, made.line)
  | .write written =>
      let made := state.1.write state.2 call.2 written
      (.wrote made.outcome, made.owner, made.line)

/-- A receiver and a sender, each on its own, that have come as far as both together. -/
structure Apart (state : Duplex × Line) (reader : Receiver × Line) (writer : Sender × Line) :
    Prop where
  receiver_eq : reader.1 = state.1.receiver
  reads_eq : reader.2.readSide = state.2.readSide
  sender_eq : writer.1 = state.1.sender
  writes_eq : writer.2.writeSide = state.2.writeSide

variable {state : Duplex × Line} {reader : Receiver × Line} {writer : Sender × Line}

theorem Apart.next (apart : Apart state reader writer) (deadline : Deadline)
    (done : (perform state (.next, deadline)).1.isDone = true) :
    (Receiver.call reader none).1 = (state.1.next state.2 deadline).outcome ∧
      Apart (perform state (.next, deadline)).2 (Receiver.call reader none).2 writer := by
  obtain ⟨⟨receiver, sender⟩, line⟩ := state
  obtain ⟨alone, own⟩ := reader
  obtain ⟨rfl, reads, rfl, writes⟩ := apart
  obtain ⟨outcome, owner, side⟩ := Receiver.next_agrees reads done
  refine ⟨outcome, owner, side, rfl, ?_⟩
  exact writes.trans (Receiver.next_writeSide alone line deadline).symm

theorem Apart.write (apart : Apart state reader writer) (call : Sender.Call) (deadline : Deadline)
    (done : (perform state (.write call, deadline)).1.isDone = true) :
    (Sender.perform writer (call, none)).1.2 = (state.1.write state.2 deadline call).outcome ∧
      Apart (perform state (.write call, deadline)).2 reader
        (Sender.perform writer (call, none)).2 := by
  obtain ⟨⟨receiver, sender⟩, line⟩ := state
  obtain ⟨alone, own⟩ := writer
  obtain ⟨rfl, reads, rfl, writes⟩ := apart
  simp only [perform, write_eq] at done ⊢
  obtain ⟨outcome, owner, side⟩ := Sender.attempt_agrees writes done
  refine ⟨outcome, rfl, ?_, owner, side⟩
  exact reads.trans (Sender.attempt_readSide alone line deadline call).symm

theorem Apart.history (apart : Apart state reader writer) (calls : List (Call × Deadline))
    (completed : ∀ entry ∈ (history perform state calls).1, entry.2.isDone = true) :
    let run := history perform state calls
    let reading := SerialLink.history Receiver.call reader (calls.filterMap (·.1.read?))
    let writing := SerialLink.history Sender.perform writer (calls.filterMap (·.1.write?))
    run.1.filterMap (·.2.received?) = reading.1.map (·.2) ∧
      run.1.filterMap (·.2.wrote?) = writing.1.map (·.2.2) ∧
      Apart run.2 reading.2 writing.2 := by
  induction calls generalizing state reader writer with
  | nil => exact ⟨rfl, rfl, apart⟩
  | cons call calls ih =>
      obtain ⟨kind, deadline⟩ := call
      obtain ⟨done, later⟩ := List.forall_mem_cons.mp completed
      cases kind with
      | next =>
          obtain ⟨outcome, next⟩ := apart.next deadline done
          obtain ⟨received, wrote, last⟩ := ih next later
          exact ⟨List.cons_eq_cons.mpr ⟨outcome.symm, received⟩, wrote, last⟩
      | write call =>
          obtain ⟨outcome, next⟩ := apart.write call deadline done
          obtain ⟨received, wrote, last⟩ := ih next later
          exact ⟨received, List.cons_eq_cons.mpr ⟨outcome.symm, wrote⟩, last⟩

end Duplex

end SerialLink
