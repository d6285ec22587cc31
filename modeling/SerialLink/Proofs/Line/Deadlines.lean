import SerialLink.Proofs.Line.Receiving

namespace SerialLink

/-! One call of a receiver with a deadline, held against the same call without one.

A deadline is looked at in waits and in pauses only.  So the two calls do the same up to the first
wait that goes beyond the deadline, or up to the first pause at the very instant of it.
-/

namespace Clock

variable {clock : Clock} {due last : Nat}

/-- Whether a wait that is over is passed only behind a pause. -/
def pausesBefore (clock : Clock) (due : Nat) : Bool := due ≤ clock.now && clock.credit = 0

theorem pass_patient (clock : Clock) (due : Nat) :
    ∃ later, clock.pass due none = some later ∧ clock.now ≤ later.now ∧ due ≤ later.now := by
  unfold pass
  split
  · rename_i ahead
    exact ⟨resumed due, rfl, Nat.le_of_lt ahead, Nat.le_refl _⟩
  · rename_i elapsed
    have reached : due ≤ clock.now := Nat.le_of_not_lt elapsed
    split
    · exact ⟨_, rfl, Nat.le_refl _, reached⟩
    · exact ⟨_, rfl, Nat.le_refl _, reached⟩

/-- To pass a wait costs one of those that can be passed in one go. -/
theorem pass_credit {later : Clock} (passed : clock.pass due none = some later) :
    min clock.credit burst ≤ later.credit + 1 := by
  unfold pass at passed
  split at passed
  · cases passed
    exact Nat.min_le_right _ _
  · split at passed
    · cases passed
      apply Nat.le_trans (Nat.min_le_left _ _)
      change clock.credit ≤ clock.credit - 1 + 1
      omega
    · cases passed
      exact Nat.min_le_right _ _

/-- A wait that is passed with a deadline is passed as it would be without one. -/
theorem pass_timed_some {later : Clock} (timely : clock.now ≤ last)
    (passed : clock.pass due (some last) = some later) :
    clock.pass due none = some later ∧ later.now ≤ last ∧
      (clock.pausesBefore due = true → clock.now < last) := by
  unfold pass at passed ⊢
  split at passed
  · rename_i ahead
    have asleep : ¬ due ≤ clock.now := Nat.not_le_of_lt ahead
    split at passed
    · rename_i allowed
      cases passed
      exact ⟨by simp [ahead, Deadline.allows], of_decide_eq_true allowed,
        by simp [pausesBefore, asleep]⟩
    · contradiction
  · rename_i elapsed
    split at passed
    · rename_i credit
      cases passed
      exact ⟨by simp [elapsed, credit], timely, by simp [pausesBefore, Nat.ne_of_gt credit]⟩
    · rename_i spent
      split at passed
      · contradiction
      · rename_i before
        cases passed
        exact ⟨by simp [elapsed, spent, Deadline.isReached], timely,
          fun _ => Nat.lt_of_not_le (by simpa [Deadline.isReached] using before)⟩

/-- A wait is not passed in time if it ends behind the deadline, or needs a pause at it. -/
theorem pass_timed_none (timely : clock.now ≤ last)
    (blocked : clock.pass due (some last) = none) :
    last < due ∨ clock.pausesBefore due = true ∧ clock.now = last := by
  unfold pass at blocked
  split at blocked
  · split at blocked
    · contradiction
    · rename_i refused
      exact .inl (Nat.lt_of_not_le (by simpa [Deadline.allows] using refused))
  · rename_i elapsed
    split at blocked
    · contradiction
    · rename_i spent
      split at blocked
      · rename_i reached
        have late : last ≤ clock.now := by simpa [Deadline.isReached] using reached
        have pause : due ≤ clock.now ∧ clock.credit = 0 := by omega
        exact .inr ⟨by simpa [pausesBefore] using pause, Nat.le_antisymm timely late⟩
      · contradiction

theorem expire_now (timely : clock.now ≤ last) : (clock.expire (some last)).now = last := by
  simp only [expire]
  split
  · rfl
  · rename_i reached
    exact Nat.le_antisymm timely (Nat.le_of_not_lt reached)

theorem rested_now (clock : Clock) : clock.rested.now = clock.now := by
  unfold rested
  split <;> rfl

theorem rested_rested (clock : Clock) : clock.rested.rested = clock.rested := by
  by_cases spent : clock.credit = 0
  · simp [rested, spent, burst]
  · simp [rested, spent]

/-- Without a deadline it is all one whether the pause due is made before a wait or in it. -/
theorem pass_rested (spent : clock.credit = 0) :
    clock.rested.pass due none = clock.pass due none := by
  have pause : clock.rested = ⟨clock.now, burst⟩ := by simp [rested, spent]
  rw [pause]
  by_cases ahead : clock.now < due
  · simp [pass, ahead, Deadline.allows]
  · simp [pass, ahead, spent, burst, Deadline.isReached, resumed]

end Clock

/-- Done in time, and without a pause at the very end of the time. -/
def InTime (outcome : Option α) (now last : Nat) (pauses : List Nat) : Prop :=
  outcome.isSome = true ∧ now ≤ last ∧ last ∉ pauses

namespace Line

/-- What keeps a read from going on at an instant: silence for ever, a wait that ends later, or a
pause that had to be made. -/
def Blocked (hangs : Bool) (reads : List ReadAction) (last : Nat) (pauses : List Nat) : Prop :=
  hangs = true ∧ reads = [] ∨
    ∃ milliseconds since rest, reads = .wait milliseconds (some since) :: rest ∧
      (last < Clock.waitEnd since milliseconds ∨ last ∈ pauses)

/-- The same line, but for a pause that one of them has made already. -/
structure Alike (line other : Line) : Prop where
  line_eq : line = { other with clock := line.clock }
  rested_eq : line.clock.rested = other.clock.rested

theorem Alike.now_eq {line other : Line} (alike : line.Alike other) : line.now = other.now := by
  have same := congrArg Clock.now alike.rested_eq
  rwa [Clock.rested_now, Clock.rested_now] at same

end Line

def ReadAction.isWait : ReadAction → Bool
  | .wait _ _ => true
  | _ => false

namespace Receiver

variable {receiver : Receiver} {clock : Clock} {reads : List ReadAction} {hangs : Bool} {last : Nat}

/-- The instants at which a pull without a deadline makes a pause. -/
def pullPauses : Receiver → Clock → List ReadAction → List Nat
  | _, _, [] => []
  | _, _, .finish :: _ => []
  | _, _, .fail _ :: _ => []
  | receiver, clock, .data bytes :: rest =>
      if bytes.isEmpty then []
      else
        match receiver.take bytes with
        | (some _, _, _) => []
        | (none, taken, _) => taken.pullPauses clock rest
  | receiver, clock, .wait milliseconds begun :: rest =>
      let due := waitDue clock.now milliseconds begun
      let pause := if clock.pausesBefore due then [clock.now] else []
      match clock.pass due none with
      | some later => pause ++ receiver.pullPauses later rest
      | none => pause

/-- The instants at which a call without a deadline makes a pause. -/
def pauses (receiver : Receiver) (line : Line) : List Nat :=
  if receiver.failed then []
  else
    match receiver.decode with
    | (some _, _) => []
    | (none, decoded) => decoded.pullPauses line.clock line.reads

theorem pull_now_le (receiver : Receiver) (hangs : Bool) (clock : Clock)
    (reads : List ReadAction) : clock.now ≤ (receiver.pull none hangs clock reads).clock.now := by
  fun_induction receiver.pull none hangs clock reads with
  | case1 => exact Nat.le_refl _
  | case2 => exact Nat.le_refl _
  | case3 => exact Nat.le_refl _
  | case4 => exact Nat.le_refl _
  | case5 => exact Nat.le_refl _
  | case6 => exact Nat.le_refl _
  | case7 receiver clock bytes rest some_byte taken left taking ih => exact ih
  | case8 receiver clock milliseconds begun rest later passed ih =>
      obtain ⟨_, same, onward, _⟩ := clock.pass_patient (waitDue clock.now milliseconds begun)
      rw [same] at passed
      cases passed
      exact Nat.le_trans onward ih
  | case9 => exact Nat.le_refl _

theorem pull_timed (receiver : Receiver) (hangs : Bool) (reads : List ReadAction)
    (timely : clock.now ≤ last) :
    let patient := receiver.pull none hangs clock reads
    let timed := receiver.pull (some last) hangs clock reads
    let pauses := receiver.pullPauses clock reads
    InTime patient.delivery patient.clock.now last pauses ∧ timed = patient ∨
      ¬ InTime patient.delivery patient.clock.now last pauses ∧ timed.delivery = none ∧
        timed.clock.now = last ∧ Line.Blocked hangs timed.reads last pauses := by
  fun_induction receiver.pull (some last) hangs clock reads with
  | case1 receiver clock hang =>
      refine .inr ⟨?_, rfl, Clock.expire_now timely, .inl ⟨hang, rfl⟩⟩
      simp [InTime, pull, hang]
  | case2 receiver clock hang =>
      exact .inl (by simp [InTime, pull, pullPauses, hang, timely])
  | case3 receiver clock rest => exact .inl (by simp [InTime, pull, pullPauses, timely])
  | case4 receiver clock kind rest => exact .inl (by simp [InTime, pull, pullPauses, timely])
  | case5 receiver clock bytes rest nothing =>
      exact .inl (by simp [InTime, pull, pullPauses, timely, nothing])
  | case6 receiver clock bytes rest some_byte frame taken left taking =>
      exact .inl (by simp [InTime, pull, pullPauses, timely, some_byte, taking])
  | case7 receiver clock bytes rest some_byte taken left taking ih =>
      simp only [pull, pullPauses, if_neg some_byte, taking]
      exact ih timely
  | case8 receiver clock milliseconds begun rest later passed ih =>
      obtain ⟨patient, onward, awake⟩ := Clock.pass_timed_some timely passed
      have early (others : List Nat) :
          last ∈ (if clock.pausesBefore (waitDue clock.now milliseconds begun) then [clock.now]
            else []) ++ others ↔ last ∈ others := by
        split
        · rename_i pause
          have before : last ≠ clock.now := Nat.ne_of_gt (awake pause)
          simp [before]
        · simp
      simpa only [pull, pullPauses, patient, InTime, Line.Blocked, early] using ih onward
  | case9 receiver clock milliseconds begun rest blocked =>
      obtain ⟨later, patient, _, reached⟩ :=
        clock.pass_patient (waitDue clock.now milliseconds begun)
      have onward : receiver.pull none hangs clock (.wait milliseconds begun :: rest) =
          receiver.pull none hangs later rest := by simp only [pull, patient]
      have beyond := pull_now_le receiver hangs later rest
      refine .inr ⟨?_, rfl, Clock.expire_now timely, .inr ⟨milliseconds, _, rest, rfl, ?_⟩⟩
      · rintro ⟨_, inTime, quiet⟩
        rw [onward] at inTime
        rcases Clock.pass_timed_none timely blocked with late | ⟨pause, rfl⟩
        · omega
        · simp [pullPauses, patient, pause] at quiet
      · rcases Clock.pass_timed_none timely blocked with late | ⟨pause, rfl⟩
        · exact .inl late
        · exact .inr (by simp [pullPauses, patient, pause])

/-- Without a deadline the pause that is due at the start may as well be made before. -/
theorem pull_rested (receiver : Receiver) (hangs : Bool) (clock : Clock) (reads : List ReadAction) :
    let pulled := receiver.pull none hangs clock reads
    let rested := receiver.pull none hangs clock.rested reads
    rested = { pulled with clock := rested.clock } ∧ rested.clock.rested = pulled.clock.rested := by
  by_cases spent : clock.credit = 0
  · fun_induction receiver.pull none hangs clock reads with
    | case1 receiver clock hang => simp [pull, hang, Clock.expire, Clock.rested_rested]
    | case2 receiver clock hang => simp [pull, hang, Clock.rested_rested]
    | case3 receiver clock rest => simp [pull, Clock.rested_rested]
    | case4 receiver clock kind rest => simp [pull, Clock.rested_rested]
    | case5 receiver clock bytes rest nothing => simp [pull, nothing, Clock.rested_rested]
    | case6 receiver clock bytes rest some_byte frame taken left taking =>
        simp [pull, some_byte, taking, Clock.rested_rested]
    | case7 receiver clock bytes rest some_byte taken left taking ih =>
        simpa only [pull, if_neg some_byte, taking] using ih spent
    -- From the first wait on the two clocks are the same.
    | case8 receiver clock milliseconds begun rest later passed ih =>
        simp [pull, Clock.rested_now, Clock.pass_rested spent, passed]
    | case9 receiver clock milliseconds begun rest blocked =>
        obtain ⟨later, patient, _⟩ := clock.pass_patient (waitDue clock.now milliseconds begun)
        rw [patient] at blocked
        contradiction
  · have same : clock.rested = clock := by simp [Clock.rested, spent]
    rw [same]
    exact ⟨rfl, rfl⟩

/-- A pause comes only when all that can be passed in one go has been passed. -/
theorem pullPauses_eq_nil (few : reads.countP ReadAction.isWait ≤ min clock.credit burst) :
    receiver.pullPauses clock reads = [] := by
  fun_induction receiver.pullPauses clock reads with
  | case1 => rfl
  | case2 => rfl
  | case3 => rfl
  | case4 => rfl
  | case5 => rfl
  | case6 receiver clock bytes rest some_byte taken left taking ih => exact ih few
  | case7 receiver clock milliseconds begun rest due pause later passed ih =>
      rw [List.countP_cons_of_pos (by rfl)] at few
      have credit : clock.credit ≠ 0 := by omega
      have left := Clock.pass_credit passed
      have quiet : pause = [] := by simp [pause, Clock.pausesBefore, credit]
      rw [quiet, ih (by omega), List.append_nil]
  | case8 receiver clock milliseconds begun rest due pause blocked =>
      obtain ⟨later, passed, _⟩ := clock.pass_patient due
      rw [blocked] at passed
      contradiction

theorem pauses_eq_nil {line : Line}
    (few : line.reads.countP ReadAction.isWait ≤ min line.clock.credit burst) :
    receiver.pauses line = [] := by
  unfold pauses
  split
  · rfl
  · split
    · rfl
    · exact pullPauses_eq_nil few

/-- A call that ran out of time: how far it has come, and what it has done with what the line
brought up to then. -/
structure GaveUp (before : Receiver) (line : Line) (last : Nat) (pauses : List Nat)
    (attempt : Attempt Delivery Receiver) : Prop where
  silent : attempt.outcome = none
  now_eq : attempt.line.now = last
  blocked : Line.Blocked line.readsHang attempt.line.reads last pauses
  drained : attempt.owner.buffer = []
  buffered : ∃ brought,
    Line.delivered line.reads = brought ++ Line.delivered attempt.line.reads ∧
      attempt.owner.reassembler.buffer.toList =
        before.reassembler.buffer.toList ++ before.buffer ++ brought

theorem next_timed (receiver : Receiver) {line : Line} (timely : line.now ≤ last) :
    let patient := receiver.next line none
    let timed := receiver.next line (some last)
    let pauses := receiver.pauses line
    InTime patient.outcome patient.line.now last pauses ∧ timed = patient ∨
      ¬ InTime patient.outcome patient.line.now last pauses ∧
        GaveUp receiver line last pauses timed := by
  by_cases failed : receiver.failed = true
  · exact .inl (by simp [next, pauses, InTime, failed, timely])
  · rcases decoding : receiver.decode with ⟨outcome, decoded⟩
    cases outcome with
    | some frame => exact .inl (by simp [next, pauses, InTime, failed, decoding, timely])
    | none =>
        simp only [next, pauses, if_neg failed, decoding]
        rcases decoded.pull_timed line.readsHang line.reads timely with
          ⟨inTime, same⟩ | ⟨late, silent, now, blocked⟩
        · exact .inl ⟨inTime, by rw [same]⟩
        · obtain ⟨front, frontSplit, frontFed, drained, sameFailed⟩ := decode_cases decoding
          have used := drained rfl
          have live := sameFailed.trans (Bool.eq_false_iff.mpr failed)
          let pulled := decoded.pull (some last) line.readsHang line.clock line.reads
          have reading : Reading (some last) line.readsHang decoded line.reads pulled.delivery
              pulled.receiver pulled.reads := pull_reading used live
          obtain ⟨brought, split, fed⟩ := reading.consumes
          have nothing := congrArg (·.bind Delivery.frame?) silent
          have lastUsed := reading.drains nothing
          rw [nothing] at fed
          rw [used, lastUsed, List.nil_append, List.nil_append] at split
          refine .inr ⟨late, silent, now, blocked, lastUsed, brought, split, ?_⟩
          have buffered := Reassembler.buffer_of_feedAll_nil frontFed
          rw [used, List.append_nil] at frontSplit
          rw [Reassembler.buffer_of_feedAll_nil fed, buffered, frontSplit]

theorem next_rested (receiver : Receiver) (line : Line) :
    let called := receiver.next line none
    let rested := receiver.next { line with clock := line.clock.rested } none
    rested.outcome = called.outcome ∧ rested.owner = called.owner ∧
      rested.line.Alike called.line := by
  by_cases failed : receiver.failed = true
  · simp only [next, if_pos failed, true_and]
    exact ⟨rfl, line.clock.rested_rested⟩
  · rcases decoding : receiver.decode with ⟨outcome, decoded⟩
    cases outcome with
    | some frame =>
        simp only [next, if_neg failed, decoding, true_and]
        exact ⟨rfl, line.clock.rested_rested⟩
    | none =>
        obtain ⟨same, alike⟩ := decoded.pull_rested line.readsHang line.clock line.reads
        simp only [next, if_neg failed, decoding]
        rw [same]
        exact ⟨rfl, rfl, rfl, alike⟩

end Receiver

end SerialLink
