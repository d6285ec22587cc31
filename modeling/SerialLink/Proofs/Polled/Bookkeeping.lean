import SerialLink.Proofs.Polled.Calls

namespace SerialLink.Session

/-! What a session has written and counted.

A request is written whole and counted, or refused and neither.  Of the frames that have come in,
those count that were read as responses, whether they could be or not; a frame that is handed out as
it is does not.
-/

/-- The request that a call has got sent. -/
def sent? : Call × Reply → Option Request
  | (.send request, .sent (.ok ())) => some request
  | _ => none

/-- The bytes that a reply has collected from the queue. -/
def Reply.collected : Reply → Bytes
  | .taken bytes => bytes
  | .sent _ | .frame _ | .response _ | .responses _ | .done => []

def answersOf : Except LinkError (Option Response) → List (Except LinkError Response)
  | .ok none => []
  | .ok (some response) => [.ok response]
  | .error error => [.error error]

/-- What was read as responses, or failed to be. -/
def Reply.answers : Reply → List (Except LinkError Response)
  | .response outcome => answersOf outcome
  | .responses outcomes => outcomes
  | .sent _ | .frame _ | .taken _ | .done => []

def countsAsValid : Except LinkError Response → Bool
  | .ok _ => true
  | .error _ => false

def countsAsCorrupted : Except LinkError Response → Bool
  | .error (.protocol _) => true
  | .error (.line _) | .error .closed | .ok _ => false

/-- Only a frame is answered like this, whether it decodes or not.  Which frame that was, the answer
does not say, but `Reads` does. -/
def countsAsFrame (answer : Except LinkError Response) : Bool :=
  countsAsValid answer || countsAsCorrupted answer

/-- The bytes of a queue up to its first failure. -/
def bytesAhead : List (Except IoKind UInt8) → Bytes
  | .ok byte :: rest => byte :: bytesAhead rest
  | .error _ :: _ | [] => []

/-- The frames that are complete before the queue ends or fails.  Polling hands them out one after the
other. -/
def completions (session : Session) : List Bytes :=
  (session.reassembler.feedAll (bytesAhead session.queue.pending)).1

/-- The frames that a call has polled for and reads as responses. -/
def Call.frames (session : Session) : Call → List Bytes
  | .pollResponse => session.completions.take 1
  | .drain => session.completions
  | .send _ | .pollFrame | .pushBytes _ | .pushError _ | .failWrites _ | .takeWritten => []

/-- The frames that calls have read as responses, in order. -/
def framesRead : Session → List Call → List Bytes
  | _, [] => []
  | session, call :: calls => call.frames session ++ framesRead (session.perform call).2 calls

variable {session middle after : Session} {frame : Bytes} {frames others : List Bytes}
  {answers later : List (Except LinkError Response)}

theorem bytesAhead_append (bytes : Bytes) (rest : List (Except IoKind UInt8)) :
    bytesAhead (bytes.map .ok ++ rest) = bytes ++ bytesAhead rest := by
  induction bytes with
  | nil => rfl
  | cons byte bytes ih => exact congrArg (byte :: ·) ih

theorem completions_of_idle (polling : session.pollFrame = (.ok none, after)) :
    session.completions = [] := by
  obtain ⟨bytes, pending, _, fed⟩ := pollFrame_idle polling
  rw [← List.append_nil (bytes.map _)] at pending
  rw [completions, pending, bytesAhead_append, bytesAhead, List.append_nil, fed]

theorem completions_of_failed {error : LinkError}
    (polling : session.pollFrame = (.error error, after)) : session.completions = [] := by
  obtain ⟨bytes, kind, _, pending, fed⟩ := pollFrame_failed polling
  rw [completions, pending, bytesAhead_append, bytesAhead, List.append_nil, fed]

theorem completions_of_completed (polling : session.pollFrame = (.ok (some frame), after)) :
    session.completions = frame :: after.completions := by
  obtain ⟨bytes, pending, fed⟩ := pollFrame_completed polling
  rw [completions, pending, bytesAhead_append, Reassembler.feedAll_append, fed]
  rfl

theorem decode_completions (session : Session) (frame : Bytes) :
    (session.decode frame).2.completions = session.completions := by
  rw [completions, decode_queue, decode_reassembler, completions]

/-- These frames were read as responses, with these answers.  What was written stays as it was. -/
structure Reads (session : Session) (frames : List Bytes)
    (answers : List (Except LinkError Response)) (after : Session) : Prop where
  written_eq : after.queue.written = session.queue.written
  sent_eq : after.traffic.sent = session.traffic.sent
  /-- An answer counts exactly if it is what a completed frame is read as. -/
  counted_eq : answers.filter countsAsFrame = frames.map readAs
  total_eq : after.traffic.total = session.traffic.total + frames.length
  valid_eq : after.traffic.valid = session.traffic.valid + answers.countP countsAsValid
  corrupted_eq : after.traffic.corrupted =
    session.traffic.corrupted + answers.countP countsAsCorrupted
  timedOut_eq : after.traffic.timedOut = session.traffic.timedOut

theorem Reads.trans (first : Reads session frames answers middle)
    (second : Reads middle others later after) :
    Reads session (frames ++ others) (answers ++ later) after := by
  refine ⟨second.written_eq.trans first.written_eq, second.sent_eq.trans first.sent_eq, ?_, ?_, ?_,
    ?_, second.timedOut_eq.trans first.timedOut_eq⟩
  · rw [List.filter_append, first.counted_eq, second.counted_eq, List.map_append]
  · rw [second.total_eq, first.total_eq, List.length_append, Nat.add_assoc]
  · rw [second.valid_eq, first.valid_eq, List.countP_append, Nat.add_assoc]
  · rw [second.corrupted_eq, first.corrupted_eq, List.countP_append, Nat.add_assoc]

theorem pollFrame_reads (session : Session) : Reads session [] [] session.pollFrame.2 :=
  ⟨rfl, rfl, rfl, rfl, rfl, rfl, rfl⟩

/-- Without a frame it is the line that has failed, so the answer does not count. -/
theorem pollFrame_failed_reads {error : LinkError}
    (polling : session.pollFrame = (.error error, after)) :
    Reads session [] [.error error] after := by
  obtain ⟨_, kind, rfl, _⟩ := pollFrame_failed polling
  have reads := session.pollFrame_reads
  rw [polling] at reads
  exact ⟨reads.written_eq, reads.sent_eq, rfl, reads.total_eq, reads.valid_eq, reads.corrupted_eq,
    reads.timedOut_eq⟩

/-- Whatever a frame is read as, it counts. -/
theorem countsAsFrame_readAs (frame : Bytes) : countsAsFrame (readAs frame) = true := by
  rcases readAs_cases frame with ⟨response, read⟩ | ⟨error, read⟩
  · rw [read]
    rfl
  · rw [read]
    rfl

theorem decode_reads (session : Session) (frame : Bytes) :
    Reads session [frame] [readAs frame] (session.decode frame).2 := by
  have counted : [readAs frame].filter countsAsFrame = [frame].map readAs :=
    List.filter_cons_of_pos (countsAsFrame_readAs frame)
  unfold decode
  split
  · rename_i response decoded
    have read : readAs frame = .ok response := by
      rw [readAs, decoded]
      rfl
    rw [read] at counted ⊢
    exact ⟨rfl, rfl, counted, rfl, rfl, rfl, rfl⟩
  · rename_i error decoded
    have read : readAs frame = .error (.protocol error) := by
      rw [readAs, decoded]
      rfl
    rw [read] at counted ⊢
    exact ⟨rfl, rfl, counted, rfl, rfl, rfl, rfl⟩

theorem pollFrame_completed_reads (polling : session.pollFrame = (.ok (some frame), middle)) :
    Reads session [frame] [readAs frame] (middle.decode frame).2 := by
  have reads := session.pollFrame_reads
  rw [polling] at reads
  exact reads.trans (middle.decode_reads frame)

theorem pollResponse_reads (session : Session) :
    Reads session (session.completions.take 1) (answersOf session.pollResponse.1)
      session.pollResponse.2 := by
  unfold pollResponse
  split
  · rename_i error polled polling
    rw [completions_of_failed polling]
    exact pollFrame_failed_reads polling
  · rename_i polled polling
    have reads := session.pollFrame_reads
    rw [polling] at reads
    rw [completions_of_idle polling]
    exact reads
  · rename_i frame polled polling
    have reads := pollFrame_completed_reads polling
    rw [completions_of_completed polling, List.take_succ_cons, List.take_zero]
    rw [← polled.decode_fst frame] at reads
    rcases decoding : polled.decode frame with ⟨outcome, decoded⟩
    rw [decoding] at reads
    cases outcome <;> exact reads

theorem drain_reads (session : Session) :
    Reads session session.completions session.drain.1 session.drain.2 := by
  fun_induction drain session with
  | case1 session error polled polling =>
      rw [completions_of_failed polling]
      exact pollFrame_failed_reads polling
  | case2 session polled polling =>
      have reads := session.pollFrame_reads
      rw [polling] at reads
      rwa [completions_of_idle polling]
  | case3 session frame polled polling _ rest last draining ih =>
      rw [draining, decode_completions] at ih
      rw [completions_of_completed polling, decode_fst]
      exact (pollFrame_completed_reads polling).trans ih

/-- A request is sent unless writes have been made to fail; then nothing changes. -/
theorem send_cases (session : Session) (request : Request) :
    (session.queue.writeFault = none ∧ session.send request =
        (.ok (), { session with
          queue := { session.queue with written := session.queue.written ++ request.encode }
          traffic := session.traffic.recordSent })) ∨
      ∃ kind, session.queue.writeFault = some kind ∧
        session.send request = (.error (.line (.ofKind kind)), session) := by
  cases fault : session.queue.writeFault with
  | none => exact .inl ⟨rfl, by simp only [send, ByteQueue.write, fault]⟩
  | some kind => exact .inr ⟨kind, rfl, by simp only [send, ByteQueue.write, fault]⟩

/-- One call: what it writes is what it sends, and what it counts is what it answers. -/
structure Books (session : Session) (entry : Call × Reply) (after : Session) : Prop where
  written_eq : entry.2.collected ++ after.queue.written =
    session.queue.written ++ ((sent? entry).toList.map Request.encode).flatten
  sent_eq : after.traffic.sent = session.traffic.sent + (sent? entry).toList.length
  counted_eq : entry.2.answers.filter countsAsFrame = (entry.1.frames session).map readAs
  total_eq : after.traffic.total = session.traffic.total + (entry.1.frames session).length
  valid_eq : after.traffic.valid = session.traffic.valid + entry.2.answers.countP countsAsValid
  corrupted_eq : after.traffic.corrupted =
    session.traffic.corrupted + entry.2.answers.countP countsAsCorrupted
  timedOut_eq : after.traffic.timedOut = session.traffic.timedOut

variable {call : Call} {reply : Reply}

theorem Reads.books (reads : Reads session (call.frames session) reply.answers after)
    (unsent : sent? (call, reply) = none) (kept : reply.collected = []) :
    Books session (call, reply) after := by
  refine ⟨?_, ?_, reads.counted_eq, reads.total_eq, reads.valid_eq, reads.corrupted_eq,
    reads.timedOut_eq⟩
  · rw [unsent, kept, reads.written_eq]
    exact (List.append_nil _).symm
  · rw [unsent, reads.sent_eq]
    rfl

theorem send_books (session : Session) (request : Request) :
    Books session (.send request, .sent (session.send request).1) (session.send request).2 := by
  rcases session.send_cases request with ⟨_, done⟩ | ⟨kind, _, failed⟩
  · rw [done]
    refine ⟨?_, rfl, rfl, rfl, rfl, rfl, rfl⟩
    simp [sent?, Reply.collected]
  · rw [failed]
    exact Reads.books ⟨rfl, rfl, rfl, rfl, rfl, rfl, rfl⟩ rfl rfl

theorem perform_books (session : Session) (call : Call) :
    Books session (call, (session.perform call).1) (session.perform call).2 := by
  cases call with
  | send request => exact session.send_books request
  | pollFrame => exact session.pollFrame_reads.books rfl rfl
  | pollResponse => exact session.pollResponse_reads.books rfl rfl
  | drain => exact session.drain_reads.books rfl rfl
  | pushBytes _ | pushError _ | failWrites _ =>
      exact Reads.books ⟨rfl, rfl, rfl, rfl, rfl, rfl, rfl⟩ rfl rfl
  | takeWritten => exact ⟨rfl, rfl, rfl, rfl, rfl, rfl, rfl⟩

/-- What calls have come to, held against what was written and counted. -/
structure Booked (queue : ByteQueue) (entries : List (Call × Reply)) (session : Session) :
    Prop where
  written_eq : entries.flatMap (·.2.collected) ++ session.queue.written =
    queue.written ++ ((entries.filterMap sent?).map Request.encode).flatten
  sent_eq : session.traffic.sent = (entries.filterMap sent?).length
  valid_eq : session.traffic.valid = (entries.flatMap (·.2.answers)).countP countsAsValid
  corrupted_eq : session.traffic.corrupted =
    (entries.flatMap (·.2.answers)).countP countsAsCorrupted
  timedOut_eq : session.traffic.timedOut = 0

variable {queue : ByteQueue} {entries : List (Call × Reply)} {entry : Call × Reply}

theorem booked_start (queue : ByteQueue) : Booked queue [] (start queue) :=
  ⟨(List.append_nil _).symm, rfl, rfl, rfl, rfl⟩

theorem Booked.step (booked : Booked queue entries session) (books : Books session entry after) :
    Booked queue (entries ++ [entry]) after := by
  have answered : (entries ++ [entry]).flatMap (·.2.answers) =
      entries.flatMap (·.2.answers) ++ entry.2.answers := by
    rw [List.flatMap_append, List.flatMap_singleton]
  refine ⟨?_, ?_, ?_, ?_, books.timedOut_eq.trans booked.timedOut_eq⟩
  · rw [List.flatMap_append, List.flatMap_singleton, List.append_assoc, books.written_eq,
      ← List.append_assoc, booked.written_eq, filterMap_concat, List.map_append,
      List.flatten_append, List.append_assoc]
  · rw [filterMap_concat, List.length_append, books.sent_eq, booked.sent_eq]
  · rw [answered, List.countP_append, books.valid_eq, booked.valid_eq]
  · rw [answered, List.countP_append, books.corrupted_eq, booked.corrupted_eq]

/-- The answers that count are the completed frames, each read as a response, and they are all that is
counted as received. -/
theorem history_counts (session : Session) (calls : List Call) :
    let run := history perform session calls
    let frames := session.framesRead calls
    (run.1.flatMap (·.2.answers)).filter countsAsFrame = frames.map readAs ∧
      run.2.traffic.total = session.traffic.total + frames.length := by
  induction calls generalizing session with
  | nil => exact ⟨rfl, rfl⟩
  | cons call calls ih =>
      have books := session.perform_books call
      obtain ⟨counted, total⟩ := ih (session.perform call).2
      simp only [history, framesRead, List.flatMap_cons, List.filter_append, List.map_append,
        List.length_append]
      refine ⟨?_, ?_⟩
      · rw [books.counted_eq, counted]
      · rw [total, books.total_eq, Nat.add_assoc]

theorem countP_countsAsFrame (answers : List (Except LinkError Response)) :
    answers.countP countsAsFrame =
      answers.countP countsAsValid + answers.countP countsAsCorrupted := by
  induction answers with
  | nil => rfl
  | cons answer answers ih =>
      simp only [List.countP_cons, ih]
      cases answer with
      | ok response =>
          simp only [countsAsFrame, countsAsValid, countsAsCorrupted]
          exact Nat.add_right_comm _ _ _
      | error error =>
          have frame : countsAsFrame (.error error) = countsAsCorrupted (.error error) := rfl
          rw [frame]
          exact Nat.add_assoc _ _ _

/-- The counters and the line agree with what the calls have come to, whenever writes begin to fail
and whichever calls the frames came out with.  The answers that count stand for the completed frames
that were read as responses, one for each and in their order. -/
theorem history_books (queue : ByteQueue) (calls : List Call) :
    let run := history perform (start queue) calls
    let session := run.2
    let traffic := session.traffic
    let requests := run.1.filterMap sent?
    let answers := run.1.flatMap (·.2.answers)
    let frames := (start queue).framesRead calls
    run.1.flatMap (·.2.collected) ++ session.queue.written =
        queue.written ++ (requests.map Request.encode).flatten ∧
      traffic.sent = requests.length ∧
      traffic.total = traffic.valid + traffic.corrupted ∧
      traffic.total = answers.countP countsAsFrame ∧
      answers.filter countsAsFrame = frames.map readAs ∧
      traffic.total = frames.length ∧
      traffic.valid = answers.countP countsAsValid ∧
      traffic.corrupted = answers.countP countsAsCorrupted ∧
      traffic.timedOut = 0 ∧
      ∀ (session : Session) (request : Request),
        ((session.send request).1 = .ok () ↔ session.queue.writeFault = none) ∧
          ∀ error, (session.send request).1 = .error error →
            (session.send request).2 = session := by
  intro run session traffic requests answers frames
  obtain ⟨written, sent, valid, corrupted, timedOut⟩ :=
    history_run (motive := Booked queue)
      (fun _ session call booked => booked.step (session.perform_books call))
      (booked_start queue) calls
  obtain ⟨counted, received⟩ := history_counts (start queue) calls
  have framed : traffic.total = frames.length := received.trans (Nat.zero_add _)
  have total : traffic.total = answers.countP countsAsFrame := by
    rw [framed, List.countP_eq_length_filter, counted, List.length_map]
  refine ⟨written, sent, ?_, total, counted, framed, valid, corrupted, timedOut, ?_⟩
  · calc
      traffic.total = answers.countP countsAsFrame := total
      _ = answers.countP countsAsValid + answers.countP countsAsCorrupted :=
        countP_countsAsFrame answers
      _ = traffic.valid + traffic.corrupted := by rw [← valid, ← corrupted]
  · intro session request
    rcases session.send_cases request with ⟨willing, done⟩ | ⟨kind, unwilling, failed⟩
    · rw [done]
      exact ⟨iff_of_true rfl willing, nofun⟩
    · rw [failed]
      refine ⟨iff_of_false nofun ?_, fun _ _ => rfl⟩
      rw [unwilling]
      exact nofun

end SerialLink.Session
