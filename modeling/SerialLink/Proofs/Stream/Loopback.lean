import SerialLink.Proofs.History
import SerialLink.Proofs.Stream.RoundTrip
import SerialLink.Stream.Loopback

namespace SerialLink

/-! Frames that go round through two byte buffers.

Decoding takes bytes off the source up to the one that completes a frame.  If there is none, all of
them go into the reassembler: the beginning of a frame waits there and never in the source, so
nothing can be left over when no more bytes come.
-/

namespace Reassembler

variable {reassembler fed : Reassembler} {chunk rest frame : Bytes}

/-- The frame taken off a chunk is the first one that its bytes complete. -/
theorem next_eq_some_iff : reassembler.next chunk = (some frame, fed, rest) ↔
    ∃ front byte, chunk = front ++ byte :: rest ∧
      reassembler.feedEach (front ++ [byte]) =
        (List.replicate front.length none ++ [some frame], fed) := by
  induction chunk generalizing reassembler with
  | nil => simp [next]
  | cons byte chunk ih =>
      rcases feeding : reassembler.feed byte with ⟨outcome, after⟩
      cases outcome with
      | some first =>
          simp only [next, feeding]
          constructor
          · intro took
            cases took
            exact ⟨[], byte, rfl, by simp [feedEach, feeding]⟩
          · rintro ⟨front, last, split, each⟩
            cases front with
            | nil =>
                cases split
                simp only [List.nil_append, feedEach, feeding] at each
                cases each
                rfl
            | cons head front =>
                cases split
                simp [feedEach, feeding, List.replicate_succ] at each
      | none =>
          simp only [next, feeding]
          rw [ih]
          constructor
          · rintro ⟨front, last, rfl, each⟩
            refine ⟨byte :: front, last, rfl, ?_⟩
            simp only [List.cons_append, feedEach, feeding, each, List.length_cons,
              List.replicate_succ]
          · rintro ⟨front, last, split, each⟩
            cases front with
            | nil =>
                cases split
                simp [feedEach, feeding] at each
            | cons head front =>
                cases split
                refine ⟨front, last, rfl, ?_⟩
                simp only [List.cons_append, feedEach, feeding, List.length_cons,
                  List.replicate_succ, Prod.mk.injEq, List.cons.injEq, true_and] at each
                exact Prod.ext each.1 each.2

theorem next_eq_none_iff : reassembler.next chunk = (none, fed, rest) ↔
    rest = [] ∧ reassembler.feedEach chunk = (List.replicate chunk.length none, fed) := by
  induction chunk generalizing reassembler with
  | nil => simp [next, feedEach, and_comm, eq_comm]
  | cons byte chunk ih =>
      rcases feeding : reassembler.feed byte with ⟨outcome, after⟩
      cases outcome with
      | some first => simp [next, feedEach, feeding, List.replicate_succ]
      | none =>
          simp only [next, feeding]
          rw [ih]
          simp [feedEach, feeding, List.replicate_succ, Prod.ext_iff]

end Reassembler

namespace Loopback

open Reassembler

variable {loopback after : Loopback}

theorem decode_eq_iff {outcome : Option Bytes} : loopback.decode = (outcome, after) ↔
    loopback.reassembler.next loopback.source = (outcome, after.reassembler, after.source) ∧
      after.sink = loopback.sink := by
  obtain ⟨reassembler, source, sink⟩ := loopback
  obtain ⟨fed, rest, same⟩ := after
  rcases took : reassembler.next source with ⟨frame, last, left⟩
  simp only [decode, took, Prod.mk.injEq, Loopback.mk.injEq, eq_comm (a := same), and_assoc]

theorem decode_eq_some_iff {frame : Bytes} : loopback.decode = (some frame, after) ↔
    ∃ front byte, loopback.source = front ++ byte :: after.source ∧
      loopback.reassembler.feedEach (front ++ [byte]) =
        (List.replicate front.length none ++ [some frame], after.reassembler) ∧
      after.sink = loopback.sink := by
  simp only [decode_eq_iff, next_eq_some_iff, ← and_assoc, exists_and_right]

theorem decode_eq_none_iff : loopback.decode = (none, after) ↔
    after.source = [] ∧
      loopback.reassembler.feedEach loopback.source =
        (List.replicate loopback.source.length none, after.reassembler) ∧
      after.sink = loopback.sink := by
  rw [decode_eq_iff, next_eq_none_iff, and_assoc]

/-- Decoding without a frame has used up the source. -/
theorem decodeLast_eq (loopback : Loopback) :
    loopback.decodeLast = (.ok loopback.decode.1, loopback.decode.2) := by
  rcases decoding : loopback.decode with ⟨outcome, after⟩
  cases outcome with
  | some frame => simp only [decodeLast, decoding]
  | none =>
      have drained := (decode_eq_none_iff.mp decoding).1
      simp only [decodeLast, decoding, drained, List.isEmpty_nil, if_true]

/-- What is done to a loopback that carries items of one kind. -/
inductive Call (α : Type) where
  | encode (item : α)
  | turnAround
  | decode

variable {α : Type} {layout : Layout} {put : Loopback → α → Loopback} {encode : α → Bytes}

def Call.item? : Call α → Option α
  | .encode item => some item
  | .turnAround | .decode => none

/-- A call, and the frame that came out with it. -/
def perform (put : Loopback → α → Loopback) (loopback : Loopback) :
    Call α → Option Bytes × Loopback
  | .encode item => (none, put loopback item)
  | .turnAround => (none, loopback.turnAround)
  | .decode => loopback.decode

/-- All that was encoded is in the frames that came out, in the reassembler or in a buffer. -/
def Carrying (layout : Layout) (encode : α → Bytes) (entries : List (Call α × Option Bytes))
    (loopback : Loopback) : Prop :=
  ∃ fed, fed ++ (loopback.source ++ loopback.sink) =
      ((entries.filterMap (·.1.item?)).map encode).flatten ∧
    (Reassembler.empty layout).feedAll fed = (entries.filterMap (·.2), loopback.reassembler)

theorem Carrying.step {entries : List (Call α × Option Bytes)}
    (carrying : Carrying layout encode entries loopback)
    (puts : ∀ loopback item,
      put loopback item = { loopback with sink := loopback.sink ++ encode item })
    (call : Call α) :
    Carrying layout encode (entries ++ [(call, (perform put loopback call).1)])
      (perform put loopback call).2 := by
  obtain ⟨fed, conserved, feeding⟩ := carrying
  simp only [Carrying, filterMap_concat, List.map_append, List.flatten_append, ← conserved]
  cases call with
  | encode item =>
      refine ⟨fed, ?_, ?_⟩
      · simp [perform, puts, Call.item?]
      · simpa [perform, puts] using feeding
  | turnAround =>
      refine ⟨fed, ?_, ?_⟩
      · simp [perform, turnAround, Call.item?]
      · simpa [perform, turnAround] using feeding
  | decode =>
      rcases decoding : loopback.decode with ⟨outcome, after⟩
      obtain ⟨took, same⟩ := decode_eq_iff.mp decoding
      obtain ⟨consumed, split, feedingMore, _⟩ := next_consumed took
      refine ⟨fed ++ consumed, ?_, ?_⟩
      · simp [perform, decoding, same, split, Call.item?]
      · simp only [perform, decoding, feedAll_append, feeding, feedingMore]

/-- Items come out in the order in which they were encoded, and the last of them has come out when
nothing is left in the buffers. -/
theorem history_in_order (calls : List (Call α))
    (puts : ∀ loopback item,
      put loopback item = { loopback with sink := loopback.sink ++ encode item })
    (whole : ∀ item, layout.IsFrame (encode item)) :
    let run := history (perform put) (empty layout) calls
    let frames := run.1.filterMap (·.2)
    let encoded := (calls.filterMap Call.item?).map encode
    frames <+: encoded ∧ (frames = encoded ↔ run.2.source = [] ∧ run.2.sink = []) := by
  intro run frames encoded
  have initially : Carrying layout encode [] (empty layout) := ⟨[], rfl, rfl⟩
  obtain ⟨fed, conserved, feeding⟩ := history_run (motive := Carrying layout encode)
    (fun _ _ call carrying => carrying.step puts call) initially calls
  have feeding : (Reassembler.empty layout).feedAll fed = (frames, run.2.reassembler) := feeding
  have called : run.1.filterMap (·.1.item?) = calls.filterMap Call.item? := by
    rw [← history_calls (perform put) (empty layout) calls, List.filterMap_map]
    rfl
  rw [called] at conserved
  have frame (bytes : Bytes) (member : bytes ∈ encoded) : layout.IsFrame bytes := by
    obtain ⟨item, _, rfl⟩ := List.mem_map.mp member
    exact whole item
  refine ⟨prefix_of_feedAll frame conserved feeding, ?_⟩
  rw [← List.append_eq_nil_iff]
  constructor
  · intro all
    rw [all] at feeding
    exact nothing_behind feeding conserved
  · intro nothing
    rw [nothing, List.append_nil] at conserved
    rw [conserved, feedAll_flatten frame] at feeding
    exact (congrArg Prod.fst feeding).symm

/-- Decoding agrees with feeding the source byte by byte: it stops behind the first frame, and
without one it takes every byte, so that the end of the stream makes no difference.  What is encoded
and turned around comes out whole and in order, for either layout. -/
theorem frames_go_round :
    (∀ loopback frame after, decode loopback = (some frame, after) ↔
      ∃ front byte, loopback.source = front ++ byte :: after.source ∧
        loopback.reassembler.feedEach (front ++ [byte]) =
          (List.replicate front.length none ++ [some frame], after.reassembler) ∧
        after.sink = loopback.sink) ∧
      (∀ loopback after, decode loopback = (none, after) ↔
        after.source = [] ∧
          loopback.reassembler.feedEach loopback.source =
            (List.replicate loopback.source.length none, after.reassembler) ∧
          after.sink = loopback.sink) ∧
      (∀ loopback : Loopback, loopback.decodeLast = (.ok loopback.decode.1, loopback.decode.2)) ∧
      (∀ calls : List (Call Response),
        let run := history (perform encodeResponse) (empty .response) calls
        let frames := run.1.filterMap (·.2)
        let encoded := (calls.filterMap Call.item?).map Response.encode
        frames <+: encoded ∧ (frames = encoded ↔ run.2.source = [] ∧ run.2.sink = [])) ∧
      ∀ calls : List (Call Request),
        let run := history (perform encodeRequest) (empty .request) calls
        let frames := run.1.filterMap (·.2)
        let encoded := (calls.filterMap Call.item?).map Request.encode
        frames <+: encoded ∧ (frames = encoded ↔ run.2.source = [] ∧ run.2.sink = []) := by
  refine ⟨fun _ _ _ => decode_eq_some_iff, fun _ _ => decode_eq_none_iff, decodeLast_eq, ?_, ?_⟩
  · intro calls
    exact history_in_order calls (fun _ _ => rfl) Response.isFrame_encode
  · intro calls
    exact history_in_order calls (fun _ _ => rfl) Request.isFrame_encode

end Loopback

end SerialLink
