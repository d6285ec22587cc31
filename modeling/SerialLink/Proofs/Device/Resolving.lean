import SerialLink.Device.Answer
import SerialLink.Proofs.Stream.RoundTrip

namespace SerialLink.Answer

/-! What an answer comes down to.

What computes an answer is applied to the request, and so is what comes of that, until there is nothing
left to apply.  Every round goes one level down into a tree of functions, so the rounds come to an end,
and they never change the bytes that are written in the end.
-/

variable {answer : Answer} {request : Request}

theorem ofCode_eq (code : UInt8) (payload : Bytes) :
    ofCode code payload =
      .reply ⟨code, 0, ⟨payload.take maxPayload, List.length_take_le _ _⟩⟩ := by
  have fits : (payload.take maxPayload).length ≤ maxPayload := List.length_take_le _ _
  simp only [ofCode, Response.make, Payload.ofBytes, dif_pos fits, Except.map]

/-- What came in a frame goes back in a frame as it is. -/
theorem ok_payload (payload : Payload) : ok payload.bytes = .reply ⟨0, 0, payload⟩ := by
  have whole : payload.bytes.take maxPayload = payload.bytes :=
    List.take_of_length_le payload.length_le
  rw [ok, ofCode_eq]
  simp only [whole]
  rfl

/-- What is computed takes the place of what computes it. -/
def round : Answer → Request → Answer
  | .computed answer, request => answer request
  | final, _ => final

def rounds : Answer → Request → Nat → Answer
  | answer, _, 0 => answer
  | answer, request, count + 1 => (answer.round request).rounds request count

def IsFinal : Answer → Prop
  | .computed _ => False
  | _ => True

/-- What is written of an answer that is not computed any more. -/
def bytes? : Answer → Option Bytes
  | .reply response => some response.encode
  | .raw bytes => some bytes
  | .silent => none
  | .computed _ => none

theorem resolve_round (answer : Answer) (request : Request) :
    (answer.round request).resolve request = answer.resolve request := by
  cases answer <;> rfl

theorem resolve_rounds (answer : Answer) (request : Request) (count : Nat) :
    (answer.rounds request count).resolve request = answer.resolve request := by
  induction count generalizing answer with
  | zero => rfl
  | succ count ih => exact (ih (answer.round request)).trans (resolve_round answer request)

theorem IsFinal.resolve_eq (final : answer.IsFinal) : answer.resolve request = answer.bytes? := by
  cases answer with
  | reply _ | raw _ | silent => rfl
  | computed answer => exact absurd final id

theorem isFinal_first (answer : Answer) (request : Request) :
    ∃ count, (answer.rounds request count).IsFinal ∧
      ∀ fewer, fewer < count → ¬(answer.rounds request fewer).IsFinal := by
  induction answer with
  | reply _ | raw _ | silent =>
      exact ⟨0, trivial, fun fewer less => absurd less (Nat.not_lt_zero fewer)⟩
  | computed answer ih =>
      obtain ⟨count, final, before⟩ := ih request
      refine ⟨count + 1, final, ?_⟩
      intro fewer less
      cases fewer with
      | zero => exact id
      | succ fewer => exact before fewer (Nat.lt_of_succ_lt_succ less)

/-- An encoded response is all that a receiver finds in its bytes, and it reads it back. -/
theorem encode_received (response : Response) :
    (Reassembler.empty .response).feedAll response.encode =
        ([response.encode], .empty .response) ∧
      Response.decode response.encode = .ok response := by
  have whole : ∀ frame ∈ [response.encode], Layout.response.IsFrame frame :=
    List.forall_mem_singleton.mpr response.isFrame_encode
  have received := Reassembler.feedAll_flatten whole
  rw [List.flatten_singleton] at received
  exact ⟨received, response.decode_encode⟩

/-- A payload that is too long for a response is cut off, and never keeps it from being a response.
Every answer comes, after finitely many rounds and not before them, to one that is not computed any
more, and its bytes are the ones that are written; those of a response are one frame that reads back as
that response.  The payload of a request comes back whole. -/
theorem answers_resolve :
    (∀ code payload, ∃ response, ofCode code payload = .reply response ∧
        response.code = code ∧ response.crc = 0 ∧ response.payload.bytes = payload.take 255) ∧
      (∀ payload, ∃ response, ok payload = .reply response ∧
        response.code = 0 ∧ response.crc = 0 ∧ response.payload.bytes = payload.take 255) ∧
      (∀ (answer : Answer) (request : Request), ∃ count final,
        answer.rounds request count = final ∧ final.IsFinal ∧
        (∀ fewer, fewer < count → ¬(answer.rounds request fewer).IsFinal) ∧
        answer.resolve request = final.bytes? ∧
        ∀ response, final = .reply response → ∃ bytes, answer.resolve request = some bytes ∧
          (Reassembler.empty .response).feedAll bytes = ([bytes], .empty .response) ∧
          Response.decode bytes = .ok response) ∧
      ∀ request, ∃ bytes, echo.resolve request = some bytes ∧
        (Reassembler.empty .response).feedAll bytes = ([bytes], .empty .response) ∧
        Response.decode bytes = .ok ⟨0, 0, request.payload⟩ := by
  refine ⟨?_, ?_, ?_, ?_⟩
  · intro code payload
    exact ⟨_, ofCode_eq code payload, rfl, rfl, rfl⟩
  · intro payload
    exact ⟨_, ofCode_eq 0 payload, rfl, rfl, rfl⟩
  · intro answer request
    obtain ⟨count, final, before⟩ := isFinal_first answer request
    have written : answer.resolve request = (answer.rounds request count).bytes? := by
      rw [← resolve_rounds answer request count, final.resolve_eq]
    refine ⟨count, _, rfl, final, before, written, ?_⟩
    intro response replied
    rw [replied] at written
    exact ⟨response.encode, written, encode_received response⟩
  · intro request
    have written : echo.resolve request = some (Response.encode ⟨0, 0, request.payload⟩) := by
      change (ok request.payload.bytes).resolve request = _
      rw [ok_payload]
      rfl
    exact ⟨_, written, encode_received _⟩

end SerialLink.Answer
