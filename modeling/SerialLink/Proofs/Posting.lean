import SerialLink.Fault.Link
import SerialLink.Proofs.Frame.Wire
import SerialLink.Proofs.Stream.Carrying

namespace SerialLink

open scoped List

/-! Attempts to send, one after the other.

Whether sending succeeds is one thing, whether the request comes to the line another: one that was
accepted stays pending when sending it fails, and the next attempt takes it along.
-/

theorem Request.encode_inj {requests others : List Request}
    (same : requests.map encode = others.map encode) : requests = others := by
  refine (List.map_inj_right ?_).mp same
  intro request other encoded
  have decoded := congrArg decode encoded
  rw [decode_encode, decode_encode] at decoded
  exact Except.ok.inj decoded

structure Dispatch where
  request : Request
  /-- Whether the sender has accepted the request. -/
  accepted : Bool
  outcome : Option (Except LinkError Unit)

namespace Dispatch

def sent (dispatch : Dispatch) : Bool :=
  match dispatch.outcome with
  | some (.ok ()) => true
  | _ => false

variable {dispatch : Dispatch} {dispatches : List Dispatch}

theorem sent_iff : dispatch.sent = true ↔ dispatch.outcome = some (.ok ()) := by
  unfold sent
  split
  · simp [*]
  · rename_i failed
    simpa using failed

def acceptedOf (dispatches : List Dispatch) : List Request :=
  (dispatches.filter (·.accepted)).map (·.request)

def sentOf (dispatches : List Dispatch) : List Request :=
  (dispatches.filter (·.sent)).map (·.request)

theorem acceptedOf_concat : acceptedOf (dispatches ++ [dispatch]) =
    acceptedOf dispatches ++ if dispatch.accepted then [dispatch.request] else [] := by
  cases accepted : dispatch.accepted <;> simp [acceptedOf, List.filter_append, accepted]

theorem sentOf_concat : sentOf (dispatches ++ [dispatch]) =
    sentOf dispatches ++ if dispatch.sent then [dispatch.request] else [] := by
  cases sent : dispatch.sent <;> simp [sentOf, List.filter_append, sent]

theorem acceptedOf_eq_sentOf (honest : ∀ dispatch ∈ dispatches, dispatch.sent → dispatch.accepted)
    (all : ∀ dispatch ∈ dispatches, dispatch.sent = true) :
    acceptedOf dispatches = sentOf dispatches := by
  have sent : dispatches.filter (·.sent) = dispatches := List.filter_eq_self.mpr all
  have accepted : dispatches.filter (·.accepted) = dispatches :=
    List.filter_eq_self.mpr fun dispatch member => honest dispatch member (all dispatch member)
  rw [acceptedOf, sentOf, sent, accepted]

end Dispatch

open Dispatch

/-- How far attempts to send have come: what the line has taken, and what is pending. -/
structure Posted (dispatches : List Dispatch) (taken pending : Bytes) : Prop where
  honest : ∀ dispatch ∈ dispatches, dispatch.sent → dispatch.accepted
  conserves : taken ++ pending = ((acceptedOf dispatches).map Request.encode).flatten
  delivers : ∃ earlier, sentOf dispatches <+ earlier ∧ earlier <+: acceptedOf dispatches ∧
    (earlier.map Request.encode).flatten <+: taken
  drains : (∀ last, dispatches.getLast? = some last → last.sent = true) → pending = []
  untroubled : (∀ dispatch ∈ dispatches.dropLast, dispatch.sent = true) →
    ∃ later, Carries Request.encode (sentOf dispatches) later taken

/-- What one attempt does: the line takes some bytes more, and some are left pending. -/
structure Posting (dispatch : Dispatch) (pending more left : Bytes) : Prop where
  moves : more ++ left = pending ++ if dispatch.accepted then dispatch.request.encode else []
  sent_iff : dispatch.sent = true ↔ dispatch.accepted = true ∧ left = []
  accepts : pending = [] → dispatch.accepted = true

namespace Posted

variable {dispatches : List Dispatch} {dispatch : Dispatch} {taken pending more left : Bytes}

theorem nil : Posted [] [] [] :=
  ⟨by simp, rfl, ⟨[], .slnil, List.nil_prefix, List.nil_prefix⟩, fun _ => rfl,
    fun _ => ⟨[], [], rfl, rfl⟩⟩

theorem concat_honest (posted : Posted dispatches taken pending)
    (posting : Posting dispatch pending more left) :
    ∀ one ∈ dispatches ++ [dispatch], one.sent → one.accepted := by
  intro one member sent
  rcases List.mem_append.mp member with earlier | now
  · exact posted.honest one earlier sent
  · rw [List.mem_singleton.mp now] at sent ⊢
    exact (posting.sent_iff.mp sent).1

theorem concat_conserves (posted : Posted dispatches taken pending)
    (posting : Posting dispatch pending more left) :
    (taken ++ more) ++ left =
      ((acceptedOf (dispatches ++ [dispatch])).map Request.encode).flatten := by
  rw [List.append_assoc, posting.moves, ← List.append_assoc, posted.conserves, acceptedOf_concat]
  cases dispatch.accepted <;> simp

theorem concat_delivers (posted : Posted dispatches taken pending)
    (posting : Posting dispatch pending more left) :
    ∃ earlier, sentOf (dispatches ++ [dispatch]) <+ earlier ∧
      earlier <+: acceptedOf (dispatches ++ [dispatch]) ∧
      (earlier.map Request.encode).flatten <+: taken ++ more := by
  obtain ⟨earlier, sentEarlier, among, begins⟩ := posted.delivers
  by_cases sent : dispatch.sent = true
  -- All that was pending has gone out: whatever has been accepted is on the line.
  · obtain ⟨accepted, drained⟩ := posting.sent_iff.mp sent
    have whole := posted.concat_conserves posting
    rw [drained, List.append_nil] at whole
    refine ⟨acceptedOf (dispatches ++ [dispatch]), ?_, List.prefix_rfl, ?_⟩
    · rw [sentOf_concat, acceptedOf_concat, if_pos sent, if_pos accepted]
      exact (sentEarlier.trans among.sublist).append (.refl _)
    · exact ⟨[], by rw [List.append_nil, whole]⟩
  · refine ⟨earlier, ?_, ?_, begins.trans (List.prefix_append _ _)⟩
    · rw [sentOf_concat, if_neg sent, List.append_nil]
      exact sentEarlier
    · rw [acceptedOf_concat]
      exact among.trans (List.prefix_append _ _)

theorem concat_untroubled (posted : Posted dispatches taken pending)
    (posting : Posting dispatch pending more left)
    (all : ∀ one ∈ dispatches, one.sent = true) :
    ∃ later, Carries Request.encode (sentOf (dispatches ++ [dispatch])) later (taken ++ more) := by
  have nothing : pending = [] :=
    posted.drains fun last found => all last (List.mem_of_getLast? found)
  have accepted := posting.accepts nothing
  have whole : taken = ((sentOf dispatches).map Request.encode).flatten := by
    rw [← acceptedOf_eq_sentOf posted.honest all, ← posted.conserves, nothing, List.append_nil]
  have added : more ++ left = dispatch.request.encode := by
    rw [posting.moves, nothing, if_pos accepted, List.nil_append]
  by_cases sent : dispatch.sent = true
  · obtain ⟨_, drained⟩ := posting.sent_iff.mp sent
    rw [drained, List.append_nil] at added
    refine ⟨[], [], ?_, rfl⟩
    rw [sentOf_concat, if_pos sent, whole, added]
    simp
  · have missing : left ≠ [] := fun drained => sent (posting.sent_iff.mpr ⟨accepted, drained⟩)
    refine ⟨[dispatch.request], more, ?_, left, missing, added.symm⟩
    rw [sentOf_concat, if_neg sent, List.append_nil, whole]

theorem concat (posted : Posted dispatches taken pending)
    (posting : Posting dispatch pending more left) :
    Posted (dispatches ++ [dispatch]) (taken ++ more) left := by
  refine ⟨posted.concat_honest posting, posted.concat_conserves posting,
    posted.concat_delivers posting, ?_, ?_⟩
  · intro last
    exact (posting.sent_iff.mp (last dispatch List.getLast?_concat)).2
  · intro untroubled
    rw [List.dropLast_concat] at untroubled
    exact posted.concat_untroubled posting untroubled

/-- How the requests on the line, whole ones and the one under way, have to do with those accepted
and those sent. -/
theorem frames (posted : Posted dispatches taken pending) :
    ∃ done rest, Layout.request.IsSegmentation taken (done.map Request.encode) rest ∧
      done <+: acceptedOf dispatches ∧ sentOf dispatches <+ done ∧
      ((∀ last, dispatches.getLast? = some last → last.sent = true) →
        done = acceptedOf dispatches) ∧
      ((∀ dispatch ∈ dispatches.dropLast, dispatch.sent = true) → done = sentOf dispatches) := by
  obtain ⟨done, later, all, carries⟩ := exists_carries posted.conserves
  obtain ⟨rest, cut⟩ := carries.isSegmentation Request.isFrame_encode
  refine ⟨done, rest, cut, ?_, ?_, ?_, ?_⟩
  · rw [all]
    exact List.prefix_append _ _
  · obtain ⟨earlier, sent, among, begins⟩ := posted.delivers
    rw [all] at among
    exact sent.trans (carries.prefix_of_prefix among begins).sublist
  · intro last
    have whole := posted.conserves
    rw [posted.drains last, List.append_nil, all] at whole
    rw [all, carries.later_eq_nil whole, List.append_nil]
  · intro untroubled
    obtain ⟨_, sentCarries⟩ := posted.untroubled untroubled
    obtain ⟨_, sentCut⟩ := sentCarries.isSegmentation Request.isFrame_encode
    exact Request.encode_inj (cut.unique sentCut).1

end Posted

end SerialLink
