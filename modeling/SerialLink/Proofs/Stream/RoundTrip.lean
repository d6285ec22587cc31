import SerialLink.Proofs.Frame.Wire
import SerialLink.Proofs.Stream.Reassembly

namespace SerialLink.Reassembler

open Layout

/-! Frames put on a stream come off it again, wherever the stream is cut on its way. -/

variable {layout : Layout} {frames chunks : List Bytes}

def feedChunks : Reassembler → List Bytes → List Bytes × Reassembler
  | reassembler, [] => ([], reassembler)
  | reassembler, chunk :: chunks =>
      let (frames, fed) := reassembler.feedAll chunk
      let (later, last) := fed.feedChunks chunks
      (frames ++ later, last)

theorem feedChunks_eq_feedAll (reassembler : Reassembler) (chunks : List Bytes) :
    reassembler.feedChunks chunks = reassembler.feedAll chunks.flatten := by
  induction chunks generalizing reassembler with
  | nil => rfl
  | cons chunk chunks ih =>
      simp only [feedChunks, ih, List.flatten_cons, feedAll_append]

theorem feedAll_flatten (whole : ∀ frame ∈ frames, layout.IsFrame frame) :
    (empty layout).feedAll frames.flatten = (frames, empty layout) := by
  have expected : layout.IsSegmentation frames.flatten frames [] :=
    ⟨List.append_nil _, whole, isUnfinished_nil⟩
  obtain ⟨consistent, cut⟩ := feedAll_consistent (consistent_empty layout) frames.flatten
  obtain ⟨same, nothing⟩ := cut.unique expected
  exact Prod.ext same (consistent.eq_empty nothing)

/-- What comes off the first part of a stream of frames are the first of them. -/
theorem prefix_of_feedAll {front back : Bytes} {got : List Bytes} {fed : Reassembler}
    (whole : ∀ frame ∈ frames, layout.IsFrame frame) (joined : front ++ back = frames.flatten)
    (feeding : (empty layout).feedAll front = (got, fed)) : got <+: frames := by
  have all := feedAll_flatten whole
  rw [← joined, feedAll_append, feeding] at all
  exact ⟨_, congrArg Prod.fst all⟩

/-- Once all frames of a stream have come off it, there is nothing left of it. -/
theorem nothing_behind {front back : Bytes} {fed : Reassembler}
    (feeding : (empty layout).feedAll front = (frames, fed))
    (joined : front ++ back = frames.flatten) : back = [] := by
  obtain ⟨_, cut⟩ := feedAll_consistent (consistent_empty layout) front
  rw [feeding] at cut
  have covered : frames.flatten ++ fed.buffer.toList = front := cut.flatten
  apply List.eq_nil_of_length_eq_zero
  have lengths := congrArg List.length joined
  rw [← covered, List.append_assoc, List.length_append, List.length_append] at lengths
  omega

theorem feedChunks_of_flatten_eq (whole : ∀ frame ∈ frames, layout.IsFrame frame)
    (joined : chunks.flatten = frames.flatten) :
    (empty layout).feedChunks chunks = (frames, empty layout) := by
  rw [feedChunks_eq_feedAll, joined, feedAll_flatten whole]

theorem feedChunks_encoded (chunks : List Bytes) :
    (∀ requests : List Request, chunks.flatten = (requests.map Request.encode).flatten →
      ∃ frames, (empty .request).feedChunks chunks = (frames, empty .request) ∧
        frames.map Request.decode = requests.map .ok) ∧
    ∀ responses : List Response, chunks.flatten = (responses.map Response.encode).flatten →
      ∃ frames, (empty .response).feedChunks chunks = (frames, empty .response) ∧
        frames.map Response.decode = responses.map .ok := by
  constructor
  · intro requests joined
    refine ⟨_, feedChunks_of_flatten_eq ?_ joined, ?_⟩
    · intro frame member
      obtain ⟨request, _, rfl⟩ := List.mem_map.mp member
      exact request.isFrame_encode
    · rw [List.map_map]
      exact List.map_congr_left fun request _ => request.decode_encode
  · intro responses joined
    refine ⟨_, feedChunks_of_flatten_eq ?_ joined, ?_⟩
    · intro frame member
      obtain ⟨response, _, rfl⟩ := List.mem_map.mp member
      exact response.isFrame_encode
    · rw [List.map_map]
      exact List.map_congr_left fun response _ => response.decode_encode

/-- Cut inside the header, behind the length byte and inside the payload, with nothing in between. -/
theorem feedChunks_encoded_cut_header :
    (∃ frames, (empty .request).feedChunks [[1, 2], [2], [], [0, 7], [8, 3, 4, 0], [5]] =
        (frames, empty .request) ∧
      frames.map Request.decode = [.ok ⟨1, 2, 0, ⟨[7, 8], by decide⟩⟩, .ok ⟨3, 4, 5, ⟨[], by decide⟩⟩]) ∧
    ∃ frames, (empty .response).feedChunks [[0], [2], [], [9, 7], [8, 1, 0], [0]] =
        (frames, empty .response) ∧
      frames.map Response.decode =
        [.ok ⟨0, 9, ⟨[7, 8], by decide⟩⟩, .ok ⟨1, 0, ⟨[], by decide⟩⟩] := by
  constructor
  · exact (feedChunks_encoded [[1, 2], [2], [], [0, 7], [8, 3, 4, 0], [5]]).1
      [⟨1, 2, 0, ⟨[7, 8], by decide⟩⟩, ⟨3, 4, 5, ⟨[], by decide⟩⟩] (by decide)
  · exact (feedChunks_encoded [[0], [2], [], [9, 7], [8, 1, 0], [0]]).2
      [⟨0, 9, ⟨[7, 8], by decide⟩⟩, ⟨1, 0, ⟨[], by decide⟩⟩] (by decide)

end SerialLink.Reassembler
