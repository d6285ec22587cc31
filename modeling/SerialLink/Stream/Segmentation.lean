import SerialLink.Frame.Layout

namespace SerialLink.Layout

/-! A whole stream cut into frames by its length bytes.

This reads the stream as a text with length fields, without any memory of how its bytes came in.
It is what a reassembler has to agree with.
-/

/-- The length of the frame a stream begins with, if all of that frame is there. -/
def frameAtFront? (layout : Layout) (stream : Bytes) : Option Nat :=
  match stream[layout.lengthOffset]? with
  | none => none
  | some stated =>
      if layout.frameLength stated ≤ stream.length then some (layout.frameLength stated) else none

theorem frameLength_pos (layout : Layout) (stated : UInt8) : 0 < layout.frameLength stated := by
  cases layout <;> simp only [frameLength, headerSize] <;> omega

theorem frameAtFront?_bounds {layout : Layout} {stream : Bytes} {length : Nat}
    (complete : layout.frameAtFront? stream = some length) :
    0 < length ∧ length ≤ stream.length := by
  unfold frameAtFront? at complete
  split at complete
  · contradiction
  · rename_i stated _
    split at complete
    · rename_i enough
      cases complete
      exact ⟨layout.frameLength_pos stated, enough⟩
    · contradiction

/-- The complete frames of a stream, in order, and what is left behind them. -/
def segment (layout : Layout) (stream : Bytes) : List Bytes × Bytes :=
  match complete : layout.frameAtFront? stream with
  | none => ([], stream)
  | some length =>
      have := frameAtFront?_bounds complete
      let (frames, rest) := layout.segment (stream.drop length)
      (stream.take length :: frames, rest)
termination_by stream.length

/-- Cutting loses nothing, repeats nothing and keeps the order. -/
theorem segment_flatten (layout : Layout) (stream : Bytes) :
    (layout.segment stream).1.flatten ++ (layout.segment stream).2 = stream := by
  fun_induction layout.segment stream with
  | case1 => rfl
  | case2 stream length complete _ frames rest tail ih =>
      rw [tail] at ih
      simp only [List.flatten_cons, List.append_assoc, ih, List.take_append_drop]

end SerialLink.Layout
