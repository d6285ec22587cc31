import SerialLink.Bytes

namespace SerialLink

/-! The two frame shapes.

A frame is a header followed by a payload of at most 255 bytes.  The header holds one byte that
states the length of the payload, so the length of the whole frame is known as soon as that byte
is.  Nothing else in a frame says where it begins or ends.
-/

/-- The largest payload that a single length byte can state. -/
def maxPayload : Nat := 255

/-- Which of the two shapes a frame has. -/
inductive Layout where
  | response
  | request
deriving DecidableEq, Repr, Inhabited

namespace Layout

def lengthOffset : Layout → Nat
  | .response => 1
  | .request => 2

def headerSize : Layout → Nat
  | .response => 3
  | .request => 4

/-- The shortest beginning of a frame that shows its length. -/
def sizedAt (layout : Layout) : Nat := layout.lengthOffset + 1

/-- The length of a whole frame whose length byte is `stated`. -/
def frameLength (layout : Layout) (stated : UInt8) : Nat := layout.headerSize + stated.toNat

/-- The longest frame of this shape. -/
def maxFrame (layout : Layout) : Nat := layout.headerSize + maxPayload

theorem sizedAt_pos (layout : Layout) : 0 < layout.sizedAt := Nat.succ_pos _

theorem sizedAt_le_headerSize (layout : Layout) : layout.sizedAt ≤ layout.headerSize := by
  cases layout <;> decide

theorem sizedAt_lt_frameLength (layout : Layout) (stated : UInt8) :
    layout.sizedAt < layout.frameLength stated := by
  have shown : layout.sizedAt < layout.headerSize := by cases layout <;> decide
  exact Nat.lt_of_lt_of_le shown (Nat.le_add_right _ _)

theorem frameLength_le_maxFrame (layout : Layout) (stated : UInt8) :
    layout.frameLength stated ≤ layout.maxFrame := by
  have bound := stated.toNat_lt
  simp only [frameLength, maxFrame, maxPayload]
  omega

end Layout

end SerialLink
