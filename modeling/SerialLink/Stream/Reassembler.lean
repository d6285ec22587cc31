import SerialLink.Frame.Layout

namespace SerialLink

/-! Cutting a byte stream back into frames, one byte at a time.

A reassembler holds the bytes of the frame under way and, once the length byte has come in, the
length that frame will have.  It never looks at any other byte and never drops one: a frame is
handed out at the byte that completes it, and the next byte begins the next frame.
-/

/-- The bytes of an unfinished frame, and its length once that is known. -/
structure Reassembler where
  layout : Layout
  buffer : Array UInt8
  expected : Option Nat
deriving DecidableEq, Repr

namespace Reassembler

def empty (layout : Layout) : Reassembler := ⟨layout, #[], none⟩

/-- Takes one byte.  The length byte is looked at only when the buffer reaches exactly the position
behind it. -/
def feed : Reassembler → UInt8 → Option Bytes × Reassembler
  | ⟨layout, unfinished, sized⟩, byte =>
      let buffer := unfinished.push byte
      let expected :=
        match sized with
        | some length => some length
        | none =>
            if buffer.size = layout.sizedAt then some (layout.frameLength byte) else none
      if expected = some buffer.size then (some buffer.toList, empty layout)
      else (none, ⟨layout, buffer, expected⟩)

/-- What each byte of a chunk completes. -/
def feedEach : Reassembler → Bytes → List (Option Bytes) × Reassembler
  | reassembler, [] => ([], reassembler)
  | reassembler, byte :: rest =>
      let (frame, fed) := reassembler.feed byte
      let (frames, last) := fed.feedEach rest
      (frame :: frames, last)

/-- The frames that a whole chunk completes, in order. -/
def feedAll : Reassembler → Bytes → List Bytes × Reassembler
  | reassembler, [] => ([], reassembler)
  | reassembler, byte :: rest =>
      let (frame, fed) := reassembler.feed byte
      let (frames, last) := fed.feedAll rest
      (frame.toList ++ frames, last)

/-- Takes bytes from the front of a chunk until a frame is complete, and leaves the rest. -/
def next : Reassembler → Bytes → Option Bytes × Reassembler × Bytes
  | reassembler, [] => (none, reassembler, [])
  | reassembler, byte :: rest =>
      match reassembler.feed byte with
      | (some frame, fed) => (some frame, fed, rest)
      | (none, fed) => fed.next rest

/-- `next` again and again, `count` times in all; the outcomes in order. -/
def nextMany (reassembler : Reassembler) (chunk : Bytes) :
    Nat → List (Option Bytes) × Reassembler × Bytes
  | 0 => ([], reassembler, chunk)
  | count + 1 =>
      let (frame, fed, rest) := reassembler.next chunk
      let (frames, last, remainder) := fed.nextMany rest count
      (frame :: frames, last, remainder)

/-- The fewest and the most frames that a remainder can still complete. -/
def framesWithin (remainder : Bytes) : Nat × Nat := (0, remainder.length)

def hasPartial (reassembler : Reassembler) : Bool := !reassembler.buffer.isEmpty

def clear (reassembler : Reassembler) : Reassembler := empty reassembler.layout

/-- Changes the frame shape for what comes next.  The buffer stays, and so does a length that is
already known. -/
def withLayout (reassembler : Reassembler) (layout : Layout) : Reassembler :=
  { reassembler with layout }

theorem feedEach_length (reassembler : Reassembler) (chunk : Bytes) :
    (reassembler.feedEach chunk).1.length = chunk.length := by
  induction chunk generalizing reassembler with
  | nil => rfl
  | cons byte rest ih => simp only [feedEach, List.length_cons, ih]

theorem feedAll_eq_feedEach (reassembler : Reassembler) (chunk : Bytes) :
    reassembler.feedAll chunk =
      ((reassembler.feedEach chunk).1.filterMap id, (reassembler.feedEach chunk).2) := by
  induction chunk generalizing reassembler with
  | nil => rfl
  | cons byte rest ih =>
      simp only [feedAll, feedEach, ih]
      cases (reassembler.feed byte).1 <;> rfl

theorem feedAll_append (reassembler : Reassembler) (front back : Bytes) :
    reassembler.feedAll (front ++ back) =
      ((reassembler.feedAll front).1 ++ ((reassembler.feedAll front).2.feedAll back).1,
        ((reassembler.feedAll front).2.feedAll back).2) := by
  induction front generalizing reassembler with
  | nil => rfl
  | cons byte rest ih => simp only [List.cons_append, feedAll, ih, List.append_assoc]

theorem feedAll_of_next_some {reassembler fed : Reassembler} {chunk rest frame : Bytes}
    (completed : reassembler.next chunk = (some frame, fed, rest)) :
    reassembler.feedAll chunk = (frame :: (fed.feedAll rest).1, (fed.feedAll rest).2) := by
  fun_induction reassembler.next chunk with
  | case1 => cases completed
  | case2 reassembler byte chunk frame fed feeding =>
      cases completed
      simp only [feedAll, feeding, Option.toList_some, List.singleton_append]
  | case3 reassembler byte chunk fed feeding ih =>
      simp only [feedAll, feeding, Option.toList_none, List.nil_append, ih completed]

theorem feedAll_of_next_none {reassembler fed : Reassembler} {chunk rest : Bytes}
    (unfinished : reassembler.next chunk = (none, fed, rest)) :
    reassembler.feedAll chunk = ([], fed) := by
  fun_induction reassembler.next chunk with
  | case1 => cases unfinished; rfl
  | case2 => cases unfinished
  | case3 reassembler byte chunk fed feeding ih =>
      simp only [feedAll, feeding, Option.toList_none, List.nil_append, ih unfinished]

theorem next_remainder_of_none {reassembler fed : Reassembler} {chunk rest : Bytes}
    (unfinished : reassembler.next chunk = (none, fed, rest)) : rest = [] := by
  fun_induction reassembler.next chunk with
  | case1 => cases unfinished; rfl
  | case2 => cases unfinished
  | case3 reassembler byte chunk fed feeding ih => exact ih unfinished

theorem next_remainder_of_some {reassembler fed : Reassembler} {chunk rest frame : Bytes}
    (completed : reassembler.next chunk = (some frame, fed, rest)) :
    rest.length < chunk.length := by
  fun_induction reassembler.next chunk with
  | case1 => cases completed
  | case2 => cases completed; exact Nat.lt_succ_self _
  | case3 reassembler byte chunk fed feeding ih => exact Nat.lt_succ_of_lt (ih completed)

end Reassembler

end SerialLink
