namespace SerialLink

/-! Time, and how it passes.

Time stands still while there is something to do; it moves on only in a wait, and never beyond the
deadline of the operation that waits.

A wait that is already over is passed without time, but only so many of them are passed in one go.
Then there is a pause, which takes no time either.  A deadline is looked at in a wait and in a pause
and nowhere else: what needs neither is done even at the deadline.
-/

/-- The last instant at which an operation may still complete, if there is one. -/
abbrev Deadline := Option Nat

namespace Deadline

def allows (deadline : Deadline) (instant : Nat) : Bool :=
  match deadline with
  | none => true
  | some last => instant ≤ last

def isReached (deadline : Deadline) (now : Nat) : Bool :=
  match deadline with
  | none => false
  | some last => last ≤ now

def orSooner (deadline : Deadline) (instant : Nat) : Nat :=
  match deadline with
  | none => instant
  | some last => min last instant

end Deadline

/-- How many things are done in one go, before there has to be a pause. -/
def burst : Nat := 128

/-- An instant, and how many waits can be passed at it before the next pause. -/
structure Clock where
  now : Nat
  credit : Nat
deriving DecidableEq, Repr

namespace Clock

def start : Clock := ⟨0, burst⟩

/-- Right behind the first wait that is passed after time has moved on or a pause was made. -/
def resumed (instant : Nat) : Clock := ⟨instant, burst - 1⟩

/-- Makes the pause that is due now, if one is. -/
def rested (clock : Clock) : Clock :=
  if clock.credit = 0 then { clock with credit := burst } else clock

/-- Whether an operation with this deadline ends in the pause that is due now. -/
def isSpent (clock : Clock) (deadline : Deadline) : Bool :=
  clock.credit = 0 && deadline.isReached clock.now

/-- Passes a wait that is over at a given instant, unless the deadline comes first. -/
def pass (clock : Clock) (due : Nat) (deadline : Deadline) : Option Clock :=
  if clock.now < due then
    if deadline.allows due then some (resumed due) else none
  else if 0 < clock.credit then some { clock with credit := clock.credit - 1 }
  else if deadline.isReached clock.now then none
  else some (resumed clock.now)

/-- The time at which an operation that waits in vain is given up.  To reach the deadline is a wait
of its own. -/
def expire (clock : Clock) (deadline : Deadline) : Clock :=
  match deadline with
  | none => clock
  | some last =>
      if clock.now < last then resumed last else { clock with credit := clock.credit - 1 }

/-- The longest wait, in milliseconds: thirty years of 365 days. -/
def longestWait : Nat := 30 * 365 * 24 * 60 * 60 * 1000

/-- The instant at which a wait ends.  One for longer than the longest wait is cut down to it. -/
def waitEnd (begun milliseconds : Nat) : Nat := begun + min milliseconds longestWait

def sleep (clock : Clock) (milliseconds : Nat) : Clock :=
  (clock.pass (waitEnd clock.now milliseconds) none).getD clock

end Clock

end SerialLink
