import SerialLink.Text.Literal

namespace SerialLink

/-- What has gone over a link so far. -/
structure Traffic where
  sent : Nat
  total : Nat
  valid : Nat
  corrupted : Nat
  timedOut : Nat
deriving DecidableEq, Repr

namespace Traffic

def zero : Traffic := ⟨0, 0, 0, 0, 0⟩

def recordSent (traffic : Traffic) : Traffic := { traffic with sent := traffic.sent + 1 }

def recordValid (traffic : Traffic) : Traffic :=
  { traffic with total := traffic.total + 1, valid := traffic.valid + 1 }

def recordCorrupted (traffic : Traffic) : Traffic :=
  { traffic with total := traffic.total + 1, corrupted := traffic.corrupted + 1 }

def recordTimeout (traffic : Traffic) : Traffic :=
  { traffic with timedOut := traffic.timedOut + 1 }

def describe (traffic : Traffic) : String :=
  Text.record "CommunicationStatistics"
    [("frames_sent", toString traffic.sent), ("total_frames_received", toString traffic.total),
      ("valid_frames_received", toString traffic.valid),
      ("corrupted_frames_received", toString traffic.corrupted),
      ("timed_out_requests", toString traffic.timedOut)] false

end Traffic

end SerialLink
