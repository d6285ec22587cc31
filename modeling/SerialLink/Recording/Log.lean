import SerialLink.Bytes

namespace SerialLink

/-- One frame seen on a link, and which end it came from. -/
structure Entry where
  fromDevice : Bool
  bytes : Bytes
deriving DecidableEq, Repr

/-- The frames seen so far, the oldest first. -/
abbrev Recording := List Entry

namespace Recording

def record (recording : Recording) (fromDevice : Bool) (bytes : Bytes) : Recording :=
  recording ++ [⟨fromDevice, bytes⟩]

/-- The frames that went to the device. -/
def requests (recording : Recording) : List Bytes :=
  (recording.filter (!·.fromDevice)).map (·.bytes)

/-- The frames that came from the device. -/
def responses (recording : Recording) : List Bytes :=
  (recording.filter (·.fromDevice)).map (·.bytes)

/-- Everything that came from the device, as one stream. -/
def responseStream (recording : Recording) : Bytes := recording.responses.flatten

end Recording

end SerialLink
