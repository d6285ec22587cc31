import SerialLink.Frame.Request
import SerialLink.Frame.Response
import SerialLink.Line.Receiver
import SerialLink.Line.Sender
import SerialLink.Traffic

namespace SerialLink

/-! Requests and responses over a line, counted.

A request counts as sent once the line has taken all of it.  The end of the stream inside a frame is
an error, the end between two frames is not.
-/

structure Connection where
  receiver : Receiver
  sender : Sender
  traffic : Traffic
deriving DecidableEq, Repr

namespace Connection

def start : Connection := ⟨.start .response, .start, .zero⟩

def hasPartial (connection : Connection) : Bool := connection.receiver.hasPartial

def recordTimeout (connection : Connection) : Connection :=
  { connection with traffic := connection.traffic.recordTimeout }

def enqueue (connection : Connection) (request : Request) (line : Line) (deadline : Deadline) :
    Attempt (Except LinkError Unit) Connection :=
  (connection.sender.feed request.encode line deadline).mapOwner fun sender =>
    { connection with sender }

/-- Writes what is pending and counts the request it ends with. -/
def finishSend (connection : Connection) (line : Line) (deadline : Deadline) :
    Attempt (Except LinkError Unit) Connection :=
  let flushed := connection.sender.flush line deadline
  let traffic :=
    match flushed.outcome with
    | some (.ok ()) => connection.traffic.recordSent
    | _ => connection.traffic
  flushed.mapOwner fun sender => { connection with sender, traffic }

def sendRequest (connection : Connection) (request : Request) (line : Line)
    (deadline : Deadline) : Attempt (Except LinkError Unit) Connection :=
  let queued := connection.enqueue request line deadline
  match queued.outcome with
  | some (.ok ()) => queued.owner.finishSend queued.line deadline
  | _ => queued

/-- What a delivery means to a connection; `isPartial` says whether it found a frame under way. -/
def frameOf (isPartial : Bool) : Delivery → Except LinkError (Option Bytes)
  | .frame bytes => .ok (some bytes)
  | .failed error => .error (.line error)
  | .ended => if isPartial then .error .closed else .ok none

/-- The next frame as it is; nothing at the end of the stream. -/
def readFrame (connection : Connection) (line : Line) (deadline : Deadline) :
    Attempt (Except LinkError (Option Bytes)) Connection :=
  let received := connection.receiver.next line deadline
  ⟨received.outcome.map (frameOf received.owner.hasPartial),
    { connection with receiver := received.owner }, received.line⟩

def decode (connection : Connection) (frame : Bytes) :
    Except LinkError (Option Response) × Connection :=
  match Response.decodeInPlace frame with
  | .ok response =>
      (.ok (some response), { connection with traffic := connection.traffic.recordValid })
  | .error error =>
      (.error (.protocol error),
        { connection with traffic := connection.traffic.recordCorrupted })

/-- The next response; nothing at the end of the stream. -/
def readResponse (connection : Connection) (line : Line) (deadline : Deadline) :
    Attempt (Except LinkError (Option Response)) Connection :=
  let read := connection.readFrame line deadline
  match read.outcome with
  | none => ⟨none, read.owner, read.line⟩
  | some (.error error) => ⟨some (.error error), read.owner, read.line⟩
  | some (.ok none) => ⟨some (.ok none), read.owner, read.line⟩
  | some (.ok (some frame)) =>
      let (result, counted) := read.owner.decode frame
      ⟨some result, counted, read.line⟩

/-- Sends a request and reads the response; the end of the stream is an error here. -/
def request (connection : Connection) (request : Request) (line : Line) (deadline : Deadline) :
    Attempt (Except LinkError Response) Connection :=
  let sent := connection.sendRequest request line deadline
  match sent.outcome with
  | none => ⟨none, sent.owner, sent.line⟩
  | some (.error error) => ⟨some (.error error), sent.owner, sent.line⟩
  | some (.ok ()) =>
      let read := sent.owner.readResponse sent.line deadline
      let outcome := read.outcome.map fun result =>
        match result with
        | .error error => .error error
        | .ok none => .error .closed
        | .ok (some response) => .ok response
      ⟨outcome, read.owner, read.line⟩

def describe (connection : Connection) : String :=
  Text.record "Connection"
    [("has_partial_frame", toString connection.hasPartial),
      ("stats", connection.traffic.describe)] true

end Connection

end SerialLink
