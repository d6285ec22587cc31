import SerialLink.Connection
import SerialLink.Fault.Client
import SerialLink.Settings.Basic

namespace SerialLink

/-! One request and its response at a time.

There is no second try: a cycle that fails is reported.  The response timeout counts from the
instant at which the line has taken the whole request.  A response that is complete at the very
instant it runs out still counts, unless there had to be a pause before the response was complete.
After a timeout nothing is lost: what came too late is read by the next cycle.
-/

structure Client where
  connection : Connection
  settings : Settings
deriving DecidableEq, Repr

namespace Client

def start (settings : Settings) : Client := ⟨.start, settings⟩

def withConnection (client : Client) (connection : Connection) : Client :=
  { client with connection }

/-- What a read of the connection means to the cycle that waits for it. -/
def conclude : Except LinkError (Option Response) → Except ClientError Response
  | .error error => .error (.ofLink error)
  | .ok none => .error .closed
  | .ok (some response) => .ok response

/-- The end of a cycle whose response did not come in time. -/
def expire (client : Client) : Client := client.withConnection client.connection.recordTimeout

/-- Waits for a response for as long as the cycle as a whole may take. -/
def awaitUntimed (client : Client) (line : Line) (deadline : Deadline) :
    Attempt (Except ClientError Response) Client :=
  let read := client.connection.readResponse line deadline
  ⟨read.outcome.map conclude, client.withConnection read.owner, read.line⟩

/-- Waits for a response, but no longer than a response timeout that counts from now.  The pause due
before that is not part of it. -/
def awaitTimed (client : Client) (timeout : Duration) (line : Line) (deadline : Deadline) :
    Attempt (Except ClientError Response) Client :=
  let expiry := line.now + timeout.milliseconds
  let rested := { line with clock := line.clock.rested }
  let read := client.connection.readResponse rested (some (deadline.orSooner expiry))
  let waited := client.withConnection read.owner
  match read.outcome with
  | some result => ⟨some (conclude result), waited, read.line⟩
  | none =>
      if deadline.allows expiry then ⟨some (.error .responseTimeout), waited.expire, read.line⟩
      else ⟨none, waited, read.line⟩

/-- Waits for the response to a request that the line has taken just now.  The cycle as a whole may
have a deadline of its own.  If the pause due now would be its end, the response timeout never gets
to run, not even one of no time at all. -/
def await (client : Client) (line : Line) (deadline : Deadline) :
    Attempt (Except ClientError Response) Client :=
  match client.settings.responseTimeout with
  | none => client.awaitUntimed line deadline
  | some timeout =>
      if line.clock.isSpent deadline then client.awaitUntimed line deadline
      else client.awaitTimed timeout line deadline

def send (client : Client) (request : Request) (line : Line) (deadline : Deadline) :
    Attempt (Except ClientError Response) Client :=
  let sent := client.connection.sendRequest request line deadline
  let sender := client.withConnection sent.owner
  match sent.outcome with
  | none => ⟨none, sender, sent.line⟩
  | some (.error error) => ⟨some (.error (.ofLink error)), sender, sent.line⟩
  | some (.ok ()) => sender.await sent.line deadline

/-- Builds a request to a given target, sends it and waits for its response. -/
def requestTo (client : Client) (target operation : UInt8) (payload : Bytes) (line : Line)
    (deadline : Deadline) : Attempt (Except ClientError Response) Client :=
  match Request.make target operation payload with
  | .error error => ⟨some (.error (.protocol error)), client, line⟩
  | .ok request => client.send request line deadline

def request (client : Client) (operation : UInt8) (payload : Bytes) (line : Line)
    (deadline : Deadline) : Attempt (Except ClientError Response) Client :=
  client.requestTo client.settings.target operation payload line deadline

def describe (client : Client) : String :=
  Text.record "Client"
    [("config", client.settings.describe), ("connection", client.connection.describe)] false

end Client

end SerialLink
