import SerialLink.Device.Service
import SerialLink.Fault.Device

namespace SerialLink

/-! A simulated device with any number of links.

Every link has a label that the host knows it by.  The links share the log of the device and nothing
else.  After every operation the device goes on, on all links, until it waits for its hosts.
-/

structure Device where
  setup : Setup
  stopped : Bool
  /-- What the device has logged, the newest entry first. -/
  log : List Entry
  links : List (String × Link)

namespace Device

def start (setup : Setup) : Device := ⟨setup, false, [], []⟩

def recording (device : Device) : Recording := device.log.reverse

def linkCount (device : Device) : Nat := (device.links.filter (·.2.deviceOpen)).length

/-- Lets the device go on, on one link after the other. -/
def settleLinks (setup : Setup) (stopped : Bool) :
    List (String × Link) → List Entry → List (String × Link) × List Entry
  | [], log => ([], log)
  | (label, link) :: links, log =>
      let settled := Service.settle setup stopped ⟨link, log⟩
      let (rest, last) := settleLinks setup stopped links settled.log
      ((label, settled.link) :: rest, last)

def settle (device : Device) : Device :=
  let (links, log) := settleLinks device.setup device.stopped device.links device.log
  { device with links, log }

/-- Puts a link in the place of the one with the same label. -/
def replaceLink (label : String) (link : Link) : List (String × Link) → List (String × Link)
  | [] => []
  | (known, earlier) :: links =>
      if known = label then (label, link) :: links
      else (known, earlier) :: replaceLink label link links

def serve (device : Device) (label : String) (work : Service → α × Service) :
    Option (α × Device) :=
  (device.links.lookup label).map fun link =>
    let (result, after) := work ⟨link, device.log⟩
    (result,
      settle { device with links := replaceLink label after.link device.links, log := after.log })

/-- The host lets go of a link.  The device handles what it can still read there and lets go too. -/
def close (device : Device) (label : String) : Device :=
  match device.links.lookup label with
  | none => device
  | some link =>
      let after := Service.settle device.setup device.stopped ⟨link.dropHost, device.log⟩
      { device with
        links := device.links.filter (·.1 != label)
        log := after.log }

/-- Opens a link, in the place of the one that has had the label so far. -/
def connect (device : Device) (label : String) : Except DeviceError Device :=
  if device.stopped then .error .stopped
  else
    let free := device.close label
    .ok { free with links := free.links ++ [(label, .fresh device.setup.capacity.val)] }

/-- Stops the device.  It lets go of every link on which it is not just writing an answer. -/
def stop (device : Device) : Device := settle { device with stopped := true }

def write (device : Device) (label : String) (bytes : Bytes) :
    Option (Option (Except LinkError Unit) × Device) :=
  device.serve label (Service.write device.setup device.stopped bytes)

def read (device : Device) (label : String) (wanted : Option Nat) :
    Option ((Bytes × Bool) × Device) :=
  device.serve label fun service =>
    let (bytes, ended, after) := Service.read device.setup device.stopped wanted service
    ((bytes, ended), after)

/-- What came of the cycle of a client, if it ended, and the client after it. -/
abbrev Cycle := Option (Except ClientError Response) × Client

def send (device : Device) (label : String) (patience : Duration) (client : Client)
    (request : Request) : Option (Cycle × Device) :=
  device.serve label fun service =>
    let (outcome, owner, after) :=
      Service.send device.setup device.stopped patience client request service
    ((outcome, owner), after)

def requestTo (device : Device) (label : String) (patience : Duration) (client : Client)
    (target operation : UInt8) (payload : Bytes) : Option (Cycle × Device) :=
  device.serve label fun service =>
    let (outcome, owner, after) :=
      Service.requestTo device.setup device.stopped patience client target operation payload service
    ((outcome, owner), after)

def request (device : Device) (label : String) (patience : Duration) (client : Client)
    (operation : UInt8) (payload : Bytes) : Option (Cycle × Device) :=
  device.requestTo label patience client client.settings.target operation payload

def describe (device : Device) : String :=
  Text.record "MockDevice"
    [("config", device.setup.describe), ("stopped", toString device.stopped)] true

end Device

end SerialLink
