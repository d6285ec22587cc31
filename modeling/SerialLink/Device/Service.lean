import SerialLink.Client
import SerialLink.Device.Link

namespace SerialLink

/-! A host at work on one link while the device serves it.

Host and device take turns: the host goes as far as it can with what the link holds, then the device
goes on until it waits for the host or pauses while the host can go on too.  It pauses behind each
piece of an answer, and also when it has done much in one go.  If neither can go on, the host waits
in vain.

To the host the link is a line like any other, with what can be read and written before the device
goes on; so everything that works on a line works here.
-/

/-- A link, and what its device has logged. -/
structure Service where
  link : Link
  /-- The newest entry first. -/
  log : List Entry

namespace Link

/-- The host's end, until the device goes on. -/
def hostLine (link : Link) : Line where
  clock := .start
  reads := if link.toHost.isEmpty then [] else [.data link.toHost]
  readsHang := link.deviceOpen
  writes :=
    if link.deviceOpen then if link.hostRoom = 0 then [] else [.accept link.hostRoom]
    else [.fail .brokenPipe]
  writesHang := true
  written := []
  isShut := false

/-- The link after the host has used its end. -/
def afterHost (link : Link) (line : Line) : Link :=
  { link with
    toHost := Line.delivered line.reads
    toDevice := link.toDevice ++ line.written }

def canRead (link : Link) : Bool := !link.toHost.isEmpty || !link.deviceOpen

def canWrite (link : Link) : Bool := link.hostRoom != 0 || !link.deviceOpen

end Link

namespace Service

def step (setup : Setup) (stopped : Bool) (service : Service) : Option Service :=
  (service.link.step setup stopped).map fun (link, entry) =>
    ⟨link, entry.toList ++ service.log⟩

theorem step_effort {setup : Setup} {stopped : Bool} {service after : Service}
    (did : service.step setup stopped = some after) :
    after.link.effort < service.link.effort := by
  obtain ⟨⟨link, entry⟩, moved, same⟩ := Option.map_eq_some_iff.mp did
  cases same
  exact Link.step_effort moved

theorem step_readable {setup : Setup} {stopped : Bool} {service after : Service}
    (did : service.step setup stopped = some after) :
    after.link.readable setup ≤ service.link.readable setup := by
  obtain ⟨⟨link, entry⟩, moved, same⟩ := Option.map_eq_some_iff.mp did
  cases same
  exact Link.step_readable moved

/-- The device goes on until it waits for the host, or until it pauses and the host is ready.  With
a credit it says how many things it does before the next pause. -/
def goOn (setup : Setup) (stopped : Bool) (ready : Link → Bool) (credit : Nat)
    (service : Service) : Service :=
  match did : service.step setup stopped with
  | none => service
  | some after =>
      have := step_effort did
      if after.link.pauses setup || credit ≤ 1 then
        if ready after.link then after else after.goOn setup stopped ready burst
      else after.goOn setup stopped ready (credit - 1)
termination_by service.link.effort

/-- The device goes on until it waits for the host. -/
def settle (setup : Setup) (stopped : Bool) (service : Service) : Service :=
  service.goOn setup stopped (fun _ => false) burst

theorem goOn_readable (setup : Setup) (stopped : Bool) (ready : Link → Bool) (credit : Nat)
    (service : Service) :
    (service.goOn setup stopped ready credit).link.readable setup ≤
      service.link.readable setup := by
  fun_induction service.goOn setup stopped ready credit with
  | case1 => exact Nat.le_refl _
  | case2 _ service after did => exact step_readable did
  | case3 _ service after did _ _ _ ih => exact Nat.le_trans ih (step_readable did)
  | case4 _ service after did _ _ ih => exact Nat.le_trans ih (step_readable did)

theorem settle_step (setup : Setup) (stopped : Bool) (service : Service) :
    (service.settle setup stopped).step setup stopped = none := by
  unfold settle
  generalize burst = credit
  fun_induction service.goOn setup stopped (fun _ => false) credit with
  | case1 _ service waits => exact waits
  | case2 _ service after did _ _ never => contradiction
  | case3 _ service after did _ _ _ ih => exact ih
  | case4 _ service after did _ _ ih => exact ih

/-- Repeats an operation of the host, which goes on each time where it stopped, until it is done.
The device goes on in between, and the operation with it if the host is ready then. -/
def drive (setup : Setup) (stopped : Bool) (ready : Link → Bool)
    (operation : σ → Line → Attempt α σ) : Nat → σ → Service → Option α × σ × Service
  | 0, owner, service => (none, owner, service)
  | turns + 1, owner, service =>
      let attempt := operation owner service.link.hostLine
      let used := { service with link := service.link.afterHost attempt.line }
      match attempt.outcome with
      | some outcome => (some outcome, attempt.owner, used)
      | none =>
          let later := used.goOn setup stopped ready burst
          if ready later.link then drive setup stopped ready operation turns attempt.owner later
          else (none, attempt.owner, later)

/-- Writes bytes as they are.  Every turn in which the device goes on takes a byte at least. -/
def write (setup : Setup) (stopped : Bool) (bytes : Bytes) (service : Service) :
    Option (Except LinkError Unit) × Service :=
  let (outcome, _, after) :=
    drive setup stopped Link.canWrite (fun sender line => Sender.flush sender line none)
      (bytes.length + 1) ⟨bytes⟩ service
  (outcome, after)

/-- What the host has taken out of the link does not come again. -/
theorem settle_readable_of_take (setup : Setup) (stopped : Bool) {service : Service} {count : Nat}
    (wanted : 0 < count) (arrived : service.link.toHost ≠ []) :
    (settle setup stopped
        { service with
          link := { service.link with toHost := service.link.toHost.drop count } }).link.readable
        setup < service.link.readable setup := by
  have some_byte := List.length_pos_iff.mpr arrived
  refine Nat.lt_of_le_of_lt (goOn_readable setup stopped _ _ _) ?_
  simp only [Link.readable, List.length_drop]
  omega

/-- Reads everything that can be had without writing, or as much of it as is wanted, in turns with
the device.  Also says whether the end of the stream was met. -/
def read (setup : Setup) (stopped : Bool) (wanted : Option Nat) (service : Service) :
    Bytes × Bool × Service :=
  let count := wanted.getD service.link.toHost.length
  if nothing : service.link.toHost = [] then
    ([], wanted != some 0 && !service.link.deviceOpen, service)
  else if enough : count = 0 then ([], false, service)
  else
    have := settle_readable_of_take setup stopped (Nat.pos_of_ne_zero enough) nothing
    let taken := service.link.toHost.take count
    let link := { service.link with toHost := service.link.toHost.drop count }
    let missing := wanted.map (· - taken.length)
    let settled := settle setup stopped { service with link }
    let (rest, ended, last) := read setup stopped missing settled
    (taken ++ rest, ended, last)
termination_by service.link.readable setup

/-- Sends a request from a connection.  Every turn in which the device goes on takes a byte at
least. -/
def sendRequest (setup : Setup) (stopped : Bool) (connection : Connection) (request : Request)
    (service : Service) : Option (Except LinkError Unit) × Connection × Service :=
  match drive setup stopped Link.canWrite
      (fun owner line => Connection.enqueue owner request line none)
      (connection.sender.pending.length + 1) connection service with
  | (some (.ok ()), queued, accepted) =>
      drive setup stopped Link.canWrite
        (fun owner line => Connection.finishSend owner line none)
        (queued.sender.pending.length + 1) queued accepted
  | refused => refused

/-- The turns in which a response comes in, if it comes at all: every turn brings a byte at least.
Without any time to wait, the device does not get a turn. -/
def awaitTurns (timeout : Option Duration) : Nat :=
  if timeout = some ⟨0⟩ then 1 else Layout.response.maxFrame + 1

/-- One cycle of a client.  A wait in vain ends with the response timeout of the client, unless that
is longer than the patience of the caller. -/
def send (setup : Setup) (stopped : Bool) (patience : Duration) (client : Client)
    (request : Request) (service : Service) :
    Option (Except ClientError Response) × Client × Service :=
  match sendRequest setup stopped client.connection request service with
  | (none, connection, after) => (none, client.withConnection connection, after)
  | (some (.error error), connection, after) =>
      (some (.error (.ofLink error)), client.withConnection connection, after)
  | (some (.ok ()), connection, after) =>
      let (outcome, owner, last) :=
        drive setup stopped Link.canRead
          (fun owner line => Connection.readResponse owner line none)
          (awaitTurns client.settings.responseTimeout) connection after
      let waited := client.withConnection owner
      match outcome, client.settings.responseTimeout with
      | some result, _ => (some (Client.conclude result), waited, last)
      | none, none => (none, waited, last)
      | none, some timeout =>
          if timeout.milliseconds ≤ patience.milliseconds then
            (some (.error .responseTimeout), waited.expire, last)
          else (none, waited, last)

/-- One cycle of a client with a request that is yet to be built. -/
def requestTo (setup : Setup) (stopped : Bool) (patience : Duration) (client : Client)
    (target operation : UInt8) (payload : Bytes) (service : Service) :
    Option (Except ClientError Response) × Client × Service :=
  match Request.make target operation payload with
  | .error error => (some (.error (.protocol error)), client, service)
  | .ok request => send setup stopped patience client request service

end Service

end SerialLink
