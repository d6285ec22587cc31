import SerialLink.Device.Service
import SerialLink.Proofs.Client

namespace SerialLink

/-! What a device takes for a request is one.

The device reads a link through a receiver for requests.  Nothing that a host does reaches into that
receiver, so whatever it does, and whenever it does it, every frame that the device logs as coming
from the host decodes.
-/

def Entry.Understood (entry : Entry) : Prop :=
  entry.fromDevice = false → ∃ request, Request.decode entry.bytes = .ok request

namespace Link

variable {setup : Setup} {stopped : Bool} {link after : Link} {entry : Option Entry}

def Sound (link : Link) : Prop := link.receiver.reassembler.Consistent .request

theorem sound_fresh (capacity : Nat) : (fresh capacity).Sound := Reassembler.consistent_empty _

theorem Sound.takeRequest (sound : link.Sound)
    (took : takeRequest setup link = some (after, entry)) :
    after.Sound ∧ ∀ logged, entry = some logged → logged.Understood := by
  unfold Link.takeRequest at took
  split at took
  · rename_i frame receiver completed
    obtain ⟨decodedSound, whole⟩ := Receiver.decode_keeps completed sound
    cases took
    refine ⟨decodedSound, ?_⟩
    intro logged same _
    cases same
    exact Request.decode_of_isFrame (whole frame rfl)
  · rename_i receiver unfinished
    obtain ⟨decodedSound, _⟩ := Receiver.decode_keeps unfinished sound
    split at took
    · cases took
      exact ⟨decodedSound, by simp⟩
    · split at took
      · cases took
        exact ⟨sound, by simp⟩
      · split at took
        · cases took
          exact ⟨decodedSound, by simp⟩
        · contradiction

theorem writePiece_receiver {outgoing : Outgoing}
    (wrote : writePiece setup link outgoing = some after) : after.receiver = link.receiver := by
  simp only [writePiece] at wrote
  split at wrote
  · split at wrote
    · contradiction
    · cases wrote
      rfl
  · cases wrote
    rfl

theorem Sound.step (sound : link.Sound) (did : step setup stopped link = some (after, entry)) :
    after.Sound ∧ ∀ logged, entry = some logged → logged.Understood := by
  unfold Link.step at did
  split at did
  · split at did
    · rename_i outgoing writing
      split at did
      · cases did
        refine ⟨sound, ?_⟩
        intro logged same fromHost
        cases same
        contradiction
      · obtain ⟨written, wrote, same⟩ := Option.map_eq_some_iff.mp did
        cases same
        refine ⟨?_, by simp⟩
        rw [Sound, writePiece_receiver wrote]
        exact sound
    · split at did
      · cases did
        exact ⟨sound, by simp⟩
      · exact sound.takeRequest did
  · contradiction

/-- Host and device in any order.  A host that writes gets rid of what there is room for. -/
inductive Turn where
  | device (stopped : Bool)
  | hostWrites (bytes : Bytes)
  | hostReads (count : Nat)
  | hostLeaves

/-- One turn on a link, and what the device logs in it. -/
def turn (setup : Setup) (link : Link) : Turn → Option Entry × Link
  | .device stopped =>
      match link.step setup stopped with
      | none => (none, link)
      | some (after, entry) => (entry, after)
  | .hostWrites bytes => (none, { link with toDevice := link.toDevice ++ bytes.take link.hostRoom })
  | .hostReads count => (none, { link with toHost := link.toHost.drop count })
  | .hostLeaves => (none, link.dropHost)

theorem Sound.turn (sound : link.Sound) (setup : Setup) (turn : Turn) :
    (∀ logged, (link.turn setup turn).1 = some logged → logged.Understood) ∧
      (link.turn setup turn).2.Sound := by
  cases turn with
  | device stopped =>
      simp only [Link.turn]
      split
      · exact ⟨by simp, sound⟩
      · rename_i did
        exact (sound.step did).symm
  | hostWrites bytes => exact ⟨nofun, sound⟩
  | hostReads count => exact ⟨nofun, sound⟩
  | hostLeaves => exact ⟨nofun, sound⟩

theorem history_understood (setup : Setup) (capacity : Nat) (turns : List Turn) :
    ∀ entry ∈ (history (turn setup) (fresh capacity) turns).1,
      ∀ logged, entry.2 = some logged → logged.Understood :=
  (history_keeps Sound (fun _ entry => ∀ logged, entry = some logged → Entry.Understood logged)
    (fun _ next sound => sound.turn setup next) (sound_fresh capacity) turns).1

end Link

namespace Service

variable {setup : Setup} {stopped : Bool} {service after : Service}

structure Sound (service : Service) : Prop where
  link : service.link.Sound
  log : ∀ entry ∈ service.log, entry.Understood

theorem Sound.step (sound : service.Sound) (did : service.step setup stopped = some after) :
    after.Sound := by
  obtain ⟨⟨link, entry⟩, moved, same⟩ := Option.map_eq_some_iff.mp did
  obtain ⟨linkSound, understood⟩ := sound.link.step moved
  cases same
  refine ⟨linkSound, ?_⟩
  intro logged member
  rcases List.mem_append.mp member with new | old
  · exact understood logged (Option.mem_toList.mp new)
  · exact sound.log logged old

theorem Sound.goOn (sound : service.Sound) (setup : Setup) (stopped : Bool) (ready : Link → Bool)
    (credit : Nat) : (service.goOn setup stopped ready credit).Sound := by
  fun_induction service.goOn setup stopped ready credit with
  | case1 => exact sound
  | case2 _ service after did => exact sound.step did
  | case3 _ service after did _ _ _ ih => exact ih (sound.step did)
  | case4 _ service after did _ _ ih => exact ih (sound.step did)

theorem Sound.settle (sound : service.Sound) (setup : Setup) (stopped : Bool) :
    (service.settle setup stopped).Sound :=
  sound.goOn setup stopped _ burst

/-- What an operation of a host keeps, whatever line it works on. -/
def Lasting (invariant : σ → Prop) (allowed : α → Prop)
    (operation : σ → Line → Attempt α σ) : Prop :=
  ∀ owner line, invariant owner → invariant (operation owner line).owner ∧
    ∀ outcome, (operation owner line).outcome = some outcome → allowed outcome

/-- The same of an operation that is done in turns with the device. -/
structure Driven (invariant : σ → Prop) (allowed : α → Prop)
    (result : Option α × σ × Service) : Prop where
  owner : invariant result.2.1
  service : result.2.2.Sound
  outcome : ∀ outcome, result.1 = some outcome → allowed outcome

variable {invariant : σ → Prop} {allowed : α → Prop} {operation : σ → Line → Attempt α σ}
  {owner : σ} {connection : Connection} {client : Client}

theorem Driven.of_none (kept : invariant owner) (sound : service.Sound) :
    Driven invariant allowed (none, owner, service) :=
  ⟨kept, sound, nofun⟩

theorem Driven.of_some {outcome : α} (kept : invariant owner) (sound : service.Sound)
    (answered : allowed outcome) : Driven invariant allowed (some outcome, owner, service) := by
  refine ⟨kept, sound, ?_⟩
  intro other same
  cases same
  exact answered

theorem Sound.drive (sound : service.Sound) (lasting : Lasting invariant allowed operation)
    (initially : invariant owner) (setup : Setup) (stopped : Bool) (ready : Link → Bool)
    (turns : Nat) :
    Driven invariant allowed (drive setup stopped ready operation turns owner service) := by
  induction turns generalizing owner service with
  | zero => exact .of_none initially sound
  | succ turns ih =>
      obtain ⟨kept, answered⟩ := lasting owner service.link.hostLine initially
      -- The host's line stands for both ends of the link, but not for the device's receiver.
      have used : Sound { service with
          link := service.link.afterHost (operation owner service.link.hostLine).line } :=
        ⟨sound.link, sound.log⟩
      have later := used.goOn setup stopped ready burst
      simp only [Service.drive]
      split
      · rename_i outcome ended
        exact .of_some kept used (answered outcome ended)
      · split
        · exact ih later kept
        · exact .of_none kept later

theorem Sound.write (sound : service.Sound) (setup : Setup) (stopped : Bool) (bytes : Bytes) :
    (service.write setup stopped bytes).2.Sound := by
  have lasting : Lasting (fun _ => True) (fun _ => True)
      (fun (sender : Sender) line => sender.flush line none) :=
    fun _ _ _ => ⟨trivial, fun _ _ => trivial⟩
  have driven : Driven (fun _ => True) (fun _ => True)
      (Service.drive setup stopped Link.canWrite
        (fun sender line => Sender.flush sender line none)
        (bytes.length + 1) ⟨bytes⟩ service) :=
    sound.drive lasting trivial setup stopped Link.canWrite _
  exact driven.service

theorem Sound.read (sound : service.Sound) (setup : Setup) (stopped : Bool) (wanted : Option Nat) :
    (service.read setup stopped wanted).2.2.Sound := by
  fun_induction service.read setup stopped wanted with
  | case1 => exact sound
  | case2 => exact sound
  | case3 wanted service count arrived wants less taken link missing settled rest ended last same
      ih =>
      have drained : Sound ⟨link, service.log⟩ := ⟨sound.link, sound.log⟩
      have lastSound := ih (drained.settle setup stopped)
      rwa [same] at lastSound

theorem enqueue_lasting (request : Request) :
    Lasting Connection.Sound LinkError.Spared
      (fun owner line => Connection.enqueue owner request line none) := by
  intro connection line connected
  obtain ⟨kept, spared⟩ := connected.enqueue request line none
  exact ⟨kept, spared⟩

theorem finishSend_lasting :
    Lasting Connection.Sound LinkError.Spared
      (fun owner line => Connection.finishSend owner line none) := by
  intro connection line connected
  obtain ⟨kept, spared⟩ := connected.finishSend line none
  exact ⟨kept, spared⟩

theorem readResponse_lasting :
    Lasting Connection.Sound LinkError.Spared
      (fun owner line => Connection.readResponse owner line none) := by
  intro connection line connected
  obtain ⟨kept, spared⟩ := connected.readResponse line none
  exact ⟨kept, spared⟩

theorem Sound.sendRequest (sound : service.Sound) (connected : connection.Sound) (setup : Setup)
    (stopped : Bool) (request : Request) :
    Driven Connection.Sound LinkError.Spared
      (sendRequest setup stopped connection request service) := by
  have queued := sound.drive (enqueue_lasting request) connected setup stopped Link.canWrite
    (connection.sender.pending.length + 1)
  unfold Service.sendRequest
  split
  · rename_i owner accepted same
    rw [same] at queued
    exact queued.service.drive finishSend_lasting queued.owner setup stopped Link.canWrite _
  · exact queued

theorem Sound.send (sound : service.Sound) (connected : client.connection.Sound) (setup : Setup)
    (stopped : Bool) (patience : Duration) (request : Request) :
    Driven (fun owner : Client => owner.connection.Sound) ClientError.Spared
      (send setup stopped patience client request service) := by
  have sent := sound.sendRequest connected setup stopped request
  unfold Service.send
  split
  · rename_i connection after same
    rw [same] at sent
    exact .of_none sent.owner sent.service
  · rename_i reason connection after same
    rw [same] at sent
    exact .of_some sent.owner sent.service (ClientError.spared_ofLink (sent.outcome _ rfl))
  · rename_i connection after same
    rw [same] at sent
    have received := sent.service.drive readResponse_lasting sent.owner setup stopped Link.canRead
      (awaitTurns client.settings.responseTimeout)
    rcases driven : Service.drive setup stopped Link.canRead
        (fun owner line => Connection.readResponse owner line none)
        (awaitTurns client.settings.responseTimeout) connection after with ⟨outcome, owner, last⟩
    rw [driven] at received
    simp only
    cases outcome with
    | some result =>
        exact .of_some received.owner received.service
          (Client.conclude_spared (received.outcome result rfl))
    | none =>
        split
        · contradiction
        · exact .of_none received.owner received.service
        · split
          · exact .of_some (Client.expire_sound received.owner) received.service
              ClientError.spared_responseTimeout
          · exact .of_none received.owner received.service

theorem Sound.requestTo (sound : service.Sound) (connected : client.connection.Sound)
    (setup : Setup) (stopped : Bool) (patience : Duration) (target operation : UInt8)
    (payload : Bytes) :
    Driven (fun owner : Client => owner.connection.Sound)
      ((Client.Call.requestTo target operation payload).Allows client.settings)
      (requestTo setup stopped patience client target operation payload service) := by
  unfold Service.requestTo
  split
  · rename_i error refused
    exact .of_some connected sound (.inr ⟨error, refused, rfl⟩)
  · rename_i request built
    obtain ⟨kept, served, spared⟩ := sound.send connected setup stopped patience request
    exact ⟨kept, served, fun outcome same => .inl (spared outcome same)⟩

end Service

end SerialLink
