import SerialLink.Device
import SerialLink.Proofs.Device.Requests
import SerialLink.Proofs.History

namespace SerialLink

/-! A device at work for all its hosts.

A host has a client on its link or reads and writes the link itself.  Each link is at the mercy of its
host only, but all of them write to one log.
-/

namespace Device

variable {device after : Device} {label : String} {links : List (String × Link)} {link : Link}
  {log : List Entry}

structure Sound (device : Device) : Prop where
  links : ∀ labelled ∈ device.links, labelled.2.Sound
  log : ∀ entry ∈ device.log, entry.Understood

theorem sound_start (setup : Setup) : (start setup).Sound :=
  ⟨by simp [start], by simp [start]⟩

theorem sound_of_lookup (sound : ∀ labelled ∈ links, labelled.2.Sound)
    (found : links.lookup label = some link) : link.Sound := by
  obtain ⟨front, back, rfl, _⟩ := List.lookup_eq_some_iff.mp found
  exact sound (label, link) (by simp)

theorem replaceLink_sound (sound : ∀ labelled ∈ links, labelled.2.Sound) (next : link.Sound) :
    ∀ labelled ∈ replaceLink label link links, labelled.2.Sound := by
  induction links with
  | nil => simp [replaceLink]
  | cons first links ih =>
      obtain ⟨known, earlier⟩ := first
      obtain ⟨firstSound, restSound⟩ := List.forall_mem_cons.mp sound
      simp only [replaceLink]
      split
      · exact List.forall_mem_cons.mpr ⟨next, restSound⟩
      · exact List.forall_mem_cons.mpr ⟨firstSound, ih restSound⟩

theorem settleLinks_sound (setup : Setup) (stopped : Bool)
    (sound : ∀ labelled ∈ links, labelled.2.Sound) (logged : ∀ entry ∈ log, entry.Understood) :
    (∀ labelled ∈ (settleLinks setup stopped links log).1, labelled.2.Sound) ∧
      ∀ entry ∈ (settleLinks setup stopped links log).2, entry.Understood := by
  induction links generalizing log with
  | nil => exact ⟨by simp [settleLinks], logged⟩
  | cons first links ih =>
      obtain ⟨label, link⟩ := first
      obtain ⟨firstSound, restSound⟩ := List.forall_mem_cons.mp sound
      have service : Service.Sound ⟨link, log⟩ := ⟨firstSound, logged⟩
      have settled := service.settle setup stopped
      obtain ⟨rest, last⟩ := ih restSound settled.log
      exact ⟨List.forall_mem_cons.mpr ⟨settled.link, rest⟩, last⟩

theorem Sound.settle (sound : device.Sound) : device.settle.Sound := by
  obtain ⟨links, log⟩ := settleLinks_sound device.setup device.stopped sound.links sound.log
  exact ⟨links, log⟩

/-- Whatever a host does on a link, if it leaves the link sound, it leaves the device sound. -/
theorem Sound.serve {work : Service → α × Service} {result : α} (sound : device.Sound)
    (allowed : α → Prop)
    (keeps : ∀ service : Service, service.Sound →
      (work service).2.Sound ∧ allowed (work service).1)
    (served : device.serve label work = some (result, after)) : after.Sound ∧ allowed result := by
  obtain ⟨link, found, same⟩ := Option.map_eq_some_iff.mp served
  have service : Service.Sound ⟨link, device.log⟩ :=
    ⟨sound_of_lookup sound.links found, sound.log⟩
  obtain ⟨worked, answered⟩ := keeps _ service
  cases same
  refine ⟨Sound.settle ⟨?_, worked.log⟩, answered⟩
  exact replaceLink_sound sound.links worked.link

theorem Sound.close (sound : device.Sound) (label : String) : (device.close label).Sound := by
  unfold Device.close
  split
  · exact sound
  · rename_i link found
    have live : link.Sound := sound_of_lookup sound.links found
    have dropped : Service.Sound ⟨link.dropHost, device.log⟩ := ⟨live, sound.log⟩
    refine ⟨?_, (dropped.settle device.setup device.stopped).log⟩
    intro labelled member
    exact sound.links labelled (List.mem_filter.mp member).1

theorem Sound.connect (sound : device.Sound) (connected : device.connect label = .ok after) :
    after.Sound := by
  unfold Device.connect at connected
  split at connected
  · contradiction
  · cases connected
    have freed := sound.close label
    refine ⟨?_, freed.log⟩
    intro labelled member
    rcases List.mem_append.mp member with old | new
    · exact freed.links labelled old
    · rw [List.mem_singleton.mp new]
      exact Link.sound_fresh _

def cycle (device : Device) (label : String) (patience : Duration) (client : Client) :
    Client.Call → Option (Cycle × Device)
  | .send request => device.send label patience client request
  | .request operation payload => device.request label patience client operation payload
  | .requestTo target operation payload =>
      device.requestTo label patience client target operation payload

structure Cycled (call : Client.Call) (settings : Settings) (cycle : Cycle) : Prop where
  owner : cycle.2.connection.Sound
  outcome : ∀ outcome, cycle.1 = some outcome → call.Allows settings outcome

variable {client : Client} {patience : Duration} {result : Cycle}

theorem Sound.send {request : Request} (sound : device.Sound) (connected : client.connection.Sound)
    (served : device.send label patience client request = some (result, after)) :
    after.Sound ∧ Cycled (.send request) client.settings result := by
  refine sound.serve _ ?_ served
  intro service serviceSound
  obtain ⟨owner, last, spared⟩ :=
    serviceSound.send connected device.setup device.stopped patience request
  exact ⟨last, owner, fun outcome same => .inl (spared outcome same)⟩

theorem Sound.requestTo {target operation : UInt8} {payload : Bytes} (sound : device.Sound)
    (connected : client.connection.Sound)
    (served : device.requestTo label patience client target operation payload =
      some (result, after)) :
    after.Sound ∧ Cycled (.requestTo target operation payload) client.settings result := by
  refine sound.serve _ ?_ served
  intro service serviceSound
  obtain ⟨owner, last, allowed⟩ := serviceSound.requestTo connected device.setup device.stopped
    patience target operation payload
  exact ⟨last, owner, allowed⟩

theorem Sound.cycle {call : Client.Call} (sound : device.Sound)
    (connected : client.connection.Sound)
    (served : device.cycle label patience client call = some (result, after)) :
    after.Sound ∧ Cycled call client.settings result := by
  cases call with
  | send request => exact sound.send connected served
  | request operation payload =>
      obtain ⟨last, owner, allowed⟩ := sound.requestTo connected served
      exact ⟨last, owner, allowed⟩
  | requestTo target operation payload => exact sound.requestTo connected served

end Device

structure Bench where
  device : Device
  clients : List (String × Client)

namespace Bench

variable {bench : Bench}

def start (setup : Setup) : Bench := ⟨.start setup, []⟩

def forget (bench : Bench) (label : String) : List (String × Client) :=
  bench.clients.filter (·.1 != label)

inductive Call where
  /-- Opens a link, for a client if there are settings for one. -/
  | connect (label : String) (settings : Option Settings)
  | close (label : String)
  | stop
  | write (label : String) (bytes : Bytes)
  | read (label : String) (wanted : Option Nat)
  | cycle (label : String) (patience : Duration) (call : Client.Call)

inductive Reply where
  | connected (outcome : Except DeviceError Unit)
  | wrote (outcome : Option (Except LinkError Unit))
  | read (bytes : Bytes) (ended : Bool)
  | cycled (outcome : Option (Except ClientError Response))
  /-- There is no such link, or no client on it. -/
  | unknown
  | done

def perform (bench : Bench) : Call → Reply × Bench
  | .connect label settings =>
      match bench.device.connect label with
      | .error error => (.connected (.error error), bench)
      | .ok device =>
          let clients := settings.toList.map fun settings => (label, .start settings)
          (.connected (.ok ()), ⟨device, clients ++ bench.forget label⟩)
  | .close label => (.done, ⟨bench.device.close label, bench.forget label⟩)
  | .stop => (.done, { bench with device := bench.device.stop })
  | .write label bytes =>
      match bench.device.write label bytes with
      | none => (.unknown, bench)
      | some (outcome, device) => (.wrote outcome, { bench with device })
  | .read label wanted =>
      match bench.device.read label wanted with
      | none => (.unknown, bench)
      | some ((bytes, ended), device) => (.read bytes ended, { bench with device })
  | .cycle label patience call =>
      match bench.clients.lookup label with
      | none => (.unknown, bench)
      | some client =>
          match bench.device.cycle label patience client call with
          | none => (.unknown, bench)
          | some ((outcome, owner), device) =>
              (.cycled outcome, ⟨device, (label, owner) :: bench.forget label⟩)

structure Sound (bench : Bench) : Prop where
  device : bench.device.Sound
  clients : ∀ labelled ∈ bench.clients, labelled.2.connection.Sound

theorem sound_start (setup : Setup) : (start setup).Sound :=
  ⟨Device.sound_start setup, by simp [start]⟩

/-- A cycle of a client ends as it would on any line. -/
def Reply.Allowed : Call → Reply → Prop
  | .cycle _ _ call, .cycled reply =>
      ∀ outcome, reply = some outcome → ∃ settings, call.Allows settings outcome
  | _, _ => True

theorem Sound.forget (sound : bench.Sound) (label : String) :
    ∀ labelled ∈ bench.forget label, labelled.2.connection.Sound := by
  intro labelled member
  exact sound.clients labelled (List.mem_filter.mp member).1

theorem Sound.perform (sound : bench.Sound) (call : Call) :
    Reply.Allowed call (bench.perform call).1 ∧ (bench.perform call).2.Sound := by
  cases call with
  | connect label settings =>
      refine ⟨trivial, ?_⟩
      simp only [Bench.perform]
      split
      · exact sound
      · rename_i device connected
        refine ⟨sound.device.connect connected, ?_⟩
        intro labelled member
        rcases List.mem_append.mp member with new | old
        · obtain ⟨settings, _, rfl⟩ := List.mem_map.mp new
          exact Connection.sound_start
        · exact sound.forget label labelled old
  | close label => exact ⟨trivial, sound.device.close label, sound.forget label⟩
  | stop => exact ⟨trivial, Device.Sound.settle ⟨sound.device.links, sound.device.log⟩,
      sound.clients⟩
  | write label bytes =>
      refine ⟨trivial, ?_⟩
      simp only [Bench.perform]
      split
      · exact sound
      · rename_i outcome device served
        refine ⟨(sound.device.serve (fun _ => True) ?_ served).1, sound.clients⟩
        exact fun _ kept => ⟨kept.write _ _ bytes, trivial⟩
  | read label wanted =>
      refine ⟨trivial, ?_⟩
      simp only [Bench.perform]
      split
      · exact sound
      · rename_i bytes ended device served
        refine ⟨(sound.device.serve (fun _ => True) ?_ served).1, sound.clients⟩
        exact fun _ kept => ⟨kept.read _ _ wanted, trivial⟩
  | cycle label patience call =>
      simp only [Bench.perform]
      split
      · exact ⟨trivial, sound⟩
      · rename_i client found
        have connected : client.connection.Sound := by
          obtain ⟨front, back, same, _⟩ := List.lookup_eq_some_iff.mp found
          exact sound.clients (label, client) (by simp [same])
        split
        · exact ⟨trivial, sound⟩
        · rename_i outcome owner device served
          obtain ⟨deviceSound, ownerSound, allowed⟩ := sound.device.cycle connected served
          refine ⟨fun result same => ⟨_, allowed result same⟩, deviceSound, ?_⟩
          exact List.forall_mem_cons.mpr ⟨ownerSound, sound.forget label⟩

theorem history_sound (setup : Setup) (calls : List Call) :
    (∀ entry ∈ (history perform (start setup) calls).1, Reply.Allowed entry.1 entry.2) ∧
      (history perform (start setup) calls).2.Sound :=
  history_keeps Sound Reply.Allowed (fun _ call sound => sound.perform call) (sound_start setup) calls

end Bench

end SerialLink
