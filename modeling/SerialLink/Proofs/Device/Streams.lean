import SerialLink.Proofs.Device.Bench
import SerialLink.Proofs.Device.Hub

namespace SerialLink

/-! Hosts that read and write their links themselves, as the bench runs them.

A host goes on until its operation is done or has to wait, and behind each operation the device goes
on on all its links until it has to wait.  This is one of the orders in which turns can be taken.
-/

namespace Terminal

theorem reaches_goOn (setup : Setup) (host : Host) (ready : Link → Bool) (credit : Nat)
    (service : Service) :
    Reaches (move setup) ⟨host, service⟩ ⟨host, service.goOn setup false ready credit⟩ := by
  have serves {service after : Service} (did : service.step setup false = some after) :
      Reaches (move setup) ⟨host, service⟩ ⟨host, after⟩ := by
    have turned := reaches_turn (move setup) ⟨host, service⟩ .device
    simp only [move, serve, did, Option.getD_some] at turned
    exact turned
  fun_induction service.goOn setup false ready credit with
  | case1 => exact .refl _ _
  | case2 _ service after did => exact serves did
  | case3 _ service after did _ _ _ ih => exact (serves did).trans ih
  | case4 _ service after did _ _ ih => exact (serves did).trans ih

/-- A host that is not held up. -/
theorem reaches_flush (setup : Setup) (received piece : Bytes) (later : List Bytes)
    (service : Service) :
    let flushed := Sender.flush ⟨piece⟩ service.link.hostLine none
    Reaches (move setup) ⟨⟨piece :: later, received⟩, service⟩
      ⟨⟨if flushed.outcome.isSome then later else flushed.owner.pending :: later, received⟩,
        { service with link := service.link.afterHost flushed.line }⟩ := by
  intro flushed
  let limit := max service.link.toHost.length service.link.hostRoom
  have shown : service.link.toHost.length ≤ limit := Nat.le_max_left _ _
  have room : service.link.hostRoom ≤ limit := Nat.le_max_right _ _
  have turned := reaches_turn (move setup) ⟨⟨piece :: later, received⟩, service⟩ (.write limit)
  simp only [move, write, Link.hostLine_narrowed shown room, Link.afterNarrowed_eq shown] at turned
  exact turned

theorem reaches_drive (setup : Setup) (turns : Nat) (received piece : Bytes) (later : List Bytes)
    (service : Service) :
    let driven := Service.drive setup false Link.canWrite
      (fun sender line => Sender.flush sender line none) turns ⟨piece⟩ service
    Reaches (move setup) ⟨⟨piece :: later, received⟩, service⟩
      ⟨⟨if driven.1.isSome then later else driven.2.1.pending :: later, received⟩,
        driven.2.2⟩ := by
  induction turns generalizing piece service with
  | zero => exact .refl _ _
  | succ turns ih =>
      have flushed := reaches_flush setup received piece later service
      simp only [Service.drive]
      split
      · rename_i outcome finished
        simpa only [finished] using flushed
      · rename_i unfinished
        simp only [unfinished, Option.isSome_none, Bool.false_eq_true, if_false] at flushed
        have waited := flushed.trans (reaches_goOn setup _ Link.canWrite burst _)
        split
        · exact waited.trans (ih _ _)
        · exact waited

theorem reaches_write {setup : Setup} {bytes received : Bytes} {later : List Bytes}
    {service : Service}
    (done : (Service.write setup false bytes service).1.isSome = true) :
    Reaches (move setup) ⟨⟨bytes :: later, received⟩, service⟩
      ⟨⟨later, received⟩, (Service.write setup false bytes service).2⟩ := by
  have driven := reaches_drive setup (bytes.length + 1) received bytes later service
  simp only [Service.write] at done ⊢
  simpa only [done, if_true] using driven

theorem reaches_read (setup : Setup) (wanted : Option Nat) (unsent : List Bytes) (received : Bytes)
    (service : Service) :
    let read := Service.read setup false wanted service
    Reaches (move setup) ⟨⟨unsent, received⟩, service⟩
      ⟨⟨unsent, received ++ read.1⟩, read.2.2⟩ := by
  fun_induction Service.read setup false wanted service generalizing received with
  | case1 => simpa using Reaches.refl (move setup) _
  | case2 => simpa using Reaches.refl (move setup) _
  | case3 _ service count nothing enough _ taken link missing settled rest ended last reading ih =>
      rw [reading] at ih
      have read := reaches_turn (move setup) ⟨⟨unsent, received⟩, service⟩ (.read count)
      have settles := reaches_goOn setup ⟨unsent, received ++ taken⟩ (fun _ => false) burst
        { service with link }
      simpa only [List.append_assoc] using (read.trans settles).trans (ih (received ++ taken))

end Terminal

namespace Device

variable {label : String} {links front back : List (String × Link)} {link other : Link}

theorem replaceLink_self (found : links.lookup label = some link) :
    replaceLink label link links = links := by
  induction links with
  | nil => rfl
  | cons first links ih =>
      obtain ⟨known, old⟩ := first
      by_cases same : known = label
      · subst same
        rw [List.lookup_cons_self] at found
        cases found
        rw [replaceLink, if_pos rfl]
      · rw [lookup_cons_other (Ne.symm same)] at found
        rw [replaceLink, if_neg same, ih found]

theorem replaceLink_replaceLink :
    replaceLink label link (replaceLink label other links) = replaceLink label link links := by
  induction links with
  | nil => rfl
  | cons first links ih =>
      obtain ⟨known, old⟩ := first
      by_cases same : known = label
      · simp only [replaceLink, if_pos same, if_true]
      · simp only [replaceLink, if_neg same, ih]

theorem replaceLink_labels (label : String) (link : Link) (links : List (String × Link)) :
    (replaceLink label link links).map (·.1) = links.map (·.1) := by
  induction links with
  | nil => rfl
  | cons first links ih =>
      obtain ⟨known, old⟩ := first
      by_cases same : known = label
      · rw [replaceLink, if_pos same, List.map_cons, List.map_cons, same]
      · rw [replaceLink, if_neg same, List.map_cons, List.map_cons, ih]

theorem lookup_of_absent (absent : label ∉ links.map (·.1)) : links.lookup label = none := by
  apply List.lookup_eq_none_iff.mpr
  intro labelled member
  apply bne_iff_ne.mpr
  rintro rfl
  exact absent (List.mem_map_of_mem member)

theorem lookup_middle (absent : label ∉ front.map (·.1)) :
    (front ++ (label, link) :: back).lookup label = some link := by
  rw [List.lookup_append, lookup_of_absent absent, Option.none_or, List.lookup_cons_self]

theorem replaceLink_middle (absent : label ∉ front.map (·.1)) :
    replaceLink label link (front ++ (label, other) :: back) = front ++ (label, link) :: back := by
  induction front with
  | nil => rw [List.nil_append, replaceLink, if_pos rfl, List.nil_append]
  | cons first front ih =>
      obtain ⟨known, old⟩ := first
      simp only [List.map_cons, List.mem_cons, not_or] at absent
      rw [List.cons_append, replaceLink, if_neg (Ne.symm absent.1), ih absent.2, List.cons_append]

theorem settleLinks_labels (setup : Setup) (stopped : Bool) (links : List (String × Link))
    (log : List Entry) : (settleLinks setup stopped links log).1.map (·.1) = links.map (·.1) := by
  induction links generalizing log with
  | nil => rfl
  | cons first links ih =>
      obtain ⟨label, link⟩ := first
      simp only [settleLinks, List.map_cons, ih]

theorem settleLinks_waits (setup : Setup) (stopped : Bool) (links : List (String × Link))
    (log : List Entry) :
    ∀ labelled ∈ (settleLinks setup stopped links log).1, labelled.2.step setup stopped = none := by
  induction links generalizing log with
  | nil => exact List.forall_mem_nil _
  | cons first links ih =>
      obtain ⟨label, link⟩ := first
      have waits := Service.settle_step setup stopped ⟨link, log⟩
      exact List.forall_mem_cons.mpr ⟨Option.map_eq_none_iff.mp waits, ih _⟩

end Device

namespace Hub

variable {setup : Setup} {hub : Hub} {label : String} {before after : Terminal}

theorem withTerminal_self (found : hub.terminal? label = some after) :
    hub.withTerminal label after = hub := by
  obtain ⟨link, connected, rfl⟩ := Option.map_eq_some_iff.mp found
  obtain ⟨⟨setup, stopped, log, links⟩, hosts⟩ := hub
  simp only [withTerminal, Device.replaceLink_self connected]
  congr
  funext other
  split
  · rename_i same
    rw [same]
  · rfl

theorem withTerminal_withTerminal (hub : Hub) (label : String) (before after : Terminal) :
    (hub.withTerminal label before).withTerminal label after = hub.withTerminal label after := by
  simp only [withTerminal, Device.replaceLink_replaceLink]
  congr
  funext other
  split
  · rfl
  · rfl

/-- Moves on one link are turns on all of them. -/
theorem reaches_terminal (live : Live setup hub) (found : hub.terminal? label = some before)
    (reaches : Reaches (Terminal.move setup) before after) :
    Reaches turn hub (hub.withTerminal label after) := by
  obtain ⟨moves, rfl⟩ := reaches
  induction moves generalizing hub before with
  | nil =>
      rw [List.foldl_nil, withTerminal_self found]
      exact .refl turn hub
  | cons made moves ih =>
      have turned : hub.turn (.move label made) =
          hub.withTerminal label (before.move setup made) := by
        simp only [turn, found, live.setup_eq]
      have first := reaches_turn turn hub (.move label made)
      have rest := ih (live.turn (.move label made)) (by
        rw [turned]
        exact terminal?_withTerminal found)
      rw [turned, withTerminal_withTerminal] at rest
      rw [turned] at first
      exact first.trans rest

theorem reaches_settleLinks (live : Live setup hub) {front back : List (String × Link)}
    (split : hub.device.links = front ++ back) (distinct : (hub.device.links.map (·.1)).Nodup) :
    let settled := Device.settleLinks setup false back hub.device.log
    Reaches turn hub { hub with
      device := { hub.device with links := front ++ settled.1, log := settled.2 } } := by
  induction back generalizing hub front with
  | nil =>
      simp only [Device.settleLinks, ← split]
      exact .refl turn hub
  | cons first back ih =>
      obtain ⟨label, link⟩ := first
      have absent : label ∉ front.map (·.1) := by
        rw [split, List.map_append, List.map_cons] at distinct
        intro member
        exact (List.nodup_append.mp distinct).2.2 _ member _ List.mem_cons_self rfl
      have found : hub.terminal? label = some ⟨hub.hosts label, link, hub.device.log⟩ := by
        rw [terminal?, split, Device.lookup_middle absent]
        rfl
      let settled := Service.settle setup false ⟨link, hub.device.log⟩
      let moved : Hub := { hub with device := { hub.device with
        links := front ++ (label, settled.link) :: back, log := settled.log } }
      have settles : Reaches turn hub moved := by
        have reached := reaches_terminal live found
          (Terminal.reaches_goOn setup (hub.hosts label) (fun _ => false) burst
            ⟨link, hub.device.log⟩)
        have same : hub.withTerminal label ⟨hub.hosts label, settled⟩ = moved := by
          simp only [withTerminal, split, Device.replaceLink_middle absent, moved, Hub.mk.injEq,
            true_and]
          funext other
          split
          · rename_i same
            rw [same]
          · rfl
        rwa [← same]
      have liveMoved : Live setup moved := ⟨live.setup_eq, live.going⟩
      have splitMoved : moved.device.links = (front ++ [(label, settled.link)]) ++ back := by
        rw [List.append_assoc]
        rfl
      have distinctMoved : (moved.device.links.map (·.1)).Nodup := by
        rw [split] at distinct
        simpa only [moved, List.map_append, List.map_cons] using distinct
      have rest := ih liveMoved splitMoved distinctMoved
      simp only [List.append_assoc, List.singleton_append] at rest
      exact settles.trans rest

theorem settle_eq (live : Live setup hub) :
    let settled := Device.settleLinks setup false hub.device.links hub.device.log
    hub.device.settle = { hub.device with links := settled.1, log := settled.2 } := by
  simp only [Device.settle, live.setup_eq, live.going]

theorem reaches_settle (live : Live setup hub) (distinct : (hub.device.links.map (·.1)).Nodup) :
    Reaches turn hub { hub with device := hub.device.settle } := by
  rw [settle_eq live]
  exact reaches_settleLinks live (List.nil_append _).symm distinct

/-- Whatever turns have led to it, a hub is made up of links that are each as if they were alone. -/
def Accounted (setup : Setup) (pieces : String → List Bytes) (hub : Hub) : Prop :=
  ∃ alone, Separate setup hub alone ∧ ∀ label, Stands setup pieces label (alone label)

variable {pieces : String → List Bytes}

theorem accounted_start (setup : Setup) (pieces : String → List Bytes) :
    Accounted setup pieces (start setup pieces) :=
  ⟨_, separate_start setup pieces, fun _ => .inl rfl⟩

theorem Accounted.turn (accounted : Accounted setup pieces hub) (made : Turn) :
    Accounted setup pieces (hub.turn made) := by
  obtain ⟨alone, separate, stands⟩ := accounted
  refine ⟨_, separate.turn made, ?_⟩
  intro label
  exact (stands label).turnOf (separate.live_alone label) made

/-- Once every host has written all and read all there is, all is answered and logged. -/
theorem Accounted.finished (accounted : Accounted setup pieces hub)
    (written : ∀ label, (hub.hosts label).unsent = [])
    (waits : ∀ labelled ∈ hub.device.links, labelled.2.step setup false = none) :
    (∀ label link, hub.device.links.lookup label = some link → link.toHost = [] →
        (hub.hosts label).received = setup.output (pieces label).flatten) ∧
      ((∀ labelled ∈ hub.device.links, labelled.2.toHost = []) →
        IsMerge (fun label => setup.recording (pieces label).flatten) hub.device.recording) := by
  obtain ⟨alone, separate, stands⟩ := accounted
  have finished (label : String) (link : Link)
      (connected : hub.device.links.lookup label = some link) (heard : link.toHost = []) :
      (alone label).device.recording = setup.recording (pieces label).flatten ∧
        (hub.hosts label).received = setup.output (pieces label).flatten := by
    obtain ⟨front, back, split, _⟩ := List.lookup_eq_some_iff.mp connected
    obtain ⟨input, handled, lawful⟩ := (stands label).lawful (separate.alike label) connected
    obtain ⟨idle, _⟩ := lawful.idle heard (waits (label, link) (by simp [split]))
    obtain ⟨logged, received⟩ := lawful.of_idle idle
    have all := lawful.input_eq
    simp only [written label, List.flatten_nil, List.append_nil] at all
    simp only [heard, List.append_nil] at received
    rw [← all]
    exact ⟨logged, received⟩
  refine ⟨fun label link connected heard => (finished label link connected heard).2, ?_⟩
  intro heard
  have parts : (fun label => (alone label).device.recording) =
      fun label => setup.recording (pieces label).flatten := by
    funext label
    obtain ⟨host, linked⟩ := separate.alike label
    cases connected : hub.device.links.lookup label with
    | some link =>
        obtain ⟨front, back, split, _⟩ := List.lookup_eq_some_iff.mp connected
        exact (finished label link connected (heard (label, link) (by simp [split]))).1
    | none =>
        rcases stands label with same | ⟨terminal, _, found, _⟩
        · -- A link that was never opened has nothing to be written on it.
          have nothing : pieces label = [] := by
            rw [same] at host
            exact (congrArg Host.unsent host).trans (written label)
          rw [same, nothing, List.flatten_nil, Setup.recording, ← Reassembler.feedAll_frames]
          rfl
        · rw [terminal?, linked, connected] at found
          contradiction
  rw [← parts]
  exact separate.merges

end Hub

namespace Bench

open Hub (Live)

variable {setup : Setup} {bench : Bench} {hub : Hub} {label : String}

/-- Hosts without clients, which keep their links. -/
inductive Call.Streams : Call → Prop where
  | connect (label : String) : Streams (.connect label none)
  | write (label : String) (bytes : Bytes) : Streams (.write label bytes)
  | read (label : String) (wanted : Option Nat) : Streams (.read label wanted)

def Call.opens? : Call → Option String
  | .connect label _ => some label
  | _ => none

/-- What a host writes on a link, and what it gets to read there. -/
def Call.writes? (label : String) : Call → Option Bytes
  | .write own bytes => if own = label then some bytes else none
  | _ => none

def reads? (label : String) : Call × Reply → Option Bytes
  | (.read own _, .read bytes _) => if own = label then some bytes else none
  | _ => none

/-- A write did not have to be given up. -/
def Wrote : Call × Reply → Prop
  | (.write _ _, .wrote outcome) => outcome.isSome = true
  | (.write _ _, _) => False
  | _ => True

/-- A hub that has come as far as a bench. -/
structure Follows (setup : Setup) (bench : Bench) (hub : Hub) : Prop where
  device_eq : hub.device = bench.device
  live : Live setup hub
  distinct : (hub.device.links.map (·.1)).Nodup
  waits : ∀ labelled ∈ hub.device.links, labelled.2.step setup false = none

theorem Follows.serve {α : Type} {work : Service → α × Service} {result : α} {device : Device}
    {host : Host} (follows : Follows setup bench hub)
    (served : bench.device.serve label work = some (result, device))
    (works : ∀ service, (work service).1 = result →
      Reaches (Terminal.move setup) ⟨hub.hosts label, service⟩ ⟨host, (work service).2⟩) :
    ∃ after, Reaches Hub.turn hub after ∧ Follows setup { bench with device } after ∧
      after.device.links.map (·.1) = hub.device.links.map (·.1) ∧
      ∀ other, after.hosts other = if other = label then host else hub.hosts other := by
  obtain ⟨device_eq, live, distinct, _⟩ := follows
  rw [← device_eq] at served
  obtain ⟨link, connected, same⟩ := Option.map_eq_some_iff.mp served
  have found : hub.terminal? label = some ⟨hub.hosts label, link, hub.device.log⟩ := by
    rw [Hub.terminal?, connected]
    rfl
  obtain ⟨answered, settled⟩ := Prod.mk.inj same
  have works := Hub.reaches_terminal live found (works ⟨link, hub.device.log⟩ answered)
  let moved := hub.withTerminal label ⟨host, (work ⟨link, hub.device.log⟩).2⟩
  have liveMoved : Live setup moved := ⟨live.setup_eq, live.going⟩
  have labels : moved.device.links.map (·.1) = hub.device.links.map (·.1) :=
    Device.replaceLink_labels label _ hub.device.links
  have settles := Hub.reaches_settle liveMoved (by rwa [labels])
  have settledLabels : moved.device.settle.links.map (·.1) = hub.device.links.map (·.1) := by
    rw [Hub.settle_eq liveMoved, Device.settleLinks_labels, labels]
  refine ⟨_, works.trans settles, ⟨settled, ⟨live.setup_eq, live.going⟩, ?_, ?_⟩, settledLabels,
    fun other => rfl⟩
  · rw [settledLabels]
    exact distinct
  · rw [Hub.settle_eq liveMoved]
    exact Device.settleLinks_waits setup false moved.device.links moved.device.log

theorem Follows.connect (follows : Follows setup bench hub)
    (absent : label ∉ hub.device.links.map (·.1)) :
    Follows setup (bench.perform (.connect label none)).2 (hub.turn (.connect label)) ∧
      (hub.turn (.connect label)).device.links.map (·.1) =
        hub.device.links.map (·.1) ++ [label] ∧
      (hub.turn (.connect label)).hosts = hub.hosts := by
  obtain ⟨device_eq, live, distinct, waits⟩ := follows
  have missing := Device.lookup_of_absent absent
  have opened := Hub.connect_eq live missing
  have labels : (hub.device.links ++ [(label, Link.fresh setup.capacity.val)]).map (·.1) =
      hub.device.links.map (·.1) ++ [label] := List.map_append
  rw [Hub.turn, opened]
  refine ⟨⟨?_, ⟨live.setup_eq, live.going⟩, ?_, ?_⟩, labels, rfl⟩
  · simp [perform, Device.connect, Device.close, ← device_eq, live.going, missing, live.setup_eq]
  · rw [labels]
    apply List.nodup_append.mpr
    refine ⟨distinct, by simp, ?_⟩
    rintro other member _ last rfl
    rw [List.mem_singleton] at last
    exact absent (last ▸ member)
  · intro labelled member
    rcases List.mem_append.mp member with old | new
    · exact waits labelled old
    · rw [List.mem_singleton.mp new]
      rfl

theorem Follows.setup_eq (follows : Follows setup bench hub) :
    bench.device.setup = setup ∧ bench.device.stopped = false := by
  rw [← follows.device_eq]
  exact ⟨follows.live.setup_eq, follows.live.going⟩

/-- What one call is to a hub whose hosts have all of their writes before them. -/
theorem Follows.call (follows : Follows setup bench hub) {call : Call} (streams : call.Streams)
    (fresh : ∀ label ∈ call.opens?, label ∉ hub.device.links.map (·.1))
    {later : String → List Bytes}
    (unsent : ∀ label, (hub.hosts label).unsent = (call.writes? label).toList ++ later label)
    (wrote : Wrote (call, (bench.perform call).1)) :
    ∃ after, Reaches Hub.turn hub after ∧ Follows setup (bench.perform call).2 after ∧
      after.device.links.map (·.1) = hub.device.links.map (·.1) ++ call.opens?.toList ∧
      ∀ label, after.hosts label = ⟨later label, (hub.hosts label).received ++
        (reads? label (call, (bench.perform call).1)).getD []⟩ := by
  obtain ⟨configured, going⟩ := follows.setup_eq
  cases streams with
  | connect label =>
      obtain ⟨followsAfter, labels, hosts⟩ := follows.connect (fresh label rfl)
      refine ⟨_, reaches_turn Hub.turn hub (.connect label), followsAfter, labels, ?_⟩
      intro other
      have unsent : (hub.hosts other).unsent = later other := unsent other
      rw [hosts, ← unsent]
      simp [reads?]
  | write label bytes =>
      simp only [perform] at wrote ⊢
      cases served : bench.device.write label bytes with
      | none =>
          rw [served] at wrote
          contradiction
      | some replied =>
          obtain ⟨outcome, device⟩ := replied
          rw [served] at wrote
          have done : outcome.isSome = true := wrote
          have own : (hub.hosts label).unsent = bytes :: later label := by
            simpa [Call.writes?] using unsent label
          have writes (service : Service)
              (answered : (Service.write setup false bytes service).1 = outcome) :
              Reaches (Terminal.move setup) ⟨hub.hosts label, service⟩
                ⟨⟨later label, (hub.hosts label).received⟩,
                  (Service.write setup false bytes service).2⟩ := by
            rw [show hub.hosts label = ⟨bytes :: later label, (hub.hosts label).received⟩ from
              own ▸ rfl]
            apply Terminal.reaches_write
            rwa [answered]
          rw [Device.write, configured, going] at served
          obtain ⟨after, reached, followsAfter, labels, hosts⟩ := follows.serve served writes
          refine ⟨after, reached, followsAfter, labels.trans (List.append_nil _).symm, ?_⟩
          intro other
          change after.hosts other = ⟨later other, (hub.hosts other).received ++ []⟩
          rw [hosts other, List.append_nil]
          split
          · rename_i same
            rw [same]
          · rename_i different
            have untouched : (hub.hosts other).unsent = later other := by
              simpa [Call.writes?, Ne.symm different] using unsent other
            rw [← untouched]
  | read label wanted =>
      have untouched (other : String) : (hub.hosts other).unsent = later other := unsent other
      simp only [perform]
      cases served : bench.device.read label wanted with
      | none =>
          refine ⟨hub, .refl _ _, follows, (List.append_nil _).symm, ?_⟩
          intro other
          change hub.hosts other = ⟨later other, (hub.hosts other).received ++ []⟩
          rw [← untouched other, List.append_nil]
      | some replied =>
          obtain ⟨⟨bytes, ended⟩, device⟩ := replied
          have reads (service : Service) (answered : ((Service.read setup false wanted service).1,
                (Service.read setup false wanted service).2.1) = (bytes, ended)) :
              Reaches (Terminal.move setup) ⟨hub.hosts label, service⟩
                ⟨⟨later label, (hub.hosts label).received ++ bytes⟩,
                  (Service.read setup false wanted service).2.2⟩ := by
            obtain ⟨same, _⟩ := Prod.mk.inj answered
            rw [← untouched label, ← same]
            exact Terminal.reaches_read setup wanted _ _ service
          rw [Device.read, configured, going] at served
          obtain ⟨after, reached, followsAfter, labels, hosts⟩ := follows.serve served reads
          refine ⟨after, reached, followsAfter, labels.trans (List.append_nil _).symm, ?_⟩
          intro other
          rw [hosts other, reads?, ← untouched other]
          split
          · rename_i same
            rw [same, if_pos rfl, Option.getD_some, untouched]
          · rename_i different
            rw [if_neg (Ne.symm different), Option.getD_none, List.append_nil]

theorem Follows.history {calls : List Call} (follows : Follows setup bench hub)
    (streams : ∀ call ∈ calls, call.Streams) (once : (calls.filterMap Call.opens?).Nodup)
    (fresh : ∀ label ∈ calls.filterMap Call.opens?, label ∉ hub.device.links.map (·.1))
    (unsent : ∀ label, (hub.hosts label).unsent = calls.filterMap (Call.writes? label))
    (wrote : ∀ entry ∈ (history perform bench calls).1, Wrote entry) :
    ∃ after, Reaches Hub.turn hub after ∧ Follows setup (history perform bench calls).2 after ∧
      ∀ label, after.hosts label = ⟨[], (hub.hosts label).received ++
        ((history perform bench calls).1.filterMap (reads? label)).flatten⟩ := by
  -- The hosts of the hub have before them what the calls are still to write.
  induction calls generalizing bench hub with
  | nil =>
      refine ⟨hub, .refl _ _, follows, ?_⟩
      intro label
      have nothing : (hub.hosts label).unsent = [] := unsent label
      change hub.hosts label = ⟨[], (hub.hosts label).received ++ []⟩
      rw [List.append_nil, ← nothing]
  | cons call calls ih =>
      obtain ⟨streamsFirst, streamsRest⟩ := List.forall_mem_cons.mp streams
      obtain ⟨wroteFirst, wroteRest⟩ := List.forall_mem_cons.mp wrote
      simp only [filterMap_first] at once fresh unsent
      obtain ⟨_, onceRest, apart⟩ := List.nodup_append.mp once
      obtain ⟨middle, reached, followsMiddle, labels, hosts⟩ := follows.call streamsFirst
        (fun label opened => fresh label (List.mem_append_left _ (Option.mem_toList.mpr opened)))
        unsent wroteFirst
      have freshRest : ∀ label ∈ calls.filterMap Call.opens?,
          label ∉ middle.device.links.map (·.1) := by
        intro label member linked
        rw [labels] at linked
        rcases List.mem_append.mp linked with old | new
        · exact fresh label (List.mem_append_right _ member) old
        · exact apart label new label member rfl
      have unsentRest (label : String) : (middle.hosts label).unsent =
          calls.filterMap (Call.writes? label) := by rw [hosts label]
      obtain ⟨after, reachedAfter, followsAfter, hostsAfter⟩ :=
        ih followsMiddle streamsRest onceRest freshRest unsentRest wroteRest
      refine ⟨after, reached.trans reachedAfter, followsAfter, ?_⟩
      intro label
      rw [hostsAfter label, hosts label]
      simp only [SerialLink.history, filterMap_first, List.flatten_append, List.append_assoc]
      cases reads? label (call, (bench.perform call).1) <;> simp

/-- On a bench of hosts that open their links once, write what they like and do not have to give up
a write: a host that has read all there is has read the answers to all that it has written, and once
all hosts have, the recording is made up of what each link alone would have left. -/
theorem streams_answered (setup : Setup) (calls : List Call)
    (streams : ∀ call ∈ calls, call.Streams) (once : (calls.filterMap Call.opens?).Nodup)
    (wrote : ∀ entry ∈ (history perform (start setup) calls).1, Wrote entry) :
    let run := history perform (start setup) calls
    let written label := (calls.filterMap (Call.writes? label)).flatten
    let read label := (run.1.filterMap (reads? label)).flatten
    let links := run.2.device.links
    (∀ label link, links.lookup label = some link → link.toHost = [] →
        read label = setup.output (written label)) ∧
      ((∀ labelled ∈ links, labelled.2.toHost = []) →
        IsMerge (fun label => setup.recording (written label)) run.2.device.recording) := by
  intro run written read links
  let pieces (label : String) := calls.filterMap (Call.writes? label)
  have begins : Follows setup (start setup) (Hub.start setup pieces) :=
    ⟨rfl, ⟨rfl, rfl⟩, List.nodup_nil, List.forall_mem_nil _⟩
  obtain ⟨hub, reached, ⟨device_eq, _, _, waits⟩, hosts⟩ :=
    begins.history streams once (fun _ _ => List.not_mem_nil) (fun _ => rfl) wrote
  have accounted : Hub.Accounted setup pieces hub :=
    reached.keeps (fun _ made accounted => accounted.turn made) (Hub.accounted_start setup pieces)
  have received (label : String) : (hub.hosts label).received = read label := by
    rw [hosts label]
    exact List.nil_append _
  obtain ⟨answered, recorded⟩ := accounted.finished (fun label => by rw [hosts label]) waits
  rw [device_eq] at answered recorded
  simp only [received] at answered
  exact ⟨answered, recorded⟩

end Bench

end SerialLink
