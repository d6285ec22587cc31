import SerialLink.Device
import SerialLink.Proofs.Device.Terminal

namespace SerialLink

/-! One device on any number of links.

Links are opened at any time, and the tasks of the device and the hosts have their turns in any
order.  A turn on one link finds what the last turn on that link has left there; all that it shares
with the turns on other links is the log, and that it only adds to.
-/

/-- All the parts in one list: each in its order, with nothing left out and nothing twice. -/
def IsMerge [DecidableEq ι] (parts : ι → List α) (whole : List α) : Prop :=
  ∃ tagged : List (ι × α), tagged.map (·.2) = whole ∧
    ∀ tag, (tagged.filter (·.1 = tag)).map (·.2) = parts tag

theorem isMerge_nil [DecidableEq ι] {parts : ι → List α} (nothing : ∀ tag, parts tag = []) :
    IsMerge parts [] :=
  ⟨[], rfl, fun tag => (nothing tag).symm⟩

theorem IsMerge.append [DecidableEq ι] {parts grown : ι → List α} {whole more : List α} {tag : ι}
    (merges : IsMerge parts whole) (own : grown tag = parts tag ++ more)
    (others : ∀ other, other ≠ tag → grown other = parts other) :
    IsMerge grown (whole ++ more) := by
  obtain ⟨tagged, rfl, each⟩ := merges
  refine ⟨tagged ++ more.map (tag, ·), ?_, ?_⟩
  · rw [List.map_append, List.map_map]
    exact congrArg (tagged.map (·.2) ++ ·) (List.map_id more)
  · intro other
    rw [List.filter_append, List.map_append, each other]
    by_cases same : other = tag
    · subst same
      rw [own]
      simp [List.filter_map, Function.comp_def]
    · rw [others other same]
      have absent : (more.map (tag, ·)).filter (·.1 = other) = [] := by
        simp [List.filter_map, Function.comp_def, Ne.symm same]
      rw [absent, List.map_nil, List.append_nil]

namespace Device

variable {label other : String} {links : List (String × Link)} {link earlier : Link}

theorem lookup_cons_other (different : other ≠ label) :
    ((label, link) :: links).lookup other = links.lookup other := by
  rw [List.lookup_cons, beq_eq_false_iff_ne.mpr different]

theorem lookup_replaceLink_self (found : links.lookup label = some earlier) :
    (replaceLink label link links).lookup label = some link := by
  induction links with
  | nil => contradiction
  | cons first links ih =>
      obtain ⟨known, old⟩ := first
      by_cases same : known = label
      · rw [replaceLink, if_pos same]
        exact List.lookup_cons_self
      · rw [lookup_cons_other (Ne.symm same)] at found
        rw [replaceLink, if_neg same, lookup_cons_other (Ne.symm same)]
        exact ih found

theorem lookup_replaceLink_other (different : other ≠ label) :
    (replaceLink label link links).lookup other = links.lookup other := by
  induction links with
  | nil => rfl
  | cons first links ih =>
      obtain ⟨known, old⟩ := first
      by_cases same : known = label
      · subst same
        rw [replaceLink, if_pos rfl, lookup_cons_other different, lookup_cons_other different]
      · rw [replaceLink, if_neg same, List.lookup_cons, List.lookup_cons, ih]

theorem lookup_concat_other (different : other ≠ label) :
    (links ++ [(label, link)]).lookup other = links.lookup other := by
  rw [List.lookup_append, lookup_cons_other different, List.lookup_nil, Option.or_none]

theorem lookup_concat_self (absent : links.lookup label = none) :
    (links ++ [(label, link)]).lookup label = some link := by
  rw [List.lookup_append, absent, List.lookup_cons_self, Option.none_or]

end Device

/-- What a move leaves in the log does not depend on what is in the log. -/
theorem Terminal.move_log (setup : Setup) (host : Host) (link : Link) (log : List Entry)
    (made : Move) :
    let fresh := move setup ⟨host, link, []⟩ made
    move setup ⟨host, link, log⟩ made =
      ⟨fresh.host, fresh.service.link, fresh.service.log ++ log⟩ := by
  cases made with
  | write limit =>
      obtain ⟨unsent, received⟩ := host
      cases unsent <;> rfl
  | read limit => rfl
  | device =>
      simp only [move, serve, Service.step]
      cases link.step setup false with
      | none => rfl
      | some done => simp
  | elsewhere => rfl

/-- A device, and the hosts on all its links. -/
structure Hub where
  device : Device
  hosts : String → Host

namespace Hub

inductive Turn where
  /-- Opens a link, once for each label. -/
  | connect (label : String)
  | move (label : String) (made : Terminal.Move)

def Turn.label : Turn → String
  | .connect label => label
  | .move label _ => label

/-- What the turn is to the host and the device on one link. -/
def Turn.moveOn (label : String) : Turn → Terminal.Move
  | .connect _ => .elsewhere
  | .move own made => if own = label then made else .elsewhere

/-- A device without links, and what each host will write on its own. -/
def start (setup : Setup) (pieces : String → List Bytes) : Hub :=
  ⟨.start setup, fun label => ⟨pieces label, []⟩⟩

def connect (hub : Hub) (label : String) : Hub :=
  match hub.device.links.lookup label, hub.device.connect label with
  | none, .ok device => { hub with device }
  | _, _ => hub

def terminal? (hub : Hub) (label : String) : Option Terminal :=
  (hub.device.links.lookup label).map fun link => ⟨hub.hosts label, link, hub.device.log⟩

/-- Takes over what has happened on one link. -/
def withTerminal (hub : Hub) (label : String) (terminal : Terminal) : Hub where
  device := { hub.device with
    links := Device.replaceLink label terminal.service.link hub.device.links
    log := terminal.service.log }
  hosts other := if other = label then terminal.host else hub.hosts other

def turn (hub : Hub) : Turn → Hub
  | .connect label => hub.connect label
  | .move label made =>
      match hub.terminal? label with
      | none => hub
      | some terminal => hub.withTerminal label (terminal.move hub.device.setup made)

/-- The turns of one link alone: those of all others are left out. -/
def turnOf (label : String) (hub : Hub) (turn : Turn) : Hub :=
  if turn.label = label then hub.turn turn else hub

/-- All that a link is, apart from the log. -/
structure Alike (label : String) (hub alone : Hub) : Prop where
  host_eq : alone.hosts label = hub.hosts label
  link_eq : alone.device.links.lookup label = hub.device.links.lookup label

structure Live (setup : Setup) (hub : Hub) : Prop where
  setup_eq : hub.device.setup = setup
  going : hub.device.stopped = false

variable {setup : Setup} {hub alone : Hub} {label other : String}

theorem connect_eq (live : Live setup hub) (absent : hub.device.links.lookup label = none) :
    hub.connect label = { hub with device := { hub.device with
      links := hub.device.links ++ [(label, .fresh setup.capacity.val)] } } := by
  simp [connect, Device.connect, Device.close, absent, live.going, live.setup_eq]

theorem connect_of_connected {link : Link} (found : hub.device.links.lookup label = some link) :
    hub.connect label = hub := by
  simp only [connect, found]

theorem Live.turn (live : Live setup hub) (made : Turn) : Live setup (hub.turn made) := by
  cases made with
  | connect label =>
      simp only [Hub.turn]
      cases found : hub.device.links.lookup label with
      | none =>
          rw [connect_eq live found]
          exact ⟨live.setup_eq, live.going⟩
      | some link =>
          rw [connect_of_connected found]
          exact live
  | move label made =>
      simp only [Hub.turn]
      split
      · exact live
      · exact ⟨live.setup_eq, live.going⟩

theorem turn_others (live : Live setup hub) {made : Turn} (different : other ≠ made.label) :
    Alike other (hub.turn made) hub := by
  cases made with
  | connect label =>
      simp only [Hub.turn]
      cases found : hub.device.links.lookup label with
      | none =>
          rw [connect_eq live found]
          exact ⟨rfl, (Device.lookup_concat_other different).symm⟩
      | some link =>
          rw [connect_of_connected found]
          exact ⟨rfl, rfl⟩
  | move label made =>
      simp only [Hub.turn]
      split
      · exact ⟨rfl, rfl⟩
      · refine ⟨?_, ?_⟩
        · simp only [withTerminal, if_neg (show other ≠ label from different)]
        · exact (Device.lookup_replaceLink_other different).symm

/-- Two links that are alike stay alike, and both log the same. -/
theorem turn_own (live : Live setup hub) (liveAlone : Live setup alone)
    (alike : Alike label hub alone) {made : Turn} (own : made.label = label) :
    Alike label (hub.turn made) (alone.turn made) ∧
      ∃ entries, (hub.turn made).device.log = entries ++ hub.device.log ∧
        (alone.turn made).device.log = entries ++ alone.device.log := by
  have ⟨host, linked⟩ := alike
  cases made with
  | connect label =>
      obtain rfl := own
      simp only [Turn.label] at linked
      simp only [Hub.turn, Turn.label] at alike ⊢
      cases found : hub.device.links.lookup label with
      | none =>
          rw [found] at linked
          rw [connect_eq live found, connect_eq liveAlone linked]
          refine ⟨⟨host, ?_⟩, [], rfl, rfl⟩
          rw [Device.lookup_concat_self linked, Device.lookup_concat_self found]
      | some link =>
          rw [found] at linked
          rw [connect_of_connected found, connect_of_connected linked]
          exact ⟨alike, [], rfl, rfl⟩
  | move label made =>
      obtain rfl := own
      simp only [Turn.label] at linked host alike ⊢
      cases found : hub.device.links.lookup label with
      | none =>
          rw [found] at linked
          simp only [Hub.turn, terminal?, found, linked, Option.map_none]
          exact ⟨alike, [], rfl, rfl⟩
      | some link =>
          rw [found] at linked
          -- The logs are all that the two differ in here, and a move does not look at them.
          simp only [Hub.turn, terminal?, found, linked, Option.map_some, host, live.setup_eq,
            liveAlone.setup_eq, Terminal.move_log setup _ link hub.device.log,
            Terminal.move_log setup _ link alone.device.log]
          refine ⟨⟨?_, ?_⟩, _, rfl, rfl⟩
          · simp only [withTerminal, if_true]
          · simp only [withTerminal, Device.lookup_replaceLink_self found,
              Device.lookup_replaceLink_self linked]

/-- A hub, and for each link the hub that has no other. -/
structure Separate (setup : Setup) (hub : Hub) (alone : String → Hub) : Prop where
  live : Live setup hub
  live_alone (label : String) : Live setup (alone label)
  alike (label : String) : Alike label hub (alone label)
  merges : IsMerge (fun label => (alone label).device.recording) hub.device.recording

theorem separate_start (setup : Setup) (pieces : String → List Bytes) :
    Separate setup (start setup pieces) fun _ => start setup pieces :=
  ⟨⟨rfl, rfl⟩, fun _ => ⟨rfl, rfl⟩, fun _ => ⟨rfl, rfl⟩, isMerge_nil fun _ => rfl⟩

theorem turnOf_own {made : Turn} (own : made.label = label) :
    hub.turnOf label made = hub.turn made := if_pos own

theorem turnOf_other {made : Turn} (foreign : made.label ≠ label) : hub.turnOf label made = hub :=
  if_neg foreign

theorem Live.turnOf (live : Live setup hub) (made : Turn) : Live setup (hub.turnOf label made) := by
  by_cases own : made.label = label
  · rw [turnOf_own own]
    exact live.turn made
  · rw [turnOf_other own]
    exact live

theorem Separate.turn {alone : String → Hub} (separate : Separate setup hub alone) (made : Turn) :
    Separate setup (hub.turn made) fun label => (alone label).turnOf label made := by
  have ⟨live, liveAlone, alike, merges⟩ := separate
  obtain ⟨same, entries, logged, loggedAlone⟩ :=
    turn_own live (liveAlone made.label) (alike made.label) rfl
  refine ⟨live.turn made, fun label => (liveAlone label).turnOf made, ?_, ?_⟩
  · intro label
    by_cases own : made.label = label
    · obtain rfl := own
      rw [turnOf_own rfl]
      exact same
    · obtain ⟨host, linked⟩ := turn_others live (Ne.symm own)
      rw [turnOf_other own]
      exact ⟨(alike label).host_eq.trans host, (alike label).link_eq.trans linked⟩
  · rw [Device.recording, logged, List.reverse_append]
    apply merges.append
    · rw [turnOf_own rfl, Device.recording, loggedAlone, List.reverse_append]
      rfl
    · intro other different
      rw [turnOf_other (Ne.symm different)]

theorem separate_afterTurns (setup : Setup) (pieces : String → List Bytes) (schedule : Nat → Turn)
    (now : Nat) :
    Separate setup (afterTurns turn schedule (start setup pieces) now) fun label =>
      afterTurns (turnOf label) schedule (start setup pieces) now := by
  induction now with
  | zero => exact separate_start setup pieces
  | succ now ih => exact ih.turn (schedule now)

/-! A link alone is a terminal. -/

theorem terminal?_withTerminal {before after : Terminal}
    (found : hub.terminal? label = some before) :
    (hub.withTerminal label after).terminal? label = some after := by
  obtain ⟨link, found, _⟩ := Option.map_eq_some_iff.mp found
  simp only [terminal?, withTerminal, Device.lookup_replaceLink_self found, Option.map_some,
    if_true]

theorem terminal?_turnOf {terminal : Terminal} (live : Live setup hub)
    (found : hub.terminal? label = some terminal) (made : Turn) :
    (hub.turnOf label made).terminal? label = some (terminal.move setup (made.moveOn label)) := by
  by_cases own : made.label = label
  · rw [turnOf_own own]
    cases made with
    | connect label =>
        obtain rfl := own
        simp only [Turn.label] at found ⊢
        obtain ⟨link, connected, _⟩ := Option.map_eq_some_iff.mp found
        rw [Hub.turn, connect_of_connected connected]
        exact found
    | move label made =>
        obtain rfl := own
        simp only [Turn.label] at found ⊢
        simp only [Hub.turn, found, Turn.moveOn, if_true, live.setup_eq]
        exact terminal?_withTerminal found
  · rw [turnOf_other own, found]
    cases made with
    | connect label => rfl
    | move label made => rw [Turn.moveOn, if_neg (show label ≠ _ from own)]; rfl

theorem terminal?_connect (setup : Setup) (pieces : String → List Bytes) (label : String) :
    ((start setup pieces).turnOf label (.connect label)).terminal? label =
      some (.start setup (pieces label)) := by
  have live : Live setup (start setup pieces) := ⟨rfl, rfl⟩
  have own : (Turn.connect label).label = label := rfl
  rw [turnOf_own own, Hub.turn, connect_eq live rfl, terminal?]
  simp only [Device.lookup_concat_self (show (start setup pieces).device.links.lookup label = none
    from rfl), Option.map_some]
  rfl

/-- What a hub with one link can be: it waits for the link, or the link is under way. -/
def Stands (setup : Setup) (pieces : String → List Bytes) (label : String) (alone : Hub) : Prop :=
  alone = start setup pieces ∨ ∃ terminal effort, alone.terminal? label = some terminal ∧
    Terminal.Due setup (pieces label).flatten effort terminal

variable {pieces : String → List Bytes} {schedule : Nat → Turn}

theorem Stands.turnOf (stands : Stands setup pieces label alone) (live : Live setup alone)
    (made : Turn) : Stands setup pieces label (alone.turnOf label made) := by
  rcases stands with rfl | ⟨terminal, effort, found, due⟩
  · by_cases own : made.label = label
    · cases made with
      | connect label =>
          obtain rfl := own
          obtain ⟨effort, due⟩ := Terminal.due_start setup (pieces label)
          exact .inr ⟨_, effort, terminal?_connect setup pieces label, due⟩
      | move label made =>
          rw [turnOf_own own]
          exact .inl rfl
    · rw [turnOf_other own]
      exact .inl rfl
  · obtain ⟨left, due⟩ := (Terminal.due_spends setup _).keeps_turn due (made.moveOn label)
    exact .inr ⟨_, left, terminal?_turnOf live found made, due⟩

theorem Stands.lawful {link : Link} (stands : Stands setup pieces label alone)
    (alike : Alike label hub alone) (connected : hub.device.links.lookup label = some link) :
    ∃ written handled, Terminal.Lawful setup (pieces label).flatten written handled
      ⟨hub.hosts label, link, alone.device.log⟩ := by
  obtain ⟨host, linked⟩ := alike
  rw [connected] at linked
  rcases stands with rfl | ⟨terminal, _, found, due⟩
  · contradiction
  · obtain ⟨known, looked, rfl⟩ := Option.map_eq_some_iff.mp found
    obtain rfl : link = known := Option.some.inj (linked.symm.trans looked)
    obtain ⟨written, handled, lawful, _⟩ := due
    rw [← host]
    exact ⟨written, handled, lawful⟩

theorem stands_afterTurns (setup : Setup) (pieces : String → List Bytes) (label : String)
    (schedule : Nat → Turn) (now : Nat) :
    Stands setup pieces label (afterTurns (turnOf label) schedule (start setup pieces) now) := by
  induction now with
  | zero => exact .inl rfl
  | succ now ih =>
      have live := (separate_afterTurns setup pieces schedule now).live_alone label
      exact ih.turnOf live (schedule now)

/-- The link is opened at some time, and then neither its host nor the device forgets it. -/
structure FairTo (label : String) (schedule : Nat → Turn) : Prop where
  connects : ∃ now, schedule now = .connect label
  moves : Terminal.Fair fun now => (schedule now).moveOn label

theorem terminal?_afterTurns {terminal : Terminal} {since : Nat}
    (found : (afterTurns (turnOf label) schedule (start setup pieces) since).terminal? label =
      some terminal) (count : Nat) :
    (afterTurns (turnOf label) schedule (start setup pieces) (since + count)).terminal? label =
      some (afterTurns (Terminal.move setup) (fun now => (schedule (since + now)).moveOn label)
        terminal count) := by
  induction count with
  | zero => exact found
  | succ count ih =>
      have live := (separate_afterTurns setup pieces schedule (since + count)).live_alone label
      exact terminal?_turnOf live ih (schedule (since + count))

theorem finishes (fair : FairTo label schedule) :
    ∃ finish, ∀ now, finish ≤ now → ∃ terminal,
      (afterTurns (turnOf label) schedule (start setup pieces) now).terminal? label =
        some terminal ∧ terminal.Finished setup (pieces label).flatten := by
  obtain ⟨opened, connecting⟩ := fair.connects
  have linked : ∃ terminal effort,
      (afterTurns (turnOf label) schedule (start setup pieces) (opened + 1)).terminal? label =
        some terminal ∧ Terminal.Due setup (pieces label).flatten effort terminal := by
    rw [afterTurns, connecting]
    rcases stands_afterTurns setup pieces label schedule opened with same | ⟨_, _, found, due⟩
    · obtain ⟨effort, due⟩ := Terminal.due_start setup (pieces label)
      rw [same]
      exact ⟨_, effort, terminal?_connect setup pieces label, due⟩
    · have live := (separate_afterTurns setup pieces schedule opened).live_alone label
      exact ⟨_, _, terminal?_turnOf live found _, due⟩
  obtain ⟨terminal, effort, found, due⟩ := linked
  obtain ⟨finish, finished⟩ := Terminal.finishes due (fair.moves.later (opened + 1))
  refine ⟨opened + 1 + finish, ?_⟩
  intro now behind
  obtain ⟨more, rfl⟩ := Nat.exists_eq_add_of_le behind
  refine ⟨_, ?_, finished (finish + more) (Nat.le_add_right _ _)⟩
  rw [Nat.add_assoc]
  exact terminal?_afterTurns found (finish + more)

/-- Whatever else goes on, every link is at each time what it would be if its turns were the only
ones, and the recording is made up of what each of them would have left alone.  What a link comes to
in the end, and all that it has come to when the device waits there, is known from its bytes. -/
theorem links_apart (setup : Setup) (pieces : String → List Bytes) (schedule : Nat → Turn) :
    let hub := afterTurns turn schedule (start setup pieces)
    let alone (label : String) := afterTurns (turnOf label) schedule (start setup pieces)
    (∀ now,
      (∀ label, (hub now).hosts label = (alone label now).hosts label ∧
        (hub now).device.links.lookup label = (alone label now).device.links.lookup label) ∧
      IsMerge (fun label => (alone label now).device.recording) (hub now).device.recording) ∧
    ∀ label,
      (∀ now link, (hub now).device.links.lookup label = some link → link.Idle setup →
        ∃ written, written ++ ((hub now).hosts label).unsent.flatten = (pieces label).flatten ∧
          (alone label now).device.recording = setup.recording written ∧
          ((hub now).hosts label).received ++ link.toHost = setup.output written) ∧
      (FairTo label schedule → ∃ finish, ∀ now, finish ≤ now →
        (∃ link, (hub now).device.links.lookup label = some link ∧ link.Idle setup) ∧
          ((hub now).hosts label).unsent = [] ∧
          (alone label now).device.recording = setup.recording (pieces label).flatten ∧
          ((hub now).hosts label).received = setup.output (pieces label).flatten) := by
  intro hub alone
  have separate (now : Nat) : Separate setup (hub now) fun label => alone label now :=
    separate_afterTurns setup pieces schedule now
  refine ⟨?_, ?_⟩
  · intro now
    refine ⟨?_, (separate now).merges⟩
    intro label
    have ⟨host, link⟩ := (separate now).alike label
    exact ⟨host.symm, link.symm⟩
  · intro label
    refine ⟨?_, ?_⟩
    · intro now link connected idle
      have stands : Stands setup pieces label (alone label now) :=
        stands_afterTurns setup pieces label schedule now
      obtain ⟨written, handled, lawful⟩ :=
        stands.lawful ((separate now).alike label) connected
      obtain ⟨logged, received⟩ := lawful.of_idle idle
      exact ⟨written, lawful.input_eq, logged, received⟩
    · intro fair
      obtain ⟨finish, finished⟩ := finishes fair
      refine ⟨finish, ?_⟩
      intro now behind
      obtain ⟨host, linked⟩ := (separate now).alike label
      obtain ⟨terminal, found, idle, unsent, logged, received⟩ := finished now behind
      obtain ⟨link, connected, same⟩ := Option.map_eq_some_iff.mp found
      subst same
      rw [← host, ← linked]
      exact ⟨⟨link, connected, idle⟩, unsent, logged, received⟩

/-- Two links in turn, once both are open. -/
def inTurn (now : Nat) : Turn :=
  if now = 0 then .connect "left"
  else if now = 1 then .connect "right"
  else .move (if now % 2 = 0 then "left" else "right") (Terminal.roundRobin (now / 2))

theorem inTurn_moveOn (now odd : Nat) (bit : odd < 2) :
    (inTurn (2 * now + 2 + odd)).moveOn (if odd = 0 then "left" else "right") =
      Terminal.roundRobin (now + 1) := by
  have first : 2 * now + 2 + odd ≠ 0 := by omega
  have second : 2 * now + 2 + odd ≠ 1 := by omega
  have half : (2 * now + 2 + odd) / 2 = now + 1 := by omega
  have parity : (2 * now + 2 + odd) % 2 = odd := by omega
  rw [inTurn, if_neg first, if_neg second, half, parity, Turn.moveOn, if_pos rfl]

theorem fair_inTurn (odd : Nat) (bit : odd < 2) :
    FairTo (if odd = 0 then "left" else "right") inTurn := by
  have regular := Terminal.fair_roundRobin
  constructor
  · refine ⟨odd, ?_⟩
    obtain rfl | rfl : odd = 0 ∨ odd = 1 := by omega
    · rfl
    · rfl
  · constructor
    · intro now
      obtain ⟨later, limit, behind, some_byte, due⟩ := regular.write (now + 1)
      obtain ⟨before, rfl⟩ := Nat.exists_eq_add_of_le' (show 1 ≤ later by omega)
      exact ⟨_, limit, by omega, some_byte, (inTurn_moveOn before odd bit).trans due⟩
    · intro now
      obtain ⟨later, limit, behind, some_byte, due⟩ := regular.read (now + 1)
      obtain ⟨before, rfl⟩ := Nat.exists_eq_add_of_le' (show 1 ≤ later by omega)
      exact ⟨_, limit, by omega, some_byte, (inTurn_moveOn before odd bit).trans due⟩
    · intro now
      obtain ⟨later, behind, due⟩ := regular.device (now + 1)
      obtain ⟨before, rfl⟩ := Nat.exists_eq_add_of_le' (show 1 ≤ later by omega)
      exact ⟨_, by omega, (inTurn_moveOn before odd bit).trans due⟩

/-- An echo on one link, raw bytes on the other. -/
theorem links_apart_in_turn :
    let setup : Setup := ⟨[(1, .echo), (2, .raw [9, 9])], .silent, none, some ⟨1, by decide⟩,
      ⟨2, by decide⟩⟩
    let pieces (label : String) : List Bytes :=
      if label = "left" then [[1, 1, 1], [0, 7]] else [[5, 2, 0, 0, 1, 9]]
    let hub := afterTurns turn inTurn (start setup pieces)
    FairTo "left" inTurn ∧ FairTo "right" inTurn ∧ ∃ finish, ∀ now, finish ≤ now →
      ((hub now).hosts "left").received = [0, 1, 0, 7] ∧
        ((hub now).hosts "right").received = [9, 9] := by
  intro setup pieces hub
  have left := fair_inTurn 0 (by omega)
  have right := fair_inTurn 1 (by omega)
  obtain ⟨_, each⟩ := links_apart setup pieces inTurn
  obtain ⟨early, leftDone⟩ := (each "left").2 left
  obtain ⟨late, rightDone⟩ := (each "right").2 right
  have echoed : setup.output (pieces "left").flatten = [0, 1, 0, 7] := by
    rw [Setup.output, ← Reassembler.feedAll_frames]
    rfl
  have raw : setup.output (pieces "right").flatten = [9, 9] := by
    rw [Setup.output, ← Reassembler.feedAll_frames]
    rfl
  refine ⟨left, right, max early late, ?_⟩
  intro now behind
  obtain ⟨_, _, _, leftHeard⟩ := leftDone now (by omega)
  obtain ⟨_, _, _, rightHeard⟩ := rightDone now (by omega)
  exact ⟨leftHeard.trans echoed, rightHeard.trans raw⟩

end Hub

end SerialLink
