import ModbusGateway.Verify.Network
import ModbusGateway.Verify.Datagram

/-!
# Sessions on the network

What holds over all runs of the network side: traffic passes only while the link is up, announcements
come a minute apart and no later, the COV lifetimes are given every second that passes, and the transaction
timers never more time than has passed, nor less than a transaction takes to expire.
-/

namespace ModbusGateway

variable {env : BacnetEnv}

/-! ## A session with one point -/

def sessionEnv : BacnetEnv where
  stack := ⟨32, 64, 32, 64⟩
  unsigned16 := bacnetUnsigned16
  bvlcDecodeHeader := readHeader
  maxPdu := 480
  mpduMax := 484
  maxCovSubscriptions := 128

def sessionInput : BacnetConfig where
  deviceInstance := 260001
  deviceName := "ATS".toList
  firmwareVersion := none
  location := none
  localIp := 0
  udpPort := 0
  peerCount := 0
  points := some [⟨OBJECT_ANALOG_INPUT, 1, "Voltage".toList, [], 5, 0, none, 0, 1, 0, 16⟩]
  pointCount := 1
  modelName := none
  description := none

def sessionNetwork : NetworkConfig :=
  ⟨#v[192, 168, 2, 5], #v[255, 255, 254, 0], #v[192, 168, 2, 1], 47808, [⟨#v[192, 168, 2, 9], 0⟩]⟩

/-- The labels and the state of a session that starts at 5 s, after some more inputs. -/
def session (inputs : List NetworkInput) : List NetworkLabel × BacnetNetwork :=
  StepSystem.feed (networkNext sessionEnv)
    (.init ⟨54, 0, 0⟩ sessionInput sessionNetwork 5000 true :: inputs) ([], {})

theorem session_run (inputs : List NetworkInput) :
    (networkSystem sessionEnv).Run (session inputs).1 (session inputs).2 := .feed _ (.init rfl)

/-! ## The link -/

/-- A message that is sent or handled. -/
def NetworkEvent.isTraffic : NetworkEvent → Bool
  | .iAmBroadcast _ _ => true
  | .iAmUnicast _ _ => true
  | .covFsm _ => true
  | .handled _ => true
  | _ => false

theorem mem_timers {s : BacnetNetwork} (he : e ∈ s.timers t) :
    (∃ n, e = .tsmTimer n) ∨ ∃ n, e = .covTimer n := by
  unfold BacnetNetwork.timers at he
  rcases List.mem_append.mp he with he | he
  · split at he
    · exact .inl ⟨_, List.mem_singleton.mp he⟩
    · cases he
  · split at he
    · exact .inr ⟨_, List.mem_singleton.mp he⟩
    · cases he

theorem timers_noTraffic (s : BacnetNetwork) (t : Nat) : ∀ e ∈ s.timers t, e.isTraffic = false := by
  intro e he
  rcases mem_timers he with ⟨n, rfl⟩ | ⟨n, rfl⟩
  · rfl
  · rfl

theorem announcement_traffic (s : BacnetNetwork) : ∀ e ∈ s.announcement env, e.isTraffic = true := by
  intro e he
  rcases List.mem_cons.mp he with rfl | he
  · rfl
  · obtain ⟨peer, -, rfl⟩ := List.mem_map.mp he
    rfl

/-- After the timers a tick only sends. -/
theorem tickRest_traffic {s : BacnetNetwork} (hdown : s.linkUp = false → rest = [])
    (hup : s.linkUp = true → ∃ calls, rest =
      .covFsm calls :: if s.nextAnnounceMs ≤ t then s.announcement env else []) :
    ∀ e ∈ rest, e.isTraffic = true := by
  intro e he
  by_cases hlink : s.linkUp = true
  · obtain ⟨calls, rfl⟩ := hup hlink
    rcases List.mem_cons.mp he with rfl | he
    · rfl
    · split at he
      · exact announcement_traffic s e he
      · cases he
  · rw [hdown (Bool.eq_false_iff.mpr hlink)] at he
    cases he

/-- After every call the socket is open exactly while the link is up, on the address of the session, and
the objects about the link say so. What sends or handles a message leaves the link up. -/
theorem link_consistent (run : (networkSystem env).Run h s) :
    NetworkInv env s ∧
    ∀ l s', (networkSystem env).step s l s' → (∃ e ∈ l.events, e.isTraffic = true) →
      s'.initialized = true ∧ s'.linkUp = true ∧ s'.port.socket = true := by
  have H := networkSystem_inv run
  refine ⟨H, fun l s' hl ⟨e, he, htraffic⟩ => ?_⟩
  obtain ⟨-, hstep⟩ := networkSystem_step H hl
  have H' := hstep.inv H
  have hup : s'.linkUp = true := by
    generalize l.input = i at hstep
    generalize l.events = events at hstep he
    cases hstep with
    | idle => cases he
    | started _ _ _ _ hup => exact hup
    | closed => cases he
    | lost => cases he
    | kept => cases he
    | bound _ _ _ _ _ hup => exact hup
    | tick _ _ _ hs' _ hdown _ =>
      subst hs'
      by_contra hlink
      rw [hdown (Bool.eq_false_iff.mpr hlink), List.append_nil] at he
      rw [timers_noTraffic s _ e he] at htraffic
      cases htraffic
    | received hup _ hreceived =>
      obtain ⟨flag, buffers, queue, packets, rfl⟩ := hreceived.frame
      exact hup
    | arrived => cases he
  exact ⟨H'.initialized hup, hup, H'.socket.trans hup⟩

/-- The cable is pulled. -/
theorem link_consistent_pulled :
    let s := (session [.update ⟨54, 0, 0⟩ Ipv4.zero Ipv4.zero Ipv4.zero false 9000]).2
    s.linkUp = false ∧ s.port.socket = false ∧ s.ethernetLink = false ∧
      s.networkPort = (s.networkProperties sessionEnv).networkPort := by
  have hinit : (session [.update ⟨54, 0, 0⟩ Ipv4.zero Ipv4.zero Ipv4.zero false 9000]).2.initialized =
    true := by decide
  have hdown : (session [.update ⟨54, 0, 0⟩ Ipv4.zero Ipv4.zero Ipv4.zero false 9000]).2.linkUp =
    false := by decide
  have H := (link_consistent
    (session_run [.update ⟨54, 0, 0⟩ Ipv4.zero Ipv4.zero Ipv4.zero false 9000])).1
  exact ⟨hdown, H.socket.trans hdown, (H.link hinit).trans hdown, H.networkPort hinit⟩

/-! ## Announcements -/

/-- The broadcast that begins an announcement. -/
def NetworkEvent.announces : NetworkEvent → Bool
  | .iAmBroadcast _ _ => true
  | _ => false

def NetworkLabel.announces (l : NetworkLabel) : Bool := l.events.any NetworkEvent.announces

/-- The newest label that announces. -/
def lastAnnouncement (h : List NetworkLabel) : Option NetworkLabel := h.find? NetworkLabel.announces

theorem lastAnnouncement_quiet (hquiet : ¬ l.announces = true) :
    lastAnnouncement (l :: h) = lastAnnouncement h :=
  List.find?_cons_of_neg hquiet

theorem lastAnnouncement_loud (hloud : l.announces = true) : lastAnnouncement (l :: h) = some l :=
  List.find?_cons_of_pos hloud

/-- The announcement of a configuration: from its address, to the broadcast address of its subnet and to
every peer. -/
def NetworkConfig.announcement (env : BacnetEnv) (c : NetworkConfig) : List NetworkEvent :=
  let own := macAddress env.unsigned16 ⟨c.localIp, c.udpPort⟩
  .iAmBroadcast own
      { macAddress env.unsigned16 ⟨directedBroadcast c.localIp c.netmask, c.udpPort⟩ with
        net := BACNET_BROADCAST_NETWORK } ::
    c.peers.map fun peer => .iAmUnicast own
      (macAddress env.unsigned16 ⟨peer.address, if peer.port ≠ 0 then peer.port else c.udpPort⟩)

/-- While the link is up, what is announced is the configuration. -/
theorem NetworkInv.announcement_eq (H : NetworkInv env s) (hlink : s.linkUp = true) :
    s.announcement env = s.config.announcement env := by
  have hconfigured := H.configured hlink
  have hown : bipGetMyAddress env.unsigned16 s.port =
      macAddress env.unsigned16 ⟨s.config.localIp, s.config.udpPort⟩ := by
    rw [bipGetMyAddress, hconfigured.address, hconfigured.port]
  have hbroadcast : bipGetBroadcastPort s.port = s.config.udpPort := by
    rw [bipGetBroadcastPort, H.broadcastPort, if_neg (not_not_intro rfl), hconfigured.port]
  rw [BacnetNetwork.announcement, bipGetBroadcastAddress, hown, hbroadcast, hconfigured.broadcast]
  rfl

/-- While the link is up, the next announcement is a minute after the last, which was that of the
configuration. -/
structure Announced (env : BacnetEnv) (h : List NetworkLabel) (s : BacnetNetwork) : Prop where
  last : s.linkUp = true → ∃ a, lastAnnouncement h = some a ∧ s.nextAnnounceMs = a.time + 60000 ∧
    a.time ≤ s.nowMs ∧ s.config.announcement env <:+ a.events

theorem Announced.keep (H : Announced env h s) (hquiet : ¬ l.announces = true)
    (hup : s'.linkUp = true → s.linkUp = true) (hnext : s'.nextAnnounceMs = s.nextAnnounceMs)
    (hnow : s.nowMs ≤ s'.nowMs) (hconfig : s'.config = s.config) : Announced env (l :: h) s' where
  last hlink := by
    obtain ⟨a, ha, htime, hle, hsent⟩ := H.last (hup hlink)
    exact ⟨a, (lastAnnouncement_quiet hquiet).trans ha, hnext.trans htime, hle.trans hnow, by rwa [hconfig]⟩

theorem Announced.now (H : NetworkInv env s') (htime : l.time = s'.nowMs)
    (hsent : s'.announcement env <:+ l.events) (hnext : s'.nextAnnounceMs = s'.nowMs + 60000) :
    Announced env (l :: h) s' where
  last hlink := by
    have hloud : l.announces = true :=
      List.any_eq_true.mpr ⟨_, hsent.subset List.mem_cons_self, rfl⟩
    rw [H.announcement_eq hlink] at hsent
    exact ⟨l, lastAnnouncement_loud hloud, by rw [hnext, htime], Nat.le_of_eq htime, hsent⟩

theorem Announced.down (hdown : s.linkUp = false) : Announced env h s where
  last hlink := absurd (hdown.symm.trans hlink) Bool.false_ne_true

theorem timers_quiet (s : BacnetNetwork) (t : Nat) (he : e ∈ s.timers t) : e.announces = false := by
  rcases mem_timers he with ⟨n, rfl⟩ | ⟨n, rfl⟩
  · rfl
  · rfl

/-- The events of a tick that is not due are quiet. -/
theorem tick_quiet (s : BacnetNetwork) (t calls : Nat) (he : e ∈ s.timers t ++ [.covFsm calls]) :
    e.announces = false := by
  rcases List.mem_append.mp he with he | he
  · exact timers_quiet s t he
  · rw [List.mem_singleton.mp he]
    rfl

theorem not_announces_of_quiet {l : NetworkLabel} (h : ∀ e ∈ l.events, e.announces = false) :
    ¬ l.announces = true := by
  intro hloud
  obtain ⟨e, he, hannounces⟩ := List.any_eq_true.mp hloud
  rw [h e he] at hannounces
  cases hannounces

theorem announced_step (H : NetworkInv env s) (A : Announced env h s) (htime : l.time = s'.nowMs)
    (hstep : NetworkStep env s l.input l.events s') : Announced env (l :: h) s' := by
  have H' := hstep.inv H
  have hend {e : NetworkEvent} {es : List NetworkEvent} : es <:+ e :: es := List.suffix_cons e es
  generalize hevents : l.events = events at hstep
  generalize l.input = i at hstep
  have hquiet (h : ∀ e ∈ events, e.announces = false) : ¬ l.announces = true :=
    not_announces_of_quiet (hevents ▸ h)
  cases hstep with
  | idle => exact A.keep (hquiet nofun) (fun h => h) rfl (Nat.le_refl _) rfl
  | @started _ _ _ sent _ _ _ _ _ _ _ _ _ hnow _ _ _ hnext _ _ _ _ _ hsent =>
    subst hsent
    refine .now H' htime ?_ (by rw [hnext, hnow])
    rw [hevents]
    exact hend.trans (List.suffix_cons _ _)
  | closed _ _ hs' =>
    subst hs'
    exact .down rfl
  | lost _ _ _ _ hdown => exact .down hdown
  | kept _ _ _ hs' =>
    subst hs'
    exact A.keep (hquiet nofun) (fun h => h) rfl (Nat.le_max_left _ _) rfl
  | bound _ _ _ _ _ _ _ hnow _ _ _ hnext _ _ _ _ _ hsent =>
    subst hsent
    refine .now H' htime ?_ (by rw [hnext, hnow])
    rw [hevents]
    exact hend
  | @tick t _ _ _ _ _ _ _ hle _ hs' hnext hdown hup =>
    subst hs'
    by_cases hlink : s.linkUp = true
    · obtain ⟨calls, hrest⟩ := hup hlink
      by_cases hdue : s.nextAnnounceMs ≤ t
      · rw [if_pos hdue] at hrest
        refine .now H' htime ?_ (hnext.trans (if_pos ⟨hlink, hdue⟩))
        rw [hevents, hrest]
        exact (List.suffix_cons _ _).trans (List.suffix_append _ _)
      · rw [if_neg hdue] at hrest
        subst hrest
        exact A.keep (hquiet fun e he => tick_quiet s t calls he) (fun _ => hlink)
          (hnext.trans (if_neg fun h => hdue h.2)) hle rfl
    · exact .down (Bool.eq_false_iff.mpr hlink)
  | received hlink _ hreceived =>
    obtain ⟨flag, buffers, queue, packets, rfl⟩ := hreceived.frame
    refine A.keep (hquiet fun e he => ?_) (fun h => h) rfl (Nat.le_refl _) rfl
    obtain ⟨_, rfl⟩ := hreceived.handled e he
    rfl
  | arrived => exact A.keep (hquiet nofun) (fun h => h) rfl (Nat.le_refl _) rfl

theorem announced_run (run : (networkSystem env).Run h s) : Announced env h s := by
  refine (run.invariant (I := fun h s => NetworkInv env s ∧ Announced env h s) (fun s hs => ?_)
    fun h s l s' _ H hstep => ?_).2
  · cases hs
    exact ⟨networkInv_init env, .down rfl⟩
  · obtain ⟨htime, hstep⟩ := networkSystem_step H.1 hstep
    exact ⟨hstep.inv H.1, announced_step H.1 H.2 htime hstep⟩

/-- A tick leaves the next announcement ahead of it. -/
theorem NetworkStep.announcement_ahead (H : NetworkInv env s) (h : NetworkStep env s (.tick t fsm) events s')
    (hnow : s'.nowMs = t) (hlink : s'.linkUp = true) : t < s'.nextAnnounceMs := by
  cases h with
  | idle hidle =>
    have := hidle t fsm rfl (H.initialized hlink)
    omega
  | closed _ _ hs' =>
    subst hs'
    cases hlink
  | tick _ _ _ hs' hnext _ _ =>
    subst hs'
    show t < _
    rw [hnext]
    split
    · exact Nat.lt_add_of_pos_right (by decide)
    · next hdue => exact Nat.lt_of_not_le fun hle => hdue ⟨hlink, hle⟩
  | received _ hreceives => exact absurd hreceives Bool.false_ne_true

/-- An announcement on a link that was up is due, or for an address that is new. -/
theorem NetworkStep.announcement_due (H : NetworkInv env s) (h : NetworkStep env s i events s')
    (he : e ∈ events) (hloud : e.announces = true) (hlink : s.linkUp = true) :
    s.config ≠ s'.config ∨ s.nextAnnounceMs ≤ s'.nowMs := by
  cases h with
  | idle => cases he
  | started hinit =>
    rw [H.initialized hlink] at hinit
    cases hinit
  | closed => cases he
  | lost => cases he
  | kept => cases he
  | bound _ hmoved _ _ _ _ hconfig =>
    refine .inl fun hsame => ?_
    rw [hconfig] at hsame
    rcases hmoved hlink with h | h | h
    · exact h (congrArg NetworkConfig.localIp hsame)
    · exact h (congrArg NetworkConfig.netmask hsame)
    · exact h (congrArg NetworkConfig.gateway hsame)
  | @tick t _ _ _ _ _ _ _ _ _ hs' _ hdown hup =>
    subst hs'
    obtain ⟨calls, hrest⟩ := hup hlink
    refine .inr ?_
    by_contra hearly
    rw [hrest, if_neg hearly] at he
    rw [tick_quiet s t calls he] at hloud
    cases hloud
  | received _ _ hreceived =>
    obtain ⟨_, rfl⟩ := hreceived.handled _ he
    cases hloud
  | arrived => cases he

/-- While the link is up the gateway has announced itself, from the address it has now, to the broadcast
address of its subnet and to every peer; after a tick that was less than a minute ago. A new announcement comes a
minute after the last or later, unless the link was down or the address another before it. -/
theorem announced_every_minute (run : (networkSystem env).Run h s) :
    (s.linkUp = true → ∃ a, lastAnnouncement h = some a ∧ a.time ≤ s.nowMs ∧
      s.config.announcement env <:+ a.events) ∧
    ∀ l s', (networkSystem env).step s l s' →
      (∀ t fsm, l.input = .tick t fsm → s'.nowMs = t → s'.linkUp = true →
        ∃ a, lastAnnouncement (l :: h) = some a ∧ t < a.time + 60000) ∧
      (l.announces = true →
        s.linkUp = false ∨ s.config ≠ s'.config ∨
          ∃ a, lastAnnouncement h = some a ∧ a.time + 60000 ≤ l.time) := by
  have H := networkSystem_inv run
  have A := announced_run run
  refine ⟨fun hlink => ?_, fun l s' hl => ⟨fun t fsm hinput hnow hlink => ?_, fun hloud => ?_⟩⟩
  · obtain ⟨a, ha, -, hle, hsent⟩ := A.last hlink
    exact ⟨a, ha, hle, hsent⟩
  · obtain ⟨htime, hstep⟩ := networkSystem_step H hl
    obtain ⟨a, ha, hnext, -, -⟩ := (announced_step H A htime hstep).last hlink
    rw [hinput] at hstep
    exact ⟨a, ha, hnext ▸ hstep.announcement_ahead H hnow hlink⟩
  · obtain ⟨htime, hstep⟩ := networkSystem_step H hl
    by_cases hlink : s.linkUp = true
    · obtain ⟨a, ha, hnext, -, -⟩ := A.last hlink
      obtain ⟨e, he, hannounces⟩ := List.any_eq_true.mp hloud
      refine .inr ((hstep.announcement_due H he hannounces hlink).imp_right fun hdue => ⟨a, ha, ?_⟩)
      rwa [← hnext, htime]
    · exact .inl (Bool.eq_false_iff.mpr hlink)

/-- The address changes between two ticks. -/
theorem announced_every_minute_session :
    ∃ a, lastAnnouncement (session [.tick 64999 fun _ => true,
        .update ⟨54, 0, 0⟩ #v[192, 168, 3, 7] #v[255, 255, 255, 0] #v[192, 168, 3, 1] true 65000,
        .tick 70000 fun _ => true]).1 = some a ∧ a.time = 65000 ∧
      [.iAmBroadcast (macAddress bacnetUnsigned16 ⟨#v[192, 168, 3, 7], 47808⟩)
          { macAddress bacnetUnsigned16 ⟨#v[192, 168, 3, 255], 47808⟩ with net := BACNET_BROADCAST_NETWORK },
        .iAmUnicast (macAddress bacnetUnsigned16 ⟨#v[192, 168, 3, 7], 47808⟩)
          (macAddress bacnetUnsigned16 ⟨#v[192, 168, 2, 9], 47808⟩)] <:+ a.events := by
  obtain ⟨a, ha, -, hsent⟩ := (announced_every_minute (session_run [.tick 64999 fun _ => true,
    .update ⟨54, 0, 0⟩ #v[192, 168, 3, 7] #v[255, 255, 255, 0] #v[192, 168, 3, 1] true 65000,
    .tick 70000 fun _ => true])).1 (by decide)
  refine ⟨a, ha, ?_, hsent⟩
  have htime : (lastAnnouncement (session [.tick 64999 fun _ => true,
      .update ⟨54, 0, 0⟩ #v[192, 168, 3, 7] #v[255, 255, 255, 0] #v[192, 168, 3, 1] true 65000,
      .tick 70000 fun _ => true]).1).map NetworkLabel.time = some 65000 := by decide
  rw [ha] at htime
  exact Option.some.inj htime

/-! ## Seconds for the COV lifetimes -/

def NetworkEvent.seconds : NetworkEvent → Nat
  | .covTimer n => n
  | _ => 0

def NetworkEvent.milliseconds : NetworkEvent → Nat
  | .tsmTimer n => n
  | _ => 0

/-- What the events hand to a timer of the stack. -/
def handed (time : NetworkEvent → Nat) (events : List NetworkEvent) : Nat := (events.map time).sum

theorem handed_append : handed time (a ++ b) = handed time a + handed time b := by
  unfold handed
  rw [List.map_append, List.sum_append]

theorem handed_cons : handed time (e :: events) = time e + handed time events := by
  unfold handed
  rw [List.map_cons, List.sum_cons]

theorem handed_eq_zero (h : ∀ e ∈ events, time e = 0) : handed time events = 0 := by
  induction events with
  | nil => rfl
  | cons e events ih =>
    rw [handed_cons, h e List.mem_cons_self, ih fun e he => h e (List.mem_cons_of_mem _ he)]

/-- Traffic takes no time of the timers. -/
structure IsTimer (time : NetworkEvent → Nat) : Prop where
  opened : time .opened = 0
  initialized : time .initialized = 0
  traffic : ∀ e, e.isTraffic = true → time e = 0

theorem isTimer_seconds : IsTimer NetworkEvent.seconds :=
  ⟨rfl, rfl, fun e h => by cases e <;> first | rfl | cases h⟩

theorem isTimer_milliseconds : IsTimer NetworkEvent.milliseconds :=
  ⟨rfl, rfl, fun e h => by cases e <;> first | rfl | cases h⟩

theorem handed_timers_seconds (s : BacnetNetwork) (t : Nat) :
    handed NetworkEvent.seconds (s.timers t) = min (s.dueSeconds t) UINT32_MAX := by
  unfold BacnetNetwork.timers
  rw [handed_append]
  have hms : handed NetworkEvent.seconds
      (if s.lastTimerMs < t then [.tsmTimer (min (t - s.lastTimerMs) 65535)] else []) = 0 := by
    split
    · rfl
    · rfl
  rw [hms, Nat.zero_add]
  split
  · exact Nat.add_zero _
  · next h =>
    rw [Nat.eq_zero_of_not_pos h]
    rfl

theorem handed_timers_milliseconds (s : BacnetNetwork) (t : Nat) :
    handed NetworkEvent.milliseconds (s.timers t) = min (t - s.lastTimerMs) 65535 := by
  unfold BacnetNetwork.timers
  rw [handed_append]
  have hseconds : handed NetworkEvent.milliseconds
      (if 0 < s.dueSeconds t then [.covTimer (min (s.dueSeconds t) UINT32_MAX)] else []) = 0 := by
    split
    · rfl
    · rfl
  rw [hseconds, Nat.add_zero]
  split
  · exact Nat.add_zero _
  · next h =>
    rw [Nat.sub_eq_zero_of_le (Nat.le_of_not_lt h)]
    rfl

theorem initialized_not_traffic {events : List NetworkEvent} (h : ∀ e ∈ events, e.isTraffic = true) :
    NetworkEvent.initialized ∉ events := fun hmem => Bool.noConfusion (h _ hmem)

theorem initialized_not_timer (s : BacnetNetwork) (t : Nat) :
    NetworkEvent.initialized ∉ s.timers t := by
  intro hmem
  rcases mem_timers hmem with ⟨n, h⟩ | ⟨n, h⟩
  · cases h
  · cases h

/-- What a step within a session does to the clocks, and what it hands to the timers. -/
inductive ClockStep (s : BacnetNetwork) :
    NetworkInput → List NetworkEvent → BacnetNetwork → Prop
  | fresh : .initialized ∈ events → s.initialized = false → s'.startedMs = s'.nowMs →
    s'.lastTimerMs = s'.nowMs → s'.lastSecondMs = s'.nowMs → ClockStep s i events s'
  | tick : .initialized ∉ events → s.initialized = true → s.nowMs ≤ t → s'.nowMs = t →
    s'.startedMs = s.startedMs → s'.lastTimerMs = t →
    s'.lastSecondMs = s.lastSecondMs + s.dueSeconds t * 1000 →
    handed NetworkEvent.seconds events = min (s.dueSeconds t) UINT32_MAX →
    handed NetworkEvent.milliseconds events = min (t - s.lastTimerMs) 65535 →
    ClockStep s i events s'
  | still : .initialized ∉ events → s.initialized = true → s.nowMs ≤ s'.nowMs →
    s'.startedMs = s.startedMs → s'.lastTimerMs = s.lastTimerMs → s'.lastSecondMs = s.lastSecondMs →
    (∀ time, IsTimer time → handed time events = 0) →
    (∀ t fsm, i = .tick t fsm → t < s'.nowMs) → ClockStep s i events s'

theorem NetworkStep.clock (hstep : NetworkStep env s i events s') (hinit : s'.initialized = true) :
    ClockStep s i events s' := by
  have hzero (time : NetworkEvent → Nat) (_ : IsTimer time) : handed time [] = 0 := rfl
  cases hstep with
  | idle hidle =>
    exact .still List.not_mem_nil hinit (Nat.le_refl _) rfl rfl rfl hzero
      fun t fsm h => hidle t fsm h hinit
  | started hold _ _ _ _ _ hnow hstarted htimer hsecond =>
    refine .fresh (List.mem_cons_of_mem _ List.mem_cons_self) hold ?_ ?_ ?_
    · rw [hstarted, hnow]
    · rw [htimer, hnow]
    · rw [hsecond, hnow]
  | closed _ _ hs' =>
    subst hs'
    cases hinit
  | lost hs hnow _ _ _ _ _ hnow' hstarted htimer hsecond =>
    refine .still List.not_mem_nil hs ?_ hstarted htimer hsecond hzero fun _ _ h => by cases h
    rw [hnow', hnow]
    exact Nat.le_max_left _ _
  | kept hs _ _ hs' =>
    subst hs'
    exact .still List.not_mem_nil hs (Nat.le_max_left _ _) rfl rfl rfl hzero fun _ _ h => by cases h
  | bound hs _ _ _ _ _ _ hnow hstarted htimer hsecond _ _ _ _ _ _ hevents =>
    subst hevents
    refine .still ?_ hs ?_ hstarted htimer hsecond (fun time T => ?_) fun _ _ h => by cases h
    · intro hmem
      rcases List.mem_cons.mp hmem with h | hmem
      · cases h
      · exact initialized_not_traffic (announcement_traffic s') hmem
    · rw [hnow]
      exact Nat.le_max_left _ _
    · rw [handed_cons, T.opened,
        handed_eq_zero fun e he => T.traffic e (announcement_traffic s' e he)]
  | @tick t _ _ rest _ _ _ hs hle _ hs' _ hdown hup =>
    subst hs'
    have hrest := tickRest_traffic hdown hup
    have huntimed {time : NetworkEvent → Nat} (T : IsTimer time) : handed time rest = 0 :=
      handed_eq_zero fun e he => T.traffic e (hrest e he)
    refine .tick ?_ hs hle rfl rfl rfl rfl ?_ ?_
    · intro hmem
      rcases List.mem_append.mp hmem with hmem | hmem
      · exact initialized_not_timer s t hmem
      · exact initialized_not_traffic hrest hmem
    · rw [handed_append, huntimed isTimer_seconds, Nat.add_zero]
      exact handed_timers_seconds s t
    · rw [handed_append, huntimed isTimer_milliseconds, Nat.add_zero]
      exact handed_timers_milliseconds s t
  | received _ hreceives hreceived =>
    obtain ⟨flag, buffers, queue, packets, rfl⟩ := hreceived.frame
    refine .still (fun hmem => ?_) hinit (Nat.le_refl _) rfl rfl rfl (fun time T => ?_)
      fun t fsm h => ?_
    · obtain ⟨_, h⟩ := hreceived.handled _ hmem
      cases h
    · refine handed_eq_zero fun e he => ?_
      obtain ⟨x, rfl⟩ := hreceived.handled e he
      exact T.traffic _ rfl
    · subst h
      exact absurd hreceives Bool.false_ne_true
  | arrived =>
    exact .still List.not_mem_nil hinit (Nat.le_refl _) rfl rfl rfl hzero fun _ _ h => by cases h

/-- What the events since the session started come to. -/
def sinceStart (amount : NetworkEvent → Nat) : List NetworkLabel → Nat
  | [] => 0
  | l :: h =>
    if NetworkEvent.initialized ∈ l.events then 0
    else handed amount l.events + sinceStart amount h

/-- The seconds since the session started, as the stack was told. -/
def sessionSeconds (h : List NetworkLabel) : Nat := sinceStart NetworkEvent.seconds h

/-- The stack was told of the seconds up to `last_second_ms`. -/
def SecondsTold (h : List NetworkLabel) (s : BacnetNetwork) : Prop :=
  s.initialized = true → s.nowMs < s.startedMs + 2 ^ 32 * 1000 →
    s.startedMs + sessionSeconds h * 1000 = s.lastSecondMs

theorem secondsTold_step (H : NetworkInv env s) (S : SecondsTold h s)
    (hstep : s'.initialized = true → ClockStep s l.input l.events s') :
    SecondsTold (l :: h) s' := by
  intro hinit huptime
  unfold sessionSeconds sinceStart
  cases hstep hinit with
  | fresh hmem _ hstarted htimer hsecond =>
    rw [if_pos hmem, hsecond, hstarted]
    rfl
  | @tick _ t _ _ hmem hs hle hnow' hstarted htimer hsecond hseconds _ =>
    have hstart := H.started
    have hlast := H.second
    have hold : s.startedMs + sinceStart NetworkEvent.seconds h * 1000 = s.lastSecondMs := S hs (by omega)
    have hdue : s.dueSeconds t * 1000 ≤ t - s.lastSecondMs := Nat.div_mul_le_self _ _
    have hmin : min (s.dueSeconds t) UINT32_MAX = s.dueSeconds t := by
      refine Nat.min_eq_left ?_
      unfold UINT32_MAX
      omega
    rw [if_neg hmem, hseconds, hmin]
    omega
  | still hmem hs hle hstarted htimer hsecond hzero _ =>
    rw [if_neg hmem, hzero _ isTimer_seconds, Nat.zero_add, hstarted, hsecond]
    exact S hs (by omega)

theorem secondsTold_run (run : (networkSystem env).Run h s) : SecondsTold h s := by
  refine (run.invariant (I := fun h s => NetworkInv env s ∧ SecondsTold h s) (fun s hs => ?_)
    fun h s l s' _ H hl => ?_).2
  · cases hs
    exact ⟨networkInv_init env, fun h => Bool.noConfusion h⟩
  · obtain ⟨-, hstep⟩ := networkSystem_step H.1 hl
    exact ⟨hstep.inv H.1, secondsTold_step H.1 H.2 fun hinit => hstep.clock hinit⟩

/-- In a session of less than 2^32 seconds, however long or short the pauses between ticks are, the stack
has never been told of more seconds than have passed since the start, and after a tick of exactly these. -/
theorem seconds_exact (run : (networkSystem env).Run h s) (hinit : s.initialized = true)
    (huptime : s.nowMs < s.startedMs + 2 ^ 32 * 1000) :
    sessionSeconds h ≤ (s.nowMs - s.startedMs) / 1000 ∧
    ∀ l older t fsm, h = l :: older → l.input = .tick t fsm → t = s.nowMs →
      sessionSeconds h = (t - s.startedMs) / 1000 := by
  have H := networkSystem_inv run
  have S := secondsTold_run run hinit huptime
  have hle := H.second
  refine ⟨by omega, fun l older t fsm heq hinput hnow => ?_⟩
  subst heq
  obtain ⟨s₀, run₀, hl⟩ := run.cons_inv
  obtain ⟨-, hstep⟩ := networkSystem_step (networkSystem_inv run₀) hl
  have hlast : t < s.lastSecondMs + 1000 := by
    cases hstep.clock hinit with
    | fresh _ _ _ _ hsecond => omega
    | @tick _ t' _ _ _ hs hle' hnow' _ _ hsecond _ _ =>
      have hdue : t' - s₀.lastSecondMs < s₀.dueSeconds t' * 1000 + 1000 :=
        Nat.lt_div_mul_add (by decide)
      omega
    | still _ _ _ _ _ _ _ hlate => exact absurd (hlate t fsm hinput) (by omega)
  omega

/-- A tick after 3.7 s, and one that is 40 ms late. -/
theorem seconds_exact_session :
    sessionSeconds (session [.tick 8700 fun _ => true, .tick 9040 fun _ => true]).1 = 4 := by
  obtain ⟨-, htick⟩ := seconds_exact (session_run [.tick 8700 fun _ => true, .tick 9040 fun _ => true])
    (by decide) (by decide)
  exact htick _ _ 9040 (fun _ => true) rfl rfl rfl

/-! ## Milliseconds for the transactions -/

/-- What a stretch of labels handed to the transaction timer. -/
def handedMs : List NetworkLabel → Nat
  | [] => 0
  | l :: h => handed NetworkEvent.milliseconds l.events + handedMs h

/-- Over any stretch of a session that ends in a tick, the transaction timer is told of no more time than
has passed since it was last told, and of all of it up to 65535 ms, which is more than a transaction
takes to expire. -/
theorem transactions_timed (run : (networkSystem env).Run older s₀)
    (steps : (networkSystem env).Steps s₀ newer s) (hsession : s₀.initialized = true)
    (hkept : ∀ l ∈ newer, l.input ≠ .shutdown) :
    s.initialized = true ∧ s₀.lastTimerMs ≤ s.lastTimerMs ∧
      handedMs newer ≤ s.lastTimerMs - s₀.lastTimerMs ∧
      min (s.lastTimerMs - s₀.lastTimerMs) 65535 ≤ handedMs newer ∧
      ∀ l rest t fsm, newer = l :: rest → l.input = .tick t fsm → t = s.nowMs → s.lastTimerMs = t := by
  induction steps with
  | refl =>
    refine ⟨hsession, Nat.le_refl _, Nat.zero_le _, ?_, fun l rest t fsm h => by cases h⟩
    rw [Nat.sub_self, Nat.zero_min]
    exact Nat.zero_le _
  | @step newer s₁ l s steps hl ih =>
    have hs₁ := ih fun l hl => hkept l (List.mem_cons_of_mem _ hl)
    obtain ⟨hinit₁, hmono, hmost, hleast, -⟩ := hs₁
    have H := networkSystem_inv (run.append steps)
    obtain ⟨-, hstep⟩ := networkSystem_step H hl
    have hinit : s.initialized = true := hstep.session hinit₁ (hkept l List.mem_cons_self)
    unfold handedMs
    cases hstep.clock hinit with
    | fresh _ hold => exact absurd (hold.symm.trans hinit₁) Bool.false_ne_true
    | @tick _ t _ _ _ _ hle hnow _ htimer _ _ hms =>
      have hlast := H.timer
      refine ⟨hinit, by omega, by omega, by omega, fun l' rest t' fsm heq hinput hnow' => ?_⟩
      rw [htimer, hnow', hnow]
    | still _ _ _ _ htimer _ hzero hlate =>
      rw [hzero _ isTimer_milliseconds, Nat.zero_add, htimer]
      refine ⟨hinit, hmono, hmost, hleast, fun l' rest t fsm heq hinput hnow => ?_⟩
      cases heq
      exact absurd (hlate t fsm hinput) (by omega)

/-- The ticks after a pause of 70 s, for which the timer is told of 65.535 s. -/
theorem transactions_timed_pause :
    let ticks := StepSystem.feed (networkNext sessionEnv)
      [.tick 75000 fun _ => true, .tick 75020 fun _ => true] ([], (session []).2)
    handedMs ticks.1 = 65555 ∧ handedMs ticks.1 ≤ ticks.2.lastTimerMs - 5000 := by
  have hkept : ∀ l ∈ (StepSystem.feed (networkNext sessionEnv)
      [.tick 75000 fun _ => true, .tick 75020 fun _ => true] ([], (session []).2)).1,
      l.input ≠ .shutdown := by
    intro l hl
    rcases List.mem_cons.mp hl with rfl | hl
    · exact fun h => by cases h
    · rcases List.mem_cons.mp hl with rfl | hl
      · exact fun h => by cases h
      · cases hl
  obtain ⟨-, -, hmost, -⟩ := transactions_timed (session_run [])
    (.feed [.tick 75000 fun _ => true, .tick 75020 fun _ => true] .refl) (by decide) hkept
  exact ⟨by decide, hmost⟩

end ModbusGateway
