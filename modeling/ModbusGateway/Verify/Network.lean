import ModbusGateway.Bacnet.Network

/-!
# Link, socket and clocks over a session

`NetworkInv` holds after every call: the socket is open exactly while the link is up, and then the port is
configured with the address of the session; the objects about the link tell its state; the clocks do not
run ahead. `NetworkStep` says all that a call can do to a state with the invariant.
-/

namespace ModbusGateway

/-- `bip_port_configure` was last called with the address of this configuration. -/
structure BipStatics.Configured (p : BipStatics) (c : NetworkConfig) : Prop where
  address : p.address = c.localIp
  port : p.port = c.udpPort
  broadcast : p.broadcast = ⟨directedBroadcast c.localIp c.netmask, c.udpPort⟩
  gateway : p.gateway = ⟨c.gateway, 0⟩
  bits : p.subnetPrefix = contiguousPrefix c.netmask

theorem BipStatics.Configured.configure_eq {p : BipStatics} {c : NetworkConfig} (h : p.Configured c) :
    bipPortConfigure p c.localIp c.netmask c.gateway c.udpPort = p := by
  obtain ⟨⟨address, port, flag⟩, socket, broadcastPort, broadcast, gateway, bits⟩ := p
  obtain ⟨haddress, hport, hbroadcast, hgateway, hbits⟩ := h
  dsimp only at haddress hport hbroadcast hgateway hbits
  rw [haddress, hport, hbroadcast, hgateway, hbits]
  rfl

/-- The address, the socket, the clocks and the objects about them fit together. -/
structure NetworkInv (env : BacnetEnv) (s : BacnetNetwork) : Prop where
  initialized : s.linkUp = true → s.initialized = true
  socket : s.port.socket = s.linkUp
  queue : s.port.socket = false → s.queue = []
  address : s.linkUp = true → s.config.localIp ≠ Ipv4.zero
  configured : s.linkUp = true → s.port.Configured s.config
  broadcastPort : s.port.broadcastPort = 0
  link : s.initialized = true → s.ethernetLink = s.linkUp
  networkPort : s.initialized = true → s.networkPort = (s.networkProperties env).networkPort
  now : TimerMs s.nowMs
  timer : s.lastTimerMs ≤ s.nowMs
  second : s.lastSecondMs ≤ s.nowMs
  started : s.startedMs ≤ s.lastSecondMs

theorem TimerMs.lt (h : TimerMs ms) : ms + 60000 < 2 ^ 64 := by
  have := h.fits
  omega

theorem timerMs_max (ha : TimerMs a) (hb : TimerMs b) : TimerMs (max a b) := by
  rcases Nat.le_total a b with h | h
  · exact (Nat.max_eq_right h).symm ▸ hb
  · exact (Nat.max_eq_left h).symm ▸ ha

/-! ## Opening and receiving -/

theorem bipInit_cases (calls : SocketCalls) (p : BipStatics) :
    bipInit calls p = ({ p with socket := true }, true) ∨
    bipInit calls p = ({ p with socket := false }, false) := by
  unfold bipInit
  dsimp only
  split
  · exact .inr rfl
  split
  · exact .inr rfl
  split
  · exact .inr rfl
  · exact .inl rfl

/-- Decoding changes the flag of the port at most. -/
theorem bipPortDecodeDatagram_port (u : Unsigned16) (decodeHeader : BvlcDecodeHeader) (p : BipPort)
    (frame : List UInt8) (sender : BipAddress) (out : ReceiveBuffers) (maxPdu : Nat) :
    ∃ flag, (bipPortDecodeDatagram u decodeHeader p frame sender out maxPdu).1 =
      { p with lastReceiveWasBroadcast := flag } := by
  have horigin {q : BipPort} {source : BipAddress} {offset : Nat} {function : UInt8}
      (h : bvlcOrigin u p frame sender function = some (q, source, offset)) :
      ∃ flag, q = { p with lastReceiveWasBroadcast := flag } := by
    unfold bvlcOrigin at h
    split at h
    · exact ⟨false, (congrArg Prod.fst (Option.some.inj h)).symm⟩
    split at h
    · exact ⟨true, (congrArg Prod.fst (Option.some.inj h)).symm⟩
    split at h
    · exact ⟨true, (congrArg Prod.fst (Option.some.inj h)).symm⟩
    · cases h
  unfold bipPortDecodeDatagram
  split
  · exact ⟨p.lastReceiveWasBroadcast, rfl⟩
  dsimp only
  split
  · exact ⟨p.lastReceiveWasBroadcast, rfl⟩
  split
  · exact ⟨p.lastReceiveWasBroadcast, rfl⟩
  next q source offset hq =>
  obtain ⟨flag, rfl⟩ := horigin hq
  split
  · exact ⟨flag, rfl⟩
  split
  · exact ⟨flag, rfl⟩
  split
  · exact ⟨flag, rfl⟩
  split
  · exact ⟨true, rfl⟩
  · exact ⟨flag, rfl⟩

/-- What receiving leaves alone. -/
structure Reception (s s' : BacnetNetwork) (events : List NetworkEvent) : Prop where
  frame : ∃ flag buffers queue packets, s' =
    { s with
      port := { s.port with lastReceiveWasBroadcast := flag }
      buffers := buffers
      queue := queue
      receivedPackets := packets }
  queue : s.queue = [] → s'.queue = []
  handled : ∀ e ∈ events, ∃ h, e = .handled h
  counted : s'.receivedPackets % 2 ^ 32 = (s.receivedPackets + events.length) % 2 ^ 32

theorem Reception.refl (s : BacnetNetwork) : Reception s s [] :=
  ⟨⟨s.port.lastReceiveWasBroadcast, s.buffers, s.queue, s.receivedPackets, rfl⟩, fun h => h,
    fun _ h => absurd h List.not_mem_nil, rfl⟩

theorem Reception.trans (h₁ : Reception s s' events) (h₂ : Reception s' s'' events') :
    Reception s s'' (events ++ events') := by
  obtain ⟨flag, buffers, queue, packets, rfl⟩ := h₁.frame
  obtain ⟨flag', buffers', queue', packets', rfl⟩ := h₂.frame
  refine ⟨⟨flag', buffers', queue', packets', rfl⟩, fun h => h₂.queue (h₁.queue h), fun e he => ?_, ?_⟩
  · exact (List.mem_append.mp he).elim (h₁.handled e) (h₂.handled e)
  · have hfirst := h₁.counted
    rw [h₂.counted, List.length_append]
    omega

theorem Reception.dequeue {s : BacnetNetwork} (hqueue : s.queue = d :: rest) :
    Reception s { s with queue := rest } [] where
  frame := ⟨s.port.lastReceiveWasBroadcast, s.buffers, rest, s.receivedPackets, rfl⟩
  queue h := absurd (hqueue.symm.trans h) (List.cons_ne_nil d rest)
  handled _ h := absurd h List.not_mem_nil
  counted := rfl

/-- Decoding one datagram, and counting it. -/
theorem count_decode (env : BacnetEnv) (s : BacnetNetwork) (d : Datagram) :
    Reception s (BacnetNetwork.count (s.decode env d)).1 (BacnetNetwork.count (s.decode env d)).2.1 := by
  have hport : ∃ flag, (s.decode env d).1.port = { s.port with lastReceiveWasBroadcast := flag } := by
    unfold BacnetNetwork.decode processDatagram
    obtain ⟨flag, hflag⟩ := bipPortDecodeDatagram_port env.unsigned16 env.bvlcDecodeHeader s.port.toBipPort d.bytes
      d.sender s.buffers env.maxPdu
    refine ⟨flag, ?_⟩
    dsimp only
    split
    · dsimp only
      rw [hflag]
    · dsimp only
      rw [hflag]
  have hrest : (s.decode env d).1 =
      { s with port := (s.decode env d).1.port, buffers := (s.decode env d).1.buffers } := rfl
  obtain ⟨flag, hflag⟩ := hport
  unfold BacnetNetwork.count
  split
  · exact ⟨⟨flag, _, _, _, by rw [hrest, hflag]⟩, fun h => h, fun _ h => absurd h List.not_mem_nil, rfl⟩
  · next h _ =>
    refine ⟨⟨flag, _, _, _, by rw [hrest, hflag]⟩, fun h => h, fun e he => ⟨h, ?_⟩, Nat.mod_mod _ _⟩
    exact List.mem_singleton.mp he

theorem bipReceive_received (env : BacnetEnv) (s : BacnetNetwork) (ready : Bool) :
    Reception s (BacnetNetwork.count (s.bipReceive env ready)).1
      (BacnetNetwork.count (s.bipReceive env ready)).2.1 := by
  unfold BacnetNetwork.bipReceive
  split
  · exact .refl s
  split
  · exact .refl s
  next d queue hqueue =>
  dsimp only
  split
  · exact .dequeue hqueue
  · exact (Reception.dequeue hqueue).trans (count_decode env _ _)

theorem pollLoop_received (env : BacnetEnv) (ready : Nat → Bool) (left i : Nat) (s : BacnetNetwork) :
    Reception s (BacnetNetwork.pollLoop env ready left i s).1
      (BacnetNetwork.pollLoop env ready left i s).2 := by
  induction left generalizing i s with
  | zero => exact .refl s
  | succ left ih =>
    have hone := bipReceive_received env s (ready i)
    unfold BacnetNetwork.pollLoop
    dsimp only
    split
    · exact hone.trans (ih _ _)
    · next hnone =>
      have hempty : (BacnetNetwork.count (s.bipReceive env (ready i))).2.1 = [] := by
        revert hnone
        generalize s.bipReceive env (ready i) = r
        unfold BacnetNetwork.count
        split
        · exact fun _ => rfl
        · exact fun h => absurd rfl h
      rw [hempty] at hone
      exact hone

/-! ## One call -/

/-- The seconds that are due at `t`. -/
def BacnetNetwork.dueSeconds (s : BacnetNetwork) (t : Nat) : Nat := (t - s.lastSecondMs) / 1000

/-- What a tick hands to the timers of the stack. -/
def BacnetNetwork.timers (s : BacnetNetwork) (t : Nat) : List NetworkEvent :=
  (if s.lastTimerMs < t then [.tsmTimer (min (t - s.lastTimerMs) 65535)] else []) ++
    if 0 < s.dueSeconds t then [.covTimer (min (s.dueSeconds t) UINT32_MAX)] else []

/-- The calls that read datagrams. -/
def NetworkInput.receives : NetworkInput → Bool
  | .poll _ => true
  | .process _ => true
  | _ => false

/-- What a call can do to a state that satisfies the invariant. -/
inductive NetworkStep (env : BacnetEnv) (s : BacnetNetwork) :
    NetworkInput → List NetworkEvent → BacnetNetwork → Prop
  | idle : (∀ t fsm, i = .tick t fsm → s.initialized = true → t < s.nowMs) → NetworkStep env s i [] s
  | started : s.initialized = false → TimerMs t → net.localIp ≠ Ipv4.zero →
    s'.initialized = true → s'.linkUp = true → s'.config = net → s'.nowMs = t → s'.startedMs = t →
    s'.lastTimerMs = t → s'.lastSecondMs = t → s'.nextAnnounceMs = t + 60000 → s'.port.socket = true →
    s'.port.Configured net → s'.queue = [] → s'.ethernetLink = true →
    s'.networkPort = (s'.networkProperties env).networkPort → events = s'.announcement env →
    s'.receivedPackets = 0 → s'.port.broadcastPort = s.port.broadcastPort →
    NetworkStep env s (.init calls input net t created) (.opened :: .initialized :: events) s'
  | closed : i = .shutdown ∨ s.initialized = false → p.socket = false →
    s' = { port := p, buffers := s.buffers } → p.broadcastPort = s.port.broadcastPort →
    NetworkStep env s i [] s'
  | lost : s.initialized = true → now = max s.nowMs t → TimerMs t → s'.initialized = true →
    s'.linkUp = false → s'.port.socket = false → s'.queue = [] → s'.nowMs = now →
    s'.startedMs = s.startedMs → s'.lastTimerMs = s.lastTimerMs → s'.lastSecondMs = s.lastSecondMs →
    s'.ethernetLink = false → s'.networkPort = (s'.networkProperties env).networkPort →
    s'.receivedPackets = s.receivedPackets → s'.port.broadcastPort = s.port.broadcastPort →
    NetworkStep env s (.update calls ip mask gw up t) [] s'
  | kept : s.initialized = true → s.linkUp = true → TimerMs t →
    s' = { s with nowMs := max s.nowMs t } →
    NetworkStep env s (.update calls s.config.localIp s.config.netmask s.config.gateway true t) [] s'
  | bound : s.initialized = true → (s.linkUp = true →
      s.config.localIp ≠ ip ∨ s.config.netmask ≠ mask ∨ s.config.gateway ≠ gw) → TimerMs t →
    ip ≠ Ipv4.zero → s'.initialized = true → s'.linkUp = true →
    s'.config = { s.config with localIp := ip, netmask := mask, gateway := gw } →
    s'.nowMs = max s.nowMs t → s'.startedMs = s.startedMs → s'.lastTimerMs = s.lastTimerMs →
    s'.lastSecondMs = s.lastSecondMs → s'.nextAnnounceMs = max s.nowMs t + 60000 →
    s'.port.socket = true → s'.port.Configured s'.config → s'.queue = [] → s'.ethernetLink = true →
    s'.networkPort = (s'.networkProperties env).networkPort → events = s'.announcement env →
    s'.receivedPackets = s.receivedPackets → s'.port.broadcastPort = s.port.broadcastPort →
    NetworkStep env s (.update calls ip mask gw true t) (.opened :: events) s'
  | tick : s.initialized = true → s.nowMs ≤ t → TimerMs t →
    s' = { s with
      nowMs := t
      lastTimerMs := t
      lastSecondMs := s.lastSecondMs + s.dueSeconds t * 1000
      nextAnnounceMs := next
      uptime := uptime
      packets := packets } →
    next = (if s.linkUp ∧ s.nextAnnounceMs ≤ t then t + 60000 else s.nextAnnounceMs) →
    (s.linkUp = false → rest = []) →
    (s.linkUp = true → ∃ calls, rest =
      .covFsm calls :: if s.nextAnnounceMs ≤ t then s.announcement env else []) →
    NetworkStep env s (.tick t fsm) (s.timers t ++ rest) s'
  | received : s.linkUp = true → i.receives = true → Reception s s' events → NetworkStep env s i events s'
  | arrived : s.linkUp = true → NetworkStep env s (.arrive d) [] { s with queue := s.queue ++ [d] }

/-- A session ends with `gateway_bacnet_shutdown`. -/
theorem NetworkStep.session (h : NetworkStep env s i events s') (hinit : s.initialized = true)
    (hkept : i ≠ .shutdown) : s'.initialized = true := by
  cases h with
  | idle => exact hinit
  | started _ _ _ h => exact h
  | closed hwhy =>
    rcases hwhy with hwhy | hwhy
    · exact absurd hwhy hkept
    · exact absurd (hwhy.symm.trans hinit) Bool.false_ne_true
  | lost _ _ _ h => exact h
  | kept _ _ _ hs' =>
    subst hs'
    exact hinit
  | bound _ _ _ _ h => exact h
  | tick _ _ _ hs' =>
    subst hs'
    exact hinit
  | received _ _ hreceived =>
    obtain ⟨flag, buffers, queue, packets, rfl⟩ := hreceived.frame
    exact hinit
  | arrived => exact hinit

theorem networkInv_init (env : BacnetEnv) : NetworkInv env {} where
  initialized h := Bool.noConfusion h
  socket := rfl
  queue _ := rfl
  address h := Bool.noConfusion h
  configured h := Bool.noConfusion h
  broadcastPort := rfl
  link h := Bool.noConfusion h
  networkPort h := Bool.noConfusion h
  now := by decide
  timer := Nat.le_refl 0
  second := Nat.le_refl 0
  started := Nat.le_refl 0

theorem NetworkStep.inv (H : NetworkInv env s) (h : NetworkStep env s i events s') : NetworkInv env s' := by
  cases h with
  | idle => exact H
  | started _ ht hip hinit hup hconfig hnow hstarted htimer hsecond _ hsocket hconf hqueue hlink hport _ _ hkept =>
    refine ⟨fun _ => hinit, hsocket.trans hup.symm, fun _ => hqueue, fun _ => ?_, fun _ => ?_,
      hkept.trans H.broadcastPort, fun _ => hlink.trans hup.symm, fun _ => hport, ?_, ?_, ?_, ?_⟩
    · rwa [hconfig]
    · rwa [hconfig]
    · rwa [hnow]
    · rw [htimer, hnow]
    · rw [hsecond, hnow]
    · rw [hstarted, hsecond]
  | closed _ hsocket hs' hkept =>
    subst hs'
    exact ⟨fun h => Bool.noConfusion h, hsocket, fun _ => rfl, fun h => Bool.noConfusion h,
      fun h => Bool.noConfusion h, hkept.trans H.broadcastPort, fun h => Bool.noConfusion h,
      fun h => Bool.noConfusion h, (networkInv_init env).now, Nat.le_refl 0, Nat.le_refl 0, Nat.le_refl 0⟩
  | lost _ hnow ht hinit hdown hsocket hqueue hnow' hstarted htimer hsecond hlink hport _ hkept =>
    have hup {P : Prop} (h : s'.linkUp = true) : P := absurd (hdown.symm.trans h) Bool.false_ne_true
    refine ⟨hup, hsocket.trans hdown.symm, fun _ => hqueue, hup, hup, hkept.trans H.broadcastPort,
      fun _ => hlink.trans hdown.symm, fun _ => hport, ?_, ?_, ?_, ?_⟩
    · rw [hnow', hnow]
      exact timerMs_max H.now ht
    · rw [htimer, hnow', hnow]
      exact H.timer.trans (Nat.le_max_left _ _)
    · rw [hsecond, hnow', hnow]
      exact H.second.trans (Nat.le_max_left _ _)
    · rw [hstarted, hsecond]
      exact H.started
  | kept hinit hup ht hs' =>
    subst hs'
    exact ⟨H.initialized, H.socket, H.queue, H.address, H.configured, H.broadcastPort, H.link, H.networkPort,
      timerMs_max H.now ht, H.timer.trans (Nat.le_max_left _ _), H.second.trans (Nat.le_max_left _ _), H.started⟩
  | bound _ _ ht hip hinit hup hconfig hnow hstarted htimer hsecond _ hsocket hconf hqueue hlink hport _ _ hkept =>
    refine ⟨fun _ => hinit, hsocket.trans hup.symm, fun _ => hqueue, fun _ => ?_, fun _ => hconf,
      hkept.trans H.broadcastPort, fun _ => hlink.trans hup.symm, fun _ => hport, ?_, ?_, ?_, ?_⟩
    · rwa [hconfig]
    · rw [hnow]
      exact timerMs_max H.now ht
    · rw [htimer, hnow]
      exact H.timer.trans (Nat.le_max_left _ _)
    · rw [hsecond, hnow]
      exact H.second.trans (Nat.le_max_left _ _)
    · rw [hstarted, hsecond]
      exact H.started
  | @tick t _ _ _ _ _ _ hinit hle ht hs' _ _ _ =>
    subst hs'
    have hdue : s.dueSeconds t * 1000 ≤ t - s.lastSecondMs := Nat.div_mul_le_self _ _
    have hsecond := H.second
    refine ⟨H.initialized, H.socket, H.queue, H.address, H.configured, H.broadcastPort, H.link, H.networkPort,
      ht, Nat.le_refl t, ?_, H.started.trans (Nat.le_add_right _ _)⟩
    show s.lastSecondMs + s.dueSeconds t * 1000 ≤ t
    omega
  | received hup _ hreceived =>
    obtain ⟨flag, buffers, queue, packets, rfl⟩ := hreceived.frame
    refine ⟨H.initialized, H.socket, fun h => ?_, H.address, fun h => ?_, H.broadcastPort, H.link,
      H.networkPort, H.now, H.timer, H.second, H.started⟩
    · exact absurd (H.socket.trans hup) (Bool.eq_false_iff.mp h)
    · obtain ⟨haddress, hport, hbroadcast, hgateway, hbits⟩ := H.configured h
      exact ⟨haddress, hport, hbroadcast, hgateway, hbits⟩
  | arrived hup =>
    exact ⟨H.initialized, H.socket, fun h => absurd (H.socket.trans hup) (Bool.eq_false_iff.mp h),
      H.address, H.configured, H.broadcastPort, H.link, H.networkPort, H.now, H.timer, H.second, H.started⟩

/-! ## Every call is a step -/

variable {env : BacnetEnv}

theorem announce_open {s : BacnetNetwork} (hup : s.linkUp = true) (hsocket : s.port.socket = true)
    (hnow : TimerMs s.nowMs) :
    s.announce env = ({ s with nextAnnounceMs := s.nowMs + 60000 }, s.announcement env) := by
  unfold BacnetNetwork.announce bipValid
  rw [if_neg (by rw [hup, hsocket]; decide), u64_of_lt hnow.lt]

theorem openSocket_cases (calls : SocketCalls) (s : BacnetNetwork) :
    s.openSocket calls = ({ s with port := { s.port with socket := true }, queue := [] }, true) ∨
    s.openSocket calls = ({ s with port := { s.port with socket := false }, queue := [] }, false) := by
  unfold BacnetNetwork.openSocket
  rcases bipInit_cases calls s.port with h | h
  · exact .inl (by rw [h])
  · exact .inr (by rw [h])

/-- The checks of `gateway_bacnet_init` include one for an address. -/
theorem bacnetInitChecks_address
    (h : bacnetInitChecks stack initialized (BacnetNetwork.configInput input net) = true) :
    initialized = false ∧ net.localIp ≠ Ipv4.zero := by
  unfold bacnetInitChecks validInput BacnetNetwork.configInput at h
  simp only [Bool.and_eq_true, Bool.not_eq_true', decide_eq_true_eq] at h
  refine ⟨h.1.1.1.1.1.1.1.1.1.1.1.1, fun hzero => h.1.1.1.1.1.1.1.2 ?_⟩
  rw [hzero]
  rfl

theorem gatewayBacnetInit_step (s : BacnetNetwork) (ht : TimerMs t) :
    NetworkStep env s (.init calls input net t created)
      (s.gatewayBacnetInit env calls input net t created).2.1
      (s.gatewayBacnetInit env calls input net t created).1 := by
  unfold BacnetNetwork.gatewayBacnetInit
  split
  · exact .idle fun t fsm h => by cases h
  next hchecks =>
  obtain ⟨hinit, hip⟩ := bacnetInitChecks_address (of_not_not hchecks)
  dsimp only
  split
  · exact .closed (.inr hinit) rfl rfl rfl
  generalize hs₁ : BacnetNetwork.networkProperties env _ = s₁
  rcases openSocket_cases calls s₁ with h | h
  · rw [h, if_neg (not_not_intro rfl)]
    dsimp only
    rw [announce_open (by rw [← hs₁]; rfl) rfl (by rw [← hs₁]; exact ht)]
    subst hs₁
    exact .started hinit ht hip rfl rfl rfl rfl rfl rfl rfl rfl rfl ⟨rfl, rfl, rfl, rfl, rfl⟩
      rfl rfl rfl rfl rfl rfl
  · rw [h, if_pos Bool.false_ne_true]
    subst hs₁
    exact .closed (.inr hinit) rfl rfl rfl

theorem bindSocket_cases (calls : SocketCalls) (needed : Bool) (s : BacnetNetwork) :
    needed = false ∧ s.bindSocket calls needed = (s, []) ∨
    needed = true ∧ s.bindSocket calls needed =
      ({ s with port := { s.port with socket := true }, queue := [] }, [.opened]) ∨
    needed = true ∧ s.bindSocket calls needed =
      ({ s with linkUp := false, port := { s.port with socket := false }, queue := [] }, []) := by
  unfold BacnetNetwork.bindSocket
  cases needed with
  | false => exact .inl ⟨rfl, rfl⟩
  | true =>
    rcases openSocket_cases calls s with h | h
    · exact .inr (.inl ⟨rfl, by rw [h]; rfl⟩)
    · exact .inr (.inr ⟨rfl, by rw [h]; rfl⟩)

theorem eq_of_unchanged {c : NetworkConfig} {ip mask gw : Ipv4}
    (h : ¬ (c.localIp ≠ ip ∨ c.netmask ≠ mask ∨ c.gateway ≠ gw)) :
    ip = c.localIp ∧ mask = c.netmask ∧ gw = c.gateway := by
  refine ⟨?_, ?_, ?_⟩
  · by_contra hne
    exact h (.inl fun heq => hne heq.symm)
  · by_contra hne
    exact h (.inr (.inl fun heq => hne heq.symm))
  · by_contra hne
    exact h (.inr (.inr fun heq => hne heq.symm))

theorem gatewayBacnetNetworkUpdate_step (H : NetworkInv env s) (ht : TimerMs t) :
    NetworkStep env s (.update calls ip mask gw up t)
      (s.gatewayBacnetNetworkUpdate env calls ip mask gw up t).2.1
      (s.gatewayBacnetNetworkUpdate env calls ip mask gw up t).1 := by
  unfold BacnetNetwork.gatewayBacnetNetworkUpdate
  split
  · exact .idle fun t fsm h => by cases h
  next hinit =>
  have hinit := of_not_not hinit
  have hnow : (if s.nowMs ≤ t then t else s.nowMs) = max s.nowMs t := by
    split
    · next hle => exact (Nat.max_eq_right hle).symm
    · next hlt => exact (Nat.max_eq_left (Nat.le_of_not_le hlt)).symm
  have hmax := timerMs_max H.now ht
  rw [hnow]
  dsimp only
  split
  · next hup =>
    have hlinkUp : up = true := ((Bool.and_eq_true _ _).mp hup).1
    have hip : ip ≠ Ipv4.zero := bne_iff_ne.mp ((Bool.and_eq_true _ _).mp hup).2
    subst hlinkUp
    have hsocket : s.port.socket = s.linkUp := H.socket
    rw [hup]
    generalize hs₁ : BacnetNetwork.setAddress _ ip mask gw = s₁
    have hvalid : bipValid s₁.port = s.linkUp := by
      rw [← hs₁]
      exact hsocket
    rw [hvalid]
    by_cases hmoved : s.linkUp = true →
        s.config.localIp ≠ ip ∨ s.config.netmask ≠ mask ∨ s.config.gateway ≠ gw
    · have hneeded : (!s.linkUp || decide (s.config.localIp ≠ ip ∨ s.config.netmask ≠ mask ∨
          s.config.gateway ≠ gw)) = true := by
        cases hlink : s.linkUp with
        | false => rfl
        | true => exact decide_eq_true (hmoved hlink)
      rw [hneeded]
      rcases bindSocket_cases calls (true || !s.linkUp) s₁ with ⟨h, -⟩ | ⟨-, h⟩ | ⟨-, h⟩
      · cases h
      · rw [h, if_pos (by rw [← hs₁]; rfl),
          announce_open (by rw [← hs₁]; rfl) rfl (by rw [← hs₁]; exact hmax)]
        subst hs₁
        exact .bound hinit hmoved ht hip hinit rfl rfl rfl rfl rfl rfl rfl rfl
          ⟨rfl, rfl, rfl, rfl, rfl⟩ rfl rfl rfl rfl rfl rfl
      · rw [h]
        subst hs₁
        exact .lost hinit rfl ht hinit rfl rfl rfl rfl rfl rfl rfl rfl rfl rfl rfl
    · obtain ⟨hlink, hsame⟩ := not_forall.mp hmoved
      obtain ⟨rfl, rfl, rfl⟩ := eq_of_unchanged hsame
      rw [hlink, decide_eq_false hsame]
      have hs : s₁ = { s with nowMs := max s.nowMs t } := by
        rw [← hs₁]
        unfold BacnetNetwork.setAddress
        dsimp only
        rw [(H.configured hlink).configure_eq, ← hlink]
      have hreport : s₁.reportLink env = s₁ := by
        rw [hs]
        show { s with
          nowMs := max s.nowMs t
          networkPort := (s.networkProperties env).networkPort
          ethernetLink := s.linkUp } = { s with nowMs := max s.nowMs t }
        rw [← H.networkPort hinit, ← H.link hinit]
      rcases bindSocket_cases calls (!true || false || !true) s₁ with ⟨-, h⟩ | ⟨h, -⟩ | ⟨h, -⟩
      · rw [h]
        dsimp only
        rw [hreport, Bool.not_true, Bool.or_false, Bool.and_false, if_neg Bool.false_ne_true]
        exact .kept hinit hlink ht hs
      · cases h
      · cases h
  · next hdown =>
    have hfalse : (up && ip != Ipv4.zero) = false := Bool.eq_false_iff.mpr hdown
    rw [hfalse]
    exact .lost hinit rfl ht hinit rfl rfl rfl rfl rfl rfl rfl rfl rfl rfl rfl

theorem elapsed_eq (hle : a ≤ b) (hb : TimerMs b) : BacnetNetwork.elapsed b a = b - a := by
  have hlt := hb.lt
  unfold BacnetNetwork.elapsed u64
  omega

theorem clampMs (n : Nat) : (if 65535 < n then 65535 else u16 n) = min n 65535 := by
  unfold u16
  split
  · next h => exact (Nat.min_eq_right (Nat.le_of_lt h)).symm
  · next h =>
    rw [Nat.min_eq_left (Nat.le_of_not_lt h)]
    omega

theorem clampSeconds (n : Nat) : (if UINT32_MAX < n then UINT32_MAX else u32 n) = min n UINT32_MAX := by
  unfold UINT32_MAX
  split
  · next h => exact (Nat.min_eq_right (Nat.le_of_lt h)).symm
  · next h => rw [Nat.min_eq_left (Nat.le_of_not_lt h), u32_of_lt (by omega)]

theorem tickTimer_eq {s : BacnetNetwork} (hle : s.lastTimerMs ≤ s.nowMs) (hnow : TimerMs s.nowMs) :
    s.tickTimer = ({ s with lastTimerMs := s.nowMs },
      if s.lastTimerMs < s.nowMs then [.tsmTimer (min (s.nowMs - s.lastTimerMs) 65535)] else []) := by
  have hself (t : Nat) (h : s.lastTimerMs = t) : { s with lastTimerMs := t } = s := by
    subst h
    rfl
  unfold BacnetNetwork.tickTimer
  rw [elapsed_eq hle hnow]
  dsimp only
  rw [clampMs]
  by_cases hlt : s.lastTimerMs < s.nowMs
  · rw [if_pos (Nat.sub_ne_zero_of_lt hlt), if_pos hlt]
  · have hsame : s.lastTimerMs = s.nowMs := Nat.le_antisymm hle (Nat.le_of_not_lt hlt)
    rw [if_neg (by omega), if_neg hlt, hself _ hsame]

theorem tickSecond_eq {s : BacnetNetwork} (hle : s.lastSecondMs ≤ s.nowMs) (hnow : TimerMs s.nowMs) :
    s.tickSecond = ({ s with lastSecondMs := s.lastSecondMs + s.dueSeconds s.nowMs * 1000 },
      if 0 < s.dueSeconds s.nowMs then [.covTimer (min (s.dueSeconds s.nowMs) UINT32_MAX)] else []) := by
  have hlt := hnow.lt
  have hdue : s.dueSeconds s.nowMs * 1000 ≤ s.nowMs - s.lastSecondMs := Nat.div_mul_le_self _ _
  have hfold : (s.nowMs - s.lastSecondMs) / 1000 = s.dueSeconds s.nowMs := rfl
  unfold BacnetNetwork.tickSecond
  rw [elapsed_eq hle hnow, hfold]
  dsimp only
  rw [clampSeconds, u64_of_lt (by omega : s.lastSecondMs + s.dueSeconds s.nowMs * 1000 < 2 ^ 64)]
  by_cases hpos : 0 < s.dueSeconds s.nowMs
  · rw [if_pos (Nat.ne_of_gt hpos), if_pos hpos]
  · have hzero : s.dueSeconds s.nowMs = 0 := Nat.eq_zero_of_not_pos hpos
    rw [if_neg (not_not_intro hzero), if_neg hpos, hzero, Nat.zero_mul, Nat.add_zero]

theorem tickLink_eq (env : BacnetEnv) {s : BacnetNetwork} (hsocket : s.port.socket = s.linkUp) (hnow : TimerMs s.nowMs)
    (fsm : Nat → Bool) : ∃ next rest, s.tickLink env fsm = ({ s with nextAnnounceMs := next }, rest) ∧
      next = (if s.linkUp ∧ s.nextAnnounceMs ≤ s.nowMs then s.nowMs + 60000 else s.nextAnnounceMs) ∧
      (s.linkUp = false → rest = []) ∧
      (s.linkUp = true → ∃ calls, rest =
        .covFsm calls :: if s.nextAnnounceMs ≤ s.nowMs then s.announcement env else []) := by
  unfold BacnetNetwork.tickLink
  by_cases hup : s.linkUp = true
  · rw [if_pos hup]
    by_cases hdue : s.nextAnnounceMs ≤ s.nowMs
    · rw [if_pos hdue, announce_open hup (hsocket.trans hup) hnow, if_pos ⟨hup, hdue⟩]
      exact ⟨_, _, rfl, rfl, fun h => absurd (h.symm.trans hup) Bool.false_ne_true,
        fun _ => ⟨_, by rw [if_pos hdue]⟩⟩
    · rw [if_neg hdue, if_neg fun h => hdue h.2]
      exact ⟨_, _, rfl, rfl, fun h => absurd (h.symm.trans hup) Bool.false_ne_true,
        fun _ => ⟨_, by rw [if_neg hdue]⟩⟩
  · rw [if_neg hup, if_neg fun h => hup h.1]
    exact ⟨_, _, rfl, rfl, fun _ => rfl, fun h => absurd h hup⟩

/-- A tick is its three parts, one after the other. -/
theorem gatewayBacnetTick_eq {s : BacnetNetwork} (hinit : s.initialized = true) (hle : s.nowMs ≤ t)
    (htimer : { s with nowMs := t }.tickTimer = (s₁, timer)) (hsecond : s₁.tickSecond = (s₂, second))
    (hlink : s₂.tickObjects.tickLink env fsm = (s₃, link)) :
    s.gatewayBacnetTick env t fsm = (s₃, timer ++ second ++ link) := by
  unfold BacnetNetwork.gatewayBacnetTick
  rw [if_neg (not_not_intro hinit), if_neg (Nat.not_lt.mpr hle), htimer]
  dsimp only
  rw [hsecond]
  dsimp only
  rw [hlink]

theorem gatewayBacnetTick_step (H : NetworkInv env s) (ht : TimerMs t) :
    NetworkStep env s (.tick t fsm) (s.gatewayBacnetTick env t fsm).2 (s.gatewayBacnetTick env t fsm).1 := by
  by_cases hinit : s.initialized = true
  · by_cases hle : s.nowMs ≤ t
    · have htimer := tickTimer_eq (s := { s with nowMs := t }) (H.timer.trans hle) ht
      have hsecond := tickSecond_eq (s := { s with nowMs := t, lastTimerMs := t }) (H.second.trans hle) ht
      obtain ⟨next, rest, hlink, hnext, hdown, hup⟩ := tickLink_eq env (s :=
        BacnetNetwork.tickObjects
          { s with
            nowMs := t
            lastTimerMs := t
            lastSecondMs := s.lastSecondMs + s.dueSeconds t * 1000 }) H.socket ht fsm
      rw [gatewayBacnetTick_eq hinit hle htimer hsecond hlink]
      exact .tick hinit hle ht rfl hnext hdown hup
    · have hidle : s.gatewayBacnetTick env t fsm = (s, []) := by
        unfold BacnetNetwork.gatewayBacnetTick
        rw [if_neg (not_not_intro hinit), if_pos (Nat.lt_of_not_le hle)]
      rw [hidle]
      refine .idle fun t' fsm' h _ => ?_
      cases h
      exact Nat.lt_of_not_le hle
  · have hidle : s.gatewayBacnetTick env t fsm = (s, []) := by
      unfold BacnetNetwork.gatewayBacnetTick
      rw [if_pos hinit]
    rw [hidle]
    exact .idle fun _ _ _ h => absurd h hinit

theorem networkCall_step (H : NetworkInv env s) (h : networkCall env s i = some (s', events)) :
    NetworkStep env s i events s' := by
  unfold networkCall at h
  split at h
  · split at h
    · next ht =>
      cases h
      exact gatewayBacnetInit_step s ht
    · cases h
  · split at h
    · next ht =>
      cases h
      exact gatewayBacnetNetworkUpdate_step H ht
    · cases h
  · next t fsm =>
    split at h
    · next ht =>
      have htick : s.gatewayBacnetTick env t fsm = (s', events) := Option.some.inj h
      have hstep : NetworkStep env s (.tick t fsm) (s.gatewayBacnetTick env t fsm).2
          (s.gatewayBacnetTick env t fsm).1 := gatewayBacnetTick_step H ht
      rwa [htick] at hstep
    · cases h
  · next ready =>
    have hpoll : s.gatewayBacnetPoll env ready = (s', events) := Option.some.inj h
    unfold BacnetNetwork.gatewayBacnetPoll at hpoll
    split at hpoll
    · cases hpoll
      exact .idle fun _ _ h => by cases h
    · next hup =>
      have hreceived := pollLoop_received env ready 16 0 s
      rw [hpoll] at hreceived
      exact .received (by_contra fun h => hup (.inr h)) rfl hreceived
  · next d =>
    cases h
    unfold BacnetNetwork.gatewayBacnetProcessDatagram
    split
    · exact .idle fun _ _ h => by cases h
    · next hup =>
      exact .received (by_contra fun h => hup (.inr h)) rfl (count_decode env s d)
  · cases h
    exact .closed (.inl rfl) rfl rfl rfl
  · split at h
    · next hsocket =>
      cases h
      exact .arrived (H.socket.symm.trans hsocket)
    · cases h

/-- A step of a run: the label is the call, the clock after it, and the events. -/
theorem networkSystem_step (H : NetworkInv env s) (h : (networkSystem env).step s l s') :
    l.time = s'.nowMs ∧ NetworkStep env s l.input l.events s' := by
  obtain ⟨i, hi⟩ := h
  obtain ⟨⟨s₁, events⟩, hcall, heq⟩ := Option.map_eq_some_iff.mp hi
  cases heq
  exact ⟨rfl, networkCall_step H hcall⟩

theorem networkSystem_inv (run : (networkSystem env).Run h s) : NetworkInv env s := by
  refine run.invariant (I := fun _ s => NetworkInv env s) (fun s hs => ?_) fun h s l s' _ H hstep => ?_
  · cases hs
    exact networkInv_init env
  · exact (networkSystem_step H hstep).2.inv H

end ModbusGateway
