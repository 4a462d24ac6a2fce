import ModbusGateway.Verify.NetworkRun

/-!
# Datagrams in the socket

`gateway_bacnet_poll` takes datagrams from the socket in the order in which they came. Since the socket was
opened, what was handled and what of the waiting datagrams is for the gateway make up all that came for
it.
-/

namespace ModbusGateway

variable {env : BacnetEnv}

def NetworkEvent.handled? : NetworkEvent → Option Handled
  | .handled h => some h
  | _ => none

/-- What the handlers see of a datagram that is read into the frame buffer. -/
def accepted (env : BacnetEnv) (own : BipAddress) (d : Datagram) : Option Handled :=
  (processDatagram env.unsigned16 env.bvlcDecodeHeader env.maxPdu
    { port := { address := own.address, port := own.port } }
    { d with bytes := d.bytes.take env.mpduMax }).2

/-- The result does not depend on what was received before. -/
theorem processDatagram_accepted (hu : env.unsigned16.BigEndian)
    (hheader : DecodesHeader env.bvlcDecodeHeader) (r : BipReceiver)
    (d : Datagram) :
    (processDatagram env.unsigned16 env.bvlcDecodeHeader env.maxPdu r { d with bytes := d.bytes.take env.mpduMax }).2 =
      accepted env r.port.own d := by
  have H := processDatagram_handled hu hheader env.maxPdu r { d with bytes := d.bytes.take env.mpduMax }
  have H' := processDatagram_handled hu hheader env.maxPdu
    { port := { address := r.port.own.address, port := r.port.own.port } }
    { d with bytes := d.bytes.take env.mpduMax }
  unfold accepted
  by_cases hintended : Datagram.Intended { d with bytes := d.bytes.take env.mpduMax } r.port.own env.maxPdu
  · rw [H.2.1 hintended, H'.2.1 hintended]
  · rw [H.2.2 hintended, H'.2.2 hintended]

theorem accepted_empty (own : BipAddress) (hempty : d.bytes.take env.mpduMax = []) :
    accepted env own d = none := by
  unfold accepted
  rw [hempty]
  rfl

/-! ## One turn of the loop -/

/-- What one turn, or some of them, took from the socket: what was handled is what was at the head of
the queue for the gateway, and `dropped` datagrams were not for it. -/
structure Drained (env : BacnetEnv) (s : BacnetNetwork) (events : List NetworkEvent) (dropped : Nat)
    (s' : BacnetNetwork) : Prop where
  own : s'.port.own = s.port.own
  split : events.filterMap NetworkEvent.handled? ++ s'.queue.filterMap (accepted env s.port.own) =
    s.queue.filterMap (accepted env s.port.own)
  length : s.queue.length = s'.queue.length + events.length + dropped

theorem Drained.refl (s : BacnetNetwork) : Drained env s [] 0 s := ⟨rfl, rfl, rfl⟩

theorem Drained.trans (h : Drained env s events dropped s₁) (h' : Drained env s₁ events' dropped' s₂) :
    Drained env s (events ++ events') (dropped + dropped') s₂ where
  own := h'.own.trans h.own
  split := by
    rw [List.filterMap_append, List.append_assoc, ← h.split, ← h.own, h'.split]
  length := by
    rw [h.length, h'.length, List.length_append]
    omega

theorem count_decode_own (env : BacnetEnv) (s : BacnetNetwork) (d : Datagram) :
    (BacnetNetwork.count (s.decode env d)).1.port.own = s.port.own := by
  obtain ⟨flag, buffers, queue, packets, heq⟩ := (count_decode env s d).frame
  rw [heq]
  rfl

/-- A datagram that is read is handled if it is for the gateway, and dropped otherwise. -/
theorem count_decode_drained (hu : env.unsigned16.BigEndian)
    (hheader : DecodesHeader env.bvlcDecodeHeader) {s : BacnetNetwork}
    (hqueue : s.queue = d :: rest) :
    let r := BacnetNetwork.count
      (BacnetNetwork.decode env { s with queue := rest } { d with bytes := d.bytes.take env.mpduMax })
    Drained env s r.2.1 (if r.2.2 then 0 else 1) r.1 ∧ r.2.1.length = if r.2.2 then 1 else 0 := by
  have haccepted := processDatagram_accepted hu hheader ⟨s.port.toBipPort, s.buffers⟩ d
  have hown := count_decode_own env { s with queue := rest }
    { d with bytes := d.bytes.take env.mpduMax }
  revert hown
  unfold BacnetNetwork.decode
  generalize processDatagram env.unsigned16 env.bvlcDecodeHeader env.maxPdu ⟨s.port.toBipPort, s.buffers⟩
    { d with bytes := d.bytes.take env.mpduMax } = r at haccepted ⊢
  obtain ⟨r, result⟩ := r
  dsimp only at haccepted ⊢
  have haccepted : result = accepted env s.port.own d := haccepted
  cases result with
  | none =>
    refine fun hown => ⟨⟨hown, ?_, ?_⟩, rfl⟩
    · rw [hqueue, List.filterMap_cons_none haccepted.symm]
      rfl
    · rw [hqueue]
      rfl
  | some h =>
    refine fun hown => ⟨⟨hown, ?_, ?_⟩, rfl⟩
    · rw [hqueue, List.filterMap_cons_some haccepted.symm]
      rfl
    · rw [hqueue]
      rfl

theorem bipReceive_drained (hu : env.unsigned16.BigEndian)
    (hheader : DecodesHeader env.bvlcDecodeHeader) (s : BacnetNetwork)
    (ready : Bool) :
    let r := BacnetNetwork.count (s.bipReceive env ready)
    ∃ dropped, Drained env s r.2.1 dropped r.1 ∧ r.2.1.length = (if r.2.2 then 1 else 0) ∧
      dropped ≤ if r.2.2 then 0 else 1 := by
  unfold BacnetNetwork.bipReceive
  split
  · exact ⟨0, .refl s, rfl, Nat.zero_le _⟩
  split
  · exact ⟨0, .refl s, rfl, Nat.zero_le _⟩
  next d rest hqueue =>
  dsimp only
  split
  · next hempty =>
    refine ⟨1, ⟨rfl, ?_, ?_⟩, rfl, Nat.le_refl 1⟩
    · rw [hqueue, List.filterMap_cons_none (accepted_empty s.port.own hempty)]
      rfl
    · rw [hqueue]
      rfl
  · obtain ⟨hdrained, hlength⟩ := count_decode_drained hu hheader hqueue
    exact ⟨_, hdrained, hlength, Nat.le_refl _⟩

/-- A poll handles one datagram a turn and stops at the first that is not for the gateway. -/
theorem pollLoop_drained (hu : env.unsigned16.BigEndian)
    (hheader : DecodesHeader env.bvlcDecodeHeader) (ready : Nat → Bool)
    (left i : Nat) (s : BacnetNetwork) :
    ∃ dropped, Drained env s (BacnetNetwork.pollLoop env ready left i s).2 dropped
        (BacnetNetwork.pollLoop env ready left i s).1 ∧
      (BacnetNetwork.pollLoop env ready left i s).2.length ≤ left ∧ dropped ≤ 1 := by
  induction left generalizing i s with
  | zero => exact ⟨0, .refl s, Nat.le_refl 0, Nat.zero_le 1⟩
  | succ left ih =>
    obtain ⟨dropped, hone, hlength, hdropped⟩ := bipReceive_drained hu hheader s (ready i)
    unfold BacnetNetwork.pollLoop
    generalize BacnetNetwork.count (s.bipReceive env (ready i)) = r at hone hlength hdropped ⊢
    obtain ⟨s₁, events, handled⟩ := r
    cases handled with
    | true =>
      obtain ⟨dropped', hrest, hlength', hdropped'⟩ := ih (i + 1) s₁
      refine ⟨dropped + dropped', hone.trans hrest, ?_, ?_⟩
      · show (events ++ _).length ≤ left + 1
        rw [List.length_append]
        exact (Nat.add_le_add (Nat.le_of_eq hlength) hlength').trans_eq (Nat.add_comm 1 left)
      · exact (Nat.add_le_add hdropped hdropped').trans_eq rfl
    | false =>
      have hempty : events = [] := List.eq_nil_of_length_eq_zero hlength
      subst hempty
      exact ⟨dropped, hone, Nat.zero_le _, hdropped⟩

/-! ## Over a run -/

/-- The datagrams that a label's poll handled. -/
def NetworkLabel.polled (l : NetworkLabel) : List Handled :=
  match l.input with
  | .poll _ => l.events.filterMap NetworkEvent.handled?
  | _ => []

/-- The datagram that came with a label. -/
def NetworkLabel.arrived (l : NetworkLabel) : List Datagram :=
  match l.input with
  | .arrive d => [d]
  | _ => []

/-- What the labels since the socket was opened give, oldest first. -/
def sinceOpened (f : NetworkLabel → List β) : List NetworkLabel → List β
  | [] => []
  | l :: h => if NetworkEvent.opened ∈ l.events then [] else sinceOpened f h ++ f l

/-- A call that leaves the link up opens a socket, or what it handles and what then waits is what waited
and what came. -/
structure QueueStep (env : BacnetEnv) (s : BacnetNetwork) (l : NetworkLabel) (s' : BacnetNetwork) :
    Prop where
  own : s'.port.own = s.port.own
  split : l.polled ++ s'.queue.filterMap (accepted env s.port.own) =
    (s.queue ++ l.arrived).filterMap (accepted env s.port.own)

theorem QueueStep.quiet (hport : s'.port.own = s.port.own) (hqueue : s'.queue = s.queue)
    (hpolled : l.polled = []) (harrived : l.arrived = []) : QueueStep env s l s' := by
  refine ⟨hport, ?_⟩
  rw [hpolled, harrived, hqueue, List.append_nil]
  rfl

theorem NetworkStep.queue_quiet (hstep : NetworkStep env s i events s') (hup : s'.linkUp = true)
    (hopened : .opened ∉ events) (hreceives : i.receives = false) (harrive : ∀ d, i ≠ .arrive d) :
    s'.port.own = s.port.own ∧ s'.queue = s.queue := by
  cases hstep with
  | idle => exact ⟨rfl, rfl⟩
  | started => exact absurd List.mem_cons_self hopened
  | closed _ _ hs' =>
    subst hs'
    cases hup
  | lost _ _ _ _ hdown => exact absurd (hdown.symm.trans hup) Bool.false_ne_true
  | kept _ _ _ hs' =>
    subst hs'
    exact ⟨rfl, rfl⟩
  | bound => exact absurd List.mem_cons_self hopened
  | tick _ _ _ hs' =>
    subst hs'
    exact ⟨rfl, rfl⟩
  | received _ h => exact absurd (hreceives.symm.trans h) Bool.false_ne_true
  | arrived => exact absurd rfl (harrive _)

theorem gatewayBacnetPoll_drained (hu : env.unsigned16.BigEndian)
    (hheader : DecodesHeader env.bvlcDecodeHeader) (s : BacnetNetwork)
    (ready : Nat → Bool) :
    ∃ dropped, Drained env s (s.gatewayBacnetPoll env ready).2 dropped (s.gatewayBacnetPoll env ready).1 ∧
      (s.gatewayBacnetPoll env ready).2.length ≤ 16 ∧ dropped ≤ 1 := by
  unfold BacnetNetwork.gatewayBacnetPoll
  split
  · exact ⟨0, .refl s, Nat.zero_le 16, Nat.zero_le 1⟩
  · exact pollLoop_drained hu hheader ready 16 0 s

theorem queueStep (hu : env.unsigned16.BigEndian)
    (hheader : DecodesHeader env.bvlcDecodeHeader) (H : NetworkInv env s)
    (hcall : networkCall env s i = some (s', events)) (hup : s'.linkUp = true)
    (hopened : .opened ∉ events) : QueueStep env s ⟨i, t, events⟩ s' := by
  have hstep := networkCall_step H hcall
  have hquiet (hreceives : i.receives = false) (harrive : ∀ d, i ≠ .arrive d) :=
    hstep.queue_quiet hup hopened hreceives harrive
  cases i with
  | init => exact .quiet (hquiet rfl fun _ h => by cases h).1 (hquiet rfl fun _ h => by cases h).2 rfl rfl
  | update => exact .quiet (hquiet rfl fun _ h => by cases h).1 (hquiet rfl fun _ h => by cases h).2 rfl rfl
  | tick => exact .quiet (hquiet rfl fun _ h => by cases h).1 (hquiet rfl fun _ h => by cases h).2 rfl rfl
  | shutdown =>
    exact .quiet (hquiet rfl fun _ h => by cases h).1 (hquiet rfl fun _ h => by cases h).2 rfl rfl
  | poll ready =>
    obtain ⟨dropped, hdrained, -⟩ := gatewayBacnetPoll_drained hu hheader s ready
    have hpoll : s.gatewayBacnetPoll env ready = (s', events) := Option.some.inj hcall
    rw [hpoll] at hdrained
    refine ⟨hdrained.own, ?_⟩
    show _ = (s.queue ++ []).filterMap _
    rw [List.append_nil]
    exact hdrained.split
  | process d =>
    have hs' : (s.gatewayBacnetProcessDatagram env d).1 = s' := congrArg Prod.fst (Option.some.inj hcall)
    subst hs'
    unfold BacnetNetwork.gatewayBacnetProcessDatagram
    split
    · exact .quiet rfl rfl rfl rfl
    · have hqueue : (BacnetNetwork.count (s.decode env d)).1.queue = s.queue := by
        unfold BacnetNetwork.count
        split
        · rfl
        · rfl
      exact .quiet (count_decode_own env s d) hqueue rfl rfl
  | arrive d =>
    have harrive : (if s.port.socket then some ({ s with queue := s.queue ++ [d] }, []) else none) =
        some (s', events) := hcall
    split at harrive
    · cases harrive
      exact ⟨rfl, rfl⟩
    · cases harrive

/-- What was handled by polls since the socket was opened, and what of the queue is for the gateway, are all
that came for it, in order. -/
def InOrder (env : BacnetEnv) (h : List NetworkLabel) (s : BacnetNetwork) : Prop :=
  s.linkUp = true →
    sinceOpened NetworkLabel.polled h ++ s.queue.filterMap (accepted env s.port.own) =
      (sinceOpened NetworkLabel.arrived h).filterMap (accepted env s.port.own)

theorem NetworkStep.opened_queue (hstep : NetworkStep env s i events s') (hopened : .opened ∈ events) :
    s'.queue = [] := by
  cases hstep with
  | idle => cases hopened
  | started _ _ _ _ _ _ _ _ _ _ _ _ _ hqueue => exact hqueue
  | closed => cases hopened
  | lost => cases hopened
  | kept => cases hopened
  | bound _ _ _ _ _ _ _ _ _ _ _ _ _ _ hqueue => exact hqueue
  | tick _ _ _ _ _ hdown hup =>
    rcases List.mem_append.mp hopened with hmem | hmem
    · rcases mem_timers hmem with ⟨n, h⟩ | ⟨n, h⟩
      · cases h
      · cases h
    · exact Bool.noConfusion (tickRest_traffic hdown hup _ hmem)
  | received _ _ hreceived =>
    obtain ⟨_, h⟩ := hreceived.handled _ hopened
    cases h
  | arrived => cases hopened

/-- Where the link stays up and no socket is opened, it was up before. -/
theorem NetworkStep.linkUp_before (hstep : NetworkStep env s i events s') (hup : s'.linkUp = true)
    (hopened : .opened ∉ events) : s.linkUp = true := by
  cases hstep with
  | idle => exact hup
  | started => exact absurd List.mem_cons_self hopened
  | closed _ _ hs' =>
    subst hs'
    cases hup
  | lost _ _ _ _ hdown => exact absurd (hdown.symm.trans hup) Bool.false_ne_true
  | kept _ h _ _ => exact h
  | bound => exact absurd List.mem_cons_self hopened
  | tick _ _ _ hs' =>
    subst hs'
    exact hup
  | received h _ _ => exact h
  | arrived h => exact h

theorem inOrder_step (hu : env.unsigned16.BigEndian)
    (hheader : DecodesHeader env.bvlcDecodeHeader) (H : NetworkInv env s)
    (O : InOrder env h s) (hcall : networkCall env s i = some (s', events)) :
    InOrder env (⟨i, t, events⟩ :: h) s' := by
  intro hup
  have hstep := networkCall_step H hcall
  unfold sinceOpened
  by_cases hopened : NetworkEvent.opened ∈ events
  · rw [if_pos hopened, if_pos hopened, hstep.opened_queue hopened]
    rfl
  · have Q : QueueStep env s ⟨i, t, events⟩ s' := queueStep hu hheader H hcall hup hopened
    rw [if_neg hopened, if_neg hopened, Q.own, List.filterMap_append,
      ← O (hstep.linkUp_before hup hopened), List.append_assoc, List.append_assoc, Q.split,
      List.filterMap_append]

/-! ## Counting -/

def NetworkEvent.packets : NetworkEvent → Nat
  | .handled _ => 1
  | _ => 0

theorem handed_packets (h : ∀ e ∈ events, ∃ x, e = NetworkEvent.handled x) :
    handed NetworkEvent.packets events = events.length := by
  induction events with
  | nil => rfl
  | cons e events ih =>
    obtain ⟨x, rfl⟩ := h e List.mem_cons_self
    rw [handed_cons, ih fun e he => h e (List.mem_cons_of_mem _ he), List.length_cons, Nat.add_comm]
    rfl

theorem announcement_packets (s : BacnetNetwork) : handed NetworkEvent.packets (s.announcement env) = 0 := by
  refine handed_eq_zero fun e he => ?_
  rcases List.mem_cons.mp he with rfl | he
  · rfl
  · obtain ⟨peer, -, rfl⟩ := List.mem_map.mp he
    rfl

theorem tick_packets {s : BacnetNetwork} (hdown : s.linkUp = false → rest = [])
    (hup : s.linkUp = true → ∃ calls, rest =
      .covFsm calls :: if s.nextAnnounceMs ≤ t then s.announcement env else []) :
    handed NetworkEvent.packets (s.timers t ++ rest) = 0 := by
  have htimers : handed NetworkEvent.packets (s.timers t) = 0 := by
    refine handed_eq_zero fun e he => ?_
    rcases mem_timers he with ⟨n, rfl⟩ | ⟨n, rfl⟩
    · rfl
    · rfl
  rw [handed_append, htimers, Nat.zero_add]
  by_cases hlink : s.linkUp = true
  · obtain ⟨calls, rfl⟩ := hup hlink
    rw [handed_cons]
    split
    · rw [announcement_packets]
      rfl
    · rfl
  · rw [hdown (Bool.eq_false_iff.mpr hlink)]
    rfl

theorem NetworkStep.packets (hstep : NetworkStep env s i events s') (hinit : s'.initialized = true)
    (hfresh : .initialized ∉ events) :
    s'.receivedPackets % 2 ^ 32 = (s.receivedPackets + handed NetworkEvent.packets events) % 2 ^ 32 := by
  cases hstep with
  | idle => rfl
  | started => exact absurd (List.mem_cons_of_mem _ List.mem_cons_self) hfresh
  | closed _ _ hs' =>
    subst hs'
    cases hinit
  | lost _ _ _ _ _ _ _ _ _ _ _ _ _ hpackets =>
    rw [hpackets]
    rfl
  | kept _ _ _ hs' =>
    subst hs'
    rfl
  | bound _ _ _ _ _ _ _ _ _ _ _ _ _ _ _ _ _ hsent hpackets =>
    rw [hsent, handed_cons, announcement_packets, hpackets]
    rfl
  | tick _ _ _ hs' _ hdown hup =>
    subst hs'
    rw [tick_packets hdown hup]
    rfl
  | received _ _ hreceived =>
    rw [handed_packets hreceived.handled]
    exact hreceived.counted
  | arrived => rfl

theorem NetworkStep.fresh_packets (hstep : NetworkStep env s i events s') (hfresh : .initialized ∈ events) :
    s'.receivedPackets = 0 := by
  cases hstep with
  | idle => cases hfresh
  | started _ _ _ _ _ _ _ _ _ _ _ _ _ _ _ _ _ hpackets => exact hpackets
  | closed => cases hfresh
  | lost => cases hfresh
  | kept => cases hfresh
  | @bound _ _ _ _ _ _ _ _ _ _ _ _ _ _ _ _ _ _ _ _ _ _ _ _ hsent _ =>
    rw [hsent] at hfresh
    rcases List.mem_cons.mp hfresh with h | hmem
    · cases h
    · exact absurd hmem (initialized_not_traffic (announcement_traffic s'))
  | tick _ _ _ _ _ hdown hup =>
    rcases List.mem_append.mp hfresh with hmem | hmem
    · exact absurd hmem (initialized_not_timer s _)
    · exact absurd hmem (initialized_not_traffic (tickRest_traffic hdown hup))
  | received _ _ hreceived =>
    obtain ⟨_, h⟩ := hreceived.handled _ hfresh
    cases h
  | arrived => cases hfresh

/-- `received_packets` counts what was handled since the session started, modulo 2^32. -/
def PacketsCounted (h : List NetworkLabel) (s : BacnetNetwork) : Prop :=
  s.initialized = true → s.receivedPackets % 2 ^ 32 = sinceStart NetworkEvent.packets h % 2 ^ 32

theorem packetsCounted_step (C : PacketsCounted h s) (hstep : NetworkStep env s l.input l.events s') :
    PacketsCounted (l :: h) s' := by
  intro hinit
  unfold sinceStart
  have hkept (hfresh : .initialized ∉ l.events) (hbefore : s.initialized = true) :
      s'.receivedPackets % 2 ^ 32 =
        (handed NetworkEvent.packets l.events + sinceStart NetworkEvent.packets h) % 2 ^ 32 := by
    have hstart := C hbefore
    rw [hstep.packets hinit hfresh]
    omega
  cases hstep.clock hinit with
  | fresh hfresh => rw [if_pos hfresh, hstep.fresh_packets hfresh]
  | tick hfresh hbefore =>
    rw [if_neg hfresh]
    exact hkept hfresh hbefore
  | still hfresh hbefore =>
    rw [if_neg hfresh]
    exact hkept hfresh hbefore

/-- Polls handle the datagrams for the gateway in the order in which they came to the socket, each once,
and none is lost while the socket stays open; a poll takes at most 16 and drops at most one. The packets
of a session are counted modulo 2^32. -/
theorem datagrams_in_order (hu : env.unsigned16.BigEndian)
    (hheader : DecodesHeader env.bvlcDecodeHeader)
    (run : (networkSystem env).Run h s) :
    (s.linkUp = true →
      sinceOpened NetworkLabel.polled h ++ s.queue.filterMap (accepted env s.port.own) =
        (sinceOpened NetworkLabel.arrived h).filterMap (accepted env s.port.own)) ∧
    (s.initialized = true → s.receivedPackets % 2 ^ 32 = sinceStart NetworkEvent.packets h % 2 ^ 32) ∧
    ∀ ready, (s.gatewayBacnetPoll env ready).2.length ≤ 16 ∧
      s.queue.length ≤
        (s.gatewayBacnetPoll env ready).1.queue.length + (s.gatewayBacnetPoll env ready).2.length + 1 := by
  have H : NetworkInv env s ∧ InOrder env h s ∧ PacketsCounted h s := by
    refine run.invariant (I := fun h s => NetworkInv env s ∧ InOrder env h s ∧ PacketsCounted h s)
      (fun s hs => ?_) fun h s l s' _ H hl => ?_
    · cases hs
      exact ⟨networkInv_init env, fun h => Bool.noConfusion h, fun h => Bool.noConfusion h⟩
    · obtain ⟨-, hstep⟩ := networkSystem_step H.1 hl
      obtain ⟨i, hi⟩ := hl
      obtain ⟨⟨s₁, events⟩, hcall, heq⟩ := Option.map_eq_some_iff.mp hi
      cases heq
      exact ⟨hstep.inv H.1, inOrder_step hu hheader H.1 H.2.1 hcall, packetsCounted_step H.2.2 hstep⟩
  refine ⟨H.2.1, H.2.2, fun ready => ?_⟩
  obtain ⟨dropped, hdrained, hlength, hdropped⟩ := gatewayBacnetPoll_drained hu hheader s ready
  refine ⟨hlength, ?_⟩
  rw [hdrained.length]
  exact Nat.add_le_add_left hdropped _

/-- Another gateway sends a Who-Is and something else; a poll handles the first and drops the other. -/
theorem datagrams_in_order_session :
    let s := (session [.arrive globalWhoIs, .arrive { globalWhoIs with bytes := [0x81, 0x0a] },
      .poll fun _ => true]).2
    s.queue = [] ∧ s.receivedPackets = 1 ∧
    sinceOpened NetworkLabel.polled (session [.arrive globalWhoIs,
        .arrive { globalWhoIs with bytes := [0x81, 0x0a] }, .poll fun _ => true]).1 =
      [globalWhoIs, { globalWhoIs with bytes := [0x81, 0x0a] }].filterMap
        (accepted sessionEnv s.port.own) := by
  have hheader : DecodesHeader readHeader := ⟨fun frame hlong htype => if_pos ⟨hlong, htype⟩⟩
  have hqueue : (session [.arrive globalWhoIs, .arrive { globalWhoIs with bytes := [0x81, 0x0a] },
      .poll fun _ => true]).2.queue = [] := by rfl
  have horder := (datagrams_in_order bacnetUnsigned16_bigEndian hheader (session_run [.arrive globalWhoIs,
    .arrive { globalWhoIs with bytes := [0x81, 0x0a] }, .poll fun _ => true])).1 (by decide)
  rw [hqueue] at horder
  exact ⟨hqueue, by decide, (List.append_nil _).symm.trans horder⟩

end ModbusGateway
