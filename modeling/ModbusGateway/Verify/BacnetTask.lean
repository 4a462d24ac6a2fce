import ModbusGateway.App.BacnetTask
import ModbusGateway.Verify.NetworkRun

/-!
# The BACnet task and the network

The stack as `bacnet_task` drives it is a run of the network side, so that what holds of its runs holds of
the device. Where the generation of the task is that of the network, the stack has the link and the
address that the network has.
-/

namespace ModbusGateway

variable {c : TaskConfig}

/-- The steps of the task and of what is around it. -/
inductive TaskStep (c : TaskConfig) (s : BacnetTask) : TaskLabel → BacnetTask → Prop
  | clock : TimerMs (s.clock + ms) → TaskStep c s ⟨.clock ms, [], none⟩ { s with clock := s.clock + ms }
  | network : TaskStep c s ⟨.network info, [], none⟩ (s.networkEvent info)
  | arrive : s.bacnet.port.socket = true → TaskStep c s ⟨.arrive d, [], none⟩
      { s with bacnet := { s.bacnet with queue := s.bacnet.queue ++ [d] } }
  | sample : s.pc = .sample → TaskStep c s ⟨.sample, [], none⟩ { s with pc := .start s.sampled }
  | start : s.pc = .start n → s.startStack c n s.clock calls created = (s₁, events) →
      TaskStep c s ⟨.start calls created, events, none⟩
        { s₁ with pc := if s₁.started then .rebind n s.clock else .sample }
  | rebind : s.pc = .rebind n now → s.rebindStack c n now calls = (s₁, events) →
      TaskStep c s ⟨.rebind calls, events, none⟩ { s₁ with pc := .update now }
  | due : s.pc = .update now → s.nextUpdate ≤ now →
      TaskStep c s ⟨.update, [], some now⟩ { s with nextUpdate := u64 (now + 200), pc := .tick now }
  | early : s.pc = .update now → now < s.nextUpdate →
      TaskStep c s ⟨.update, [], none⟩ { s with pc := .tick now }
  | tick : s.pc = .tick now → s.bacnet.gatewayBacnetTick c.env now fsm = (bacnet, events) →
      TaskStep c s ⟨.tick fsm, events, none⟩ { s with bacnet := bacnet, pc := .poll }
  | poll : s.pc = .poll → s.bacnet.gatewayBacnetPoll c.env ready = (bacnet, events) →
      TaskStep c s ⟨.poll ready, events, none⟩ { s with bacnet := bacnet, pc := .publish }
  | publish : s.pc = .publish → TaskStep c s ⟨.publish, [], none⟩ { s.publishStats with pc := .sample }

theorem taskNext_step (h : taskNext c s i = some (l, s')) : TaskStep c s l s' := by
  unfold taskNext at h
  cases i with
  | clock ms =>
    dsimp only at h
    split at h
    · next ht =>
      cases h
      exact .clock ht
    · cases h
  | network info =>
    cases h
    exact .network
  | arrive d =>
    dsimp only at h
    split at h
    · next hsocket =>
      cases h
      exact .arrive hsocket
    · cases h
  | sample =>
    dsimp only at h
    split at h
    · next hpc =>
      cases h
      exact .sample hpc
    · cases h
  | start calls created =>
    dsimp only at h
    split at h
    · next n hpc =>
      cases h
      exact .start hpc rfl
    · cases h
  | rebind calls =>
    dsimp only at h
    split at h
    · next n now hpc =>
      cases h
      exact .rebind hpc rfl
    · cases h
  | update =>
    dsimp only at h
    split at h
    · next now hpc =>
      split at h
      · next hdue =>
        cases h
        exact .due hpc hdue
      · next hearly =>
        cases h
        exact .early hpc (Nat.lt_of_not_le hearly)
    · cases h
  | tick fsm =>
    dsimp only at h
    split at h
    · next now hpc =>
      cases h
      exact .tick hpc rfl
    · cases h
  | poll ready =>
    dsimp only at h
    split at h
    · next hpc =>
      cases h
      exact .poll hpc rfl
    · cases h
  | publish =>
    dsimp only at h
    split at h
    · next hpc =>
      cases h
      exact .publish hpc
    · cases h

theorem taskSystem_step (h : (taskSystem c).step s l s') : TaskStep c s l s' := by
  obtain ⟨i, hi⟩ := h
  exact taskNext_step hi

/-! ## The task drives the stack -/

/-- The reading of the clock that an iteration works with. -/
def BacnetTaskPc.now? : BacnetTaskPc → Option Nat
  | .rebind _ now => some now
  | .update now => some now
  | .tick now => some now
  | _ => none

/-- What passes of the clock in a step. -/
def TaskLabel.passed (l : TaskLabel) : Nat :=
  match l.input with
  | .clock ms => ms
  | _ => 0

/-- The clock at the end of a run. -/
def clockAt (h : List TaskLabel) : Nat := (h.map TaskLabel.passed).sum

/-- What the clock was when it was last read: an iteration reads it once. -/
def readingAt : List TaskLabel → Nat
  | [] => 0
  | l :: h =>
    match l.input with
    | .start _ _ => clockAt h
    | _ => readingAt h

theorem clockAt_mono (l : TaskLabel) (h : List TaskLabel) : clockAt h ≤ clockAt (l :: h) := by
  unfold clockAt
  rw [List.map_cons, List.sum_cons]
  exact Nat.le_add_left _ _

theorem clockAt_kept {l : TaskLabel} (hl : l.passed = 0) (h : List TaskLabel) :
    clockAt (l :: h) = clockAt h := by
  unfold clockAt
  rw [List.map_cons, List.sum_cons, hl, Nat.zero_add]

theorem readingAt_le_clockAt : (h : List TaskLabel) → readingAt h ≤ clockAt h
  | [] => Nat.le_refl _
  | l :: h => by
    have ih := (readingAt_le_clockAt h).trans (clockAt_mono l h)
    unfold readingAt
    split
    · exact clockAt_mono l h
    · exact ih

/-- The clock is that of the timer and has run since the start; the iteration works with the last reading. -/
structure TaskClock (h : List TaskLabel) (s : BacnetTask) : Prop where
  timer : TimerMs s.clock
  clock : s.clock = clockAt h
  now : ∀ t, s.pc.now? = some t → t = readingAt h

theorem TimerMs.mono (h : TimerMs b) (hle : a ≤ b) : TimerMs a :=
  ⟨(Nat.mul_le_mul_right 1000 hle).trans_lt h.fits⟩

theorem TaskClock.le (H : TaskClock h s) (hpc : s.pc.now? = some t) : t ≤ s.clock := by
  rw [H.now t hpc, H.clock]
  exact readingAt_le_clockAt h

theorem TaskClock.reading (H : TaskClock h s) (hpc : s.pc.now? = some t) : TimerMs t :=
  H.timer.mono (H.le hpc)

theorem TaskClock.at (H : TaskClock h s) (hl : l.passed = 0) (hclock : s'.clock = s.clock)
    (hpc : ∀ t, s'.pc.now? = some t → t = readingAt (l :: h)) : TaskClock (l :: h) s' :=
  ⟨hclock.symm ▸ H.timer, hclock.trans (H.clock.trans (clockAt_kept hl h).symm), hpc⟩

theorem TaskClock.start : TaskClock [] {} := ⟨by decide, rfl, fun _ h => by cases h⟩

/-- What the two branches of an iteration are for the stack: nothing, or one call. -/
theorem startStack_call (s : BacnetTask) (n : NetworkSample) (ht : TimerMs now)
    (hstart : s.startStack c n now calls created = (s₁, events)) :
    s₁.clock = s.clock ∧ s₁.nextUpdate = s.nextUpdate ∧
      (s₁.bacnet = s.bacnet ∧ events = [] ∨
        networkCall c.env s.bacnet (.init calls c.input
          ⟨n.info.ip, n.info.netmask, n.info.gw, c.udpPort, c.peers⟩ now created) =
            some (s₁.bacnet, events)) := by
  unfold BacnetTask.startStack at hstart
  split at hstart
  · cases hstart
    exact ⟨rfl, rfl, .inr (if_pos ht)⟩
  · cases hstart
    exact ⟨rfl, rfl, .inl ⟨rfl, rfl⟩⟩

theorem rebindStack_call (s : BacnetTask) (n : NetworkSample) (ht : TimerMs now)
    (hrebind : s.rebindStack c n now calls = (s₁, events)) :
    s₁.clock = s.clock ∧ s₁.nextUpdate = s.nextUpdate ∧
      (s₁.bacnet = s.bacnet ∧ events = [] ∨
        networkCall c.env s.bacnet (.update calls n.info.ip n.info.netmask n.info.gw n.up now) =
          some (s₁.bacnet, events)) := by
  unfold BacnetTask.rebindStack at hrebind
  split at hrebind
  · cases hrebind
    exact ⟨rfl, rfl, .inr (if_pos ht)⟩
  · cases hrebind
    exact ⟨rfl, rfl, .inl ⟨rfl, rfl⟩⟩

theorem TaskStep.clocked (hstep : TaskStep c s l s') (H : TaskClock h s) : TaskClock (l :: h) s' := by
  have hnone (pc : BacnetTaskPc) (hpc : pc.now? = none) (t u : Nat) (ht : pc.now? = some t) : t = u := by
    rw [hpc] at ht
    cases ht
  cases hstep with
  | @clock ms ht =>
    refine ⟨ht, ?_, H.now⟩
    show s.clock + ms = clockAt (_ :: h)
    unfold clockAt
    rw [List.map_cons, List.sum_cons, H.clock, Nat.add_comm]
    rfl
  | @network info =>
    cases info with
    | none => exact H.at rfl rfl H.now
    | some info => exact H.at rfl rfl H.now
  | arrive => exact H.at rfl rfl H.now
  | sample => exact H.at rfl rfl fun t => hnone _ rfl t _
  | start _ hstart =>
    refine H.at rfl (startStack_call s _ H.timer hstart).1 fun t ht => ?_
    dsimp only at ht
    split at ht
    · cases ht
      exact H.clock
    · cases ht
  | @rebind n now _ _ _ hpc hrebind =>
    have hnow : s.pc.now? = some now := by rw [hpc]; rfl
    refine H.at rfl (rebindStack_call s _ (H.reading hnow) hrebind).1 fun t ht => ?_
    cases ht
    exact H.now _ hnow
  | due hpc =>
    refine H.at rfl rfl fun t ht => ?_
    cases ht
    exact H.now _ (by rw [hpc]; rfl)
  | early hpc =>
    refine H.at rfl rfl fun t ht => ?_
    cases ht
    exact H.now _ (by rw [hpc]; rfl)
  | tick => exact H.at rfl rfl fun t => hnone _ rfl t _
  | poll => exact H.at rfl rfl fun t => hnone _ rfl t _
  | publish => exact H.at rfl rfl fun t => hnone _ rfl t _

/-- The call of the stack, if any, in a step after `h`. What is started and rebound has what was sampled of
the network; the calls of an iteration have its reading of the clock. -/
inductive TaskCall (c : TaskConfig) (h : List TaskLabel) : TaskInput → Option NetworkInput → Prop
  | clock : TaskCall c h (.clock ms) none
  | network : TaskCall c h (.network info) none
  | arrive : TaskCall c h (.arrive d) (some (.arrive d))
  | sample : TaskCall c h .sample none
  | running : TaskCall c h (.start calls created) none
  | start {info : NetworkInfo} : TaskCall c h (.start calls created) (some (.init calls c.input
      ⟨info.ip, info.netmask, info.gw, c.udpPort, c.peers⟩ (clockAt h) created))
  | same : TaskCall c h (.rebind calls) none
  | rebind {info : NetworkInfo} : TaskCall c h (.rebind calls)
      (some (.update calls info.ip info.netmask info.gw up (readingAt h)))
  | update : TaskCall c h .update none
  | tick : TaskCall c h (.tick fsm) (some (.tick (readingAt h) fsm))
  | poll : TaskCall c h (.poll ready) (some (.poll ready))
  | publish : TaskCall c h .publish none

/-- The run of the network side that a run of the task drives: a step of the task is no step there or one
call, with the same events. -/
inductive Drives (c : TaskConfig) : List TaskLabel → List NetworkLabel → Prop
  | init : Drives c [] []
  | quiet : Drives c h h' → TaskCall c h l.input none → l.events = [] → Drives c (l :: h) h'
  | call : Drives c h h' → TaskCall c h l.input (some l'.input) → l'.events = l.events →
      Drives c (l :: h) (l' :: h')

theorem Drives.events (H : Drives c h h') :
    h'.flatMap NetworkLabel.events = h.flatMap TaskLabel.events := by
  induction H with
  | init => rfl
  | quiet _ _ hquiet ih =>
    rw [List.flatMap_cons, hquiet]
    exact ih
  | call _ _ hevents ih => rw [List.flatMap_cons, List.flatMap_cons, hevents, ih]

/-- The calls of `bacnet_task`, and what the socket receives. -/
def NetworkInput.ofTask : NetworkInput → Bool
  | .process _ => false
  | .shutdown => false
  | _ => true

/-- The time that a call is given. -/
def NetworkInput.timestamp? : NetworkInput → Option Nat
  | .init _ _ _ timestamp _ => some timestamp
  | .update _ _ _ _ _ timestamp => some timestamp
  | .tick timestamp _ => some timestamp
  | _ => none

theorem TaskCall.ofTask (H : TaskCall c h i (some i')) : i'.ofTask = true := by
  cases H <;> rfl

theorem TaskCall.timestamp (H : TaskCall c h l.input (some i)) (ht : i.timestamp? = some t) :
    t = readingAt (l :: h) := by
  rw [readingAt.eq_2]
  generalize l.input = j at H
  cases H <;> cases ht <;> rfl

theorem Drives.ofTask (H : Drives c h h') : ∀ l ∈ h', l.input.ofTask = true := by
  induction H with
  | init => exact List.forall_mem_nil _
  | quiet _ _ _ ih => exact ih
  | call _ hcall _ ih => exact List.forall_mem_cons.mpr ⟨hcall.ofTask, ih⟩

theorem TaskStep.call (hstep : TaskStep c s l s') (H : TaskClock h s) :
    TaskCall c h l.input none ∧ s'.bacnet = s.bacnet ∧ l.events = [] ∨
      ∃ i, TaskCall c h l.input (some i) ∧ networkCall c.env s.bacnet i = some (s'.bacnet, l.events) := by
  cases hstep with
  | clock => exact .inl ⟨.clock, rfl, rfl⟩
  | @network info =>
    cases info with
    | none => exact .inl ⟨.network, rfl, rfl⟩
    | some info => exact .inl ⟨.network, rfl, rfl⟩
  | arrive hsocket => exact .inr ⟨_, .arrive, if_pos hsocket⟩
  | sample => exact .inl ⟨.sample, rfl, rfl⟩
  | start _ hstart =>
    rcases (startStack_call s _ H.timer hstart).2.2 with hquiet | hcall
    · exact .inl ⟨.running, hquiet⟩
    · rw [H.clock] at hcall
      exact .inr ⟨_, .start, hcall⟩
  | @rebind n now _ _ _ hpc hrebind =>
    have hnow : s.pc.now? = some now := by rw [hpc]; rfl
    rcases (rebindStack_call s _ (H.reading hnow) hrebind).2.2 with hquiet | hcall
    · exact .inl ⟨.same, hquiet⟩
    · rw [H.now _ hnow] at hcall
      exact .inr ⟨_, .rebind, hcall⟩
  | due => exact .inl ⟨.update, rfl, rfl⟩
  | early => exact .inl ⟨.update, rfl, rfl⟩
  | @tick now fsm bacnet events hpc htick =>
    have hnow : s.pc.now? = some now := by rw [hpc]; rfl
    have hcall : networkCall c.env s.bacnet (.tick now fsm) = some (bacnet, events) :=
      (if_pos (H.reading hnow)).trans (congrArg some htick)
    rw [H.now _ hnow] at hcall
    exact .inr ⟨_, .tick, hcall⟩
  | poll _ hpoll => exact .inr ⟨_, .poll, congrArg some hpoll⟩
  | publish => exact .inl ⟨.publish, rfl, rfl⟩

/-- A device with one point and one peer. -/
def taskConfig : TaskConfig := ⟨sessionEnv, sessionInput, 47808, [⟨#v[192, 168, 2, 8], 47808⟩]⟩

def dhcpAddress : NetworkInfo := ⟨#v[192, 168, 2, 6], #v[255, 255, 252, 0], #v[192, 168, 2, 2]⟩

/-- The labels and the state after some inputs. -/
def taskAfter (inputs : List TaskInput) : List TaskLabel × BacnetTask :=
  StepSystem.feed (taskNext taskConfig) inputs ([], {})

theorem taskAfter_run (inputs : List TaskInput) :
    (taskSystem taskConfig).Run (taskAfter inputs).1 (taskAfter inputs).2 := .feed _ (.init rfl)

/-- The network comes up after 3 s, and an iteration starts the stack. -/
def firstIteration : List TaskInput :=
  [.clock 3000, .network (some dhcpAddress), .sample, .start ⟨54, 0, 0⟩ true, .rebind ⟨54, 0, 0⟩,
    .update, .tick fun _ => true, .poll fun _ => false, .publish]

/-- The stack has this link and, with it, this address. -/
structure BacnetNetwork.Follows (s : BacnetNetwork) (up : Bool) (info : NetworkInfo) : Prop where
  initialized : s.initialized = true
  link : s.linkUp = up
  address : up = true → s.config.localIp = info.ip ∧ s.config.netmask = info.netmask ∧
    s.config.gateway = info.gw

/-- What announcements, ticks and polls leave alone. -/
structure SameLink (s s' : BacnetNetwork) : Prop where
  initialized : s'.initialized = s.initialized
  link : s'.linkUp = s.linkUp
  config : s'.config = s.config

theorem SameLink.refl (s : BacnetNetwork) : SameLink s s := ⟨rfl, rfl, rfl⟩

theorem SameLink.trans (h : SameLink s s₁) (h' : SameLink s₁ s₂) : SameLink s s₂ :=
  ⟨h'.initialized.trans h.initialized, h'.link.trans h.link, h'.config.trans h.config⟩

theorem SameLink.follows (h : SameLink s s') (H : s.Follows up info) : s'.Follows up info :=
  ⟨h.initialized.trans H.initialized, h.link.trans H.link, fun hup => h.config.symm ▸ H.address hup⟩

theorem networkPort_sameLink (s : BacnetNetwork) (b : Bool) (p : NetworkPort) :
    SameLink s { s with ethernetLink := b, networkPort := p } := ⟨rfl, rfl, rfl⟩

theorem reportLink_sameLink (env : BacnetEnv) (s : BacnetNetwork) : SameLink s (s.reportLink env) :=
  networkPort_sameLink s _ _

theorem nextAnnounce_sameLink (s : BacnetNetwork) (t : Nat) : SameLink s { s with nextAnnounceMs := t } :=
  ⟨rfl, rfl, rfl⟩

theorem announce_sameLink (env : BacnetEnv) (s : BacnetNetwork) : SameLink s (s.announce env).1 := by
  unfold BacnetNetwork.announce
  split
  · exact .refl s
  · exact nextAnnounce_sameLink s _

theorem openSocket_sameLink (calls : SocketCalls) (s : BacnetNetwork) :
    SameLink s (s.openSocket calls).1 := ⟨rfl, rfl, rfl⟩

theorem gatewayBacnetInit_reports (env : BacnetEnv) (s : BacnetNetwork) (hs : s.initialized = false)
    (calls : SocketCalls) (input : BacnetConfig) (info : NetworkInfo) (port : Nat) (peers : List BipAddress)
    (t : Nat) (created : Bool) :
    let r := s.gatewayBacnetInit env calls input ⟨info.ip, info.netmask, info.gw, port, peers⟩ t created
    r.1.initialized = r.2.2 ∧ (r.2.2 = true → r.1.Follows true info) := by
  unfold BacnetNetwork.gatewayBacnetInit
  split
  · exact ⟨hs, fun h => by cases h⟩
  dsimp only
  split
  · exact ⟨rfl, fun h => by cases h⟩
  split
  · exact ⟨rfl, fun h => by cases h⟩
  · generalize hs₁ : BacnetNetwork.networkProperties env _ = s₁
    obtain ⟨-, hlink, hconfig⟩ := openSocket_sameLink calls s₁
    obtain ⟨hinit, hlink', hconfig'⟩ := announce_sameLink env
      { (s₁.openSocket calls).1 with initialized := true, ethernetLink := true }
    refine ⟨hinit, fun _ => ⟨hinit, hlink'.trans (hlink.trans ?_), fun _ => ?_⟩⟩
    · rw [← hs₁]
      rfl
    · rw [hconfig']
      show (s₁.openSocket calls).1.config.localIp = _ ∧ _
      rw [hconfig, ← hs₁]
      exact ⟨rfl, rfl, rfl⟩

/-- The calls of one `bip_init` all succeed. -/
structure SocketCalls.Succeed (calls : SocketCalls) : Prop where
  socket : 0 ≤ calls.socket
  broadcast : 0 ≤ calls.broadcast
  bind : 0 ≤ calls.bind

theorem bipInit_succeeds (hcalls : calls.Succeed) (p : BipStatics) : (bipInit calls p).2 = true := by
  unfold bipInit
  dsimp only
  rw [if_neg (Int.not_lt.mpr hcalls.socket), if_neg (Int.not_lt.mpr hcalls.broadcast),
    if_neg (Int.not_lt.mpr hcalls.bind)]

theorem bindSocket_reports (calls : SocketCalls) (needed : Bool) {s : BacnetNetwork}
    (hup : s.linkUp = true) :
    (s.bindSocket calls needed).1.initialized = s.initialized ∧
      (s.bindSocket calls needed).1.config = s.config ∧
      (calls.Succeed → (s.bindSocket calls needed).1.linkUp = true) := by
  unfold BacnetNetwork.bindSocket
  split
  · dsimp only
    split
    · exact ⟨rfl, rfl, fun _ => hup⟩
    · next hfailed => exact ⟨rfl, rfl, fun hcalls => absurd (bipInit_succeeds hcalls s.port) hfailed⟩
  · exact ⟨rfl, rfl, fun _ => hup⟩

/-- `gateway_bacnet_network_update` returns whether the stack has the link it was given; with an address
and with calls that succeed it has. -/
theorem gatewayBacnetNetworkUpdate_reports (s : BacnetNetwork) (hs : s.initialized = true)
    (calls : SocketCalls) (up : Bool) (info : NetworkInfo) (t : Nat) :
    let r := s.gatewayBacnetNetworkUpdate env calls info.ip info.netmask info.gw up t
    r.1.initialized = true ∧ (r.2.2 = true → r.1.Follows up info) ∧
      ((up = true → info.ip ≠ Ipv4.zero ∧ calls.Succeed) → r.2.2 = true) := by
  unfold BacnetNetwork.gatewayBacnetNetworkUpdate
  rw [if_neg (not_not_intro hs)]
  dsimp only
  have hannounce (b : Bool) (s₁ : BacnetNetwork) :
      SameLink s₁ (if b then s₁.announce env else (s₁, [])).1 := by
    split
    · exact announce_sameLink env s₁
    · exact .refl s₁
  split
  · next hup =>
    have hlink : up = true := ((Bool.and_eq_true _ _).mp hup).1
    subst hlink
    generalize hs₁ : BacnetNetwork.setAddress _ info.ip info.netmask info.gw = s₁
    have hup₁ : s₁.linkUp = true := hs₁ ▸ hup
    have hinit₁ : s₁.initialized = true := hs₁ ▸ hs
    have hconfig₁ : s₁.config.localIp = info.ip ∧ s₁.config.netmask = info.netmask ∧
        s₁.config.gateway = info.gw := hs₁ ▸ ⟨rfl, rfl, rfl⟩
    generalize hneeded : (_ || _ || !bipValid s₁.port) = needed
    obtain ⟨hinit₂, hconfig₂, hok⟩ := bindSocket_reports calls needed hup₁
    obtain ⟨hinit₃, hlink₃, hconfig₃⟩ := hannounce
      (((s₁.bindSocket calls needed).1.reportLink env).linkUp && (!s.linkUp ||
        decide (s.config.localIp ≠ info.ip ∨ s.config.netmask ≠ info.netmask ∨
          s.config.gateway ≠ info.gw)))
      ((s₁.bindSocket calls needed).1.reportLink env)
    obtain ⟨hinit', hlink', hconfig'⟩ := reportLink_sameLink env (s₁.bindSocket calls needed).1
    have hinit₄ := hinit₃.trans (hinit'.trans (hinit₂.trans hinit₁))
    refine ⟨hinit₄, fun hreport => ⟨hinit₄, beq_iff_eq.mp hreport, fun _ => ?_⟩, fun h => ?_⟩
    · rw [hconfig₃, hconfig', hconfig₂]
      exact hconfig₁
    · exact beq_iff_eq.mpr (hlink₃.trans (hlink'.trans (hok (h rfl).2)))
  · next hdown =>
    have hfalse : (up && info.ip != Ipv4.zero) = false := Bool.eq_false_iff.mpr hdown
    rw [hfalse]
    cases up with
    | false => exact ⟨hs, fun _ => ⟨hs, rfl, fun h => by cases h⟩, fun _ => rfl⟩
    | true =>
      refine ⟨hs, fun h => absurd h Bool.false_ne_true, fun h => absurd ?_ hdown⟩
      exact (Bool.and_eq_true _ _).mpr ⟨rfl, bne_iff_ne.mpr (h rfl).1⟩

theorem tickTimer_sameLink {s : BacnetNetwork} (h : s.tickTimer = (s₁, timer)) : SameLink s s₁ := by
  unfold BacnetNetwork.tickTimer at h
  dsimp only at h
  split at h
  · cases h
    exact ⟨rfl, rfl, rfl⟩
  · cases h
    exact .refl _

theorem tickSecond_sameLink {s : BacnetNetwork} (h : s.tickSecond = (s₁, second)) : SameLink s s₁ := by
  unfold BacnetNetwork.tickSecond at h
  dsimp only at h
  split at h
  · cases h
    exact ⟨rfl, rfl, rfl⟩
  · cases h
    exact .refl _

theorem tickLink_sameLink {s : BacnetNetwork} (h : s.tickLink env fsm = (s₁, link)) : SameLink s s₁ := by
  unfold BacnetNetwork.tickLink at h
  split at h
  · dsimp only at h
    split at h
    · cases h
      exact announce_sameLink env _
    · cases h
      exact .refl _
  · cases h
    exact .refl _

theorem gatewayBacnetTick_sameLink (env : BacnetEnv) (s : BacnetNetwork) (t : Nat) (fsm : Nat → Bool) :
    SameLink s (s.gatewayBacnetTick env t fsm).1 := by
  by_cases hinit : s.initialized = true
  · by_cases hle : s.nowMs ≤ t
    · rcases htimer : BacnetNetwork.tickTimer { s with nowMs := t } with ⟨s₁, timer⟩
      rcases hsecond : s₁.tickSecond with ⟨s₂, second⟩
      rcases hlink : s₂.tickObjects.tickLink env fsm with ⟨s₃, link⟩
      rw [gatewayBacnetTick_eq hinit hle htimer hsecond hlink]
      have hnow : SameLink s { s with nowMs := t } := ⟨rfl, rfl, rfl⟩
      have hobjects : SameLink s₂ s₂.tickObjects := ⟨rfl, rfl, rfl⟩
      exact hnow.trans ((tickTimer_sameLink htimer).trans ((tickSecond_sameLink hsecond).trans
        (hobjects.trans (tickLink_sameLink hlink))))
    · unfold BacnetNetwork.gatewayBacnetTick
      rw [if_neg (not_not_intro hinit), if_pos (Nat.lt_of_not_le hle)]
      exact .refl s
  · unfold BacnetNetwork.gatewayBacnetTick
    rw [if_pos hinit]
    exact .refl s

theorem gatewayBacnetPoll_sameLink (env : BacnetEnv) (s : BacnetNetwork) (ready : Nat → Bool) :
    SameLink s (s.gatewayBacnetPoll env ready).1 := by
  unfold BacnetNetwork.gatewayBacnetPoll
  split
  · exact .refl s
  · obtain ⟨flag, buffers, queue, packets, hframe⟩ := (pollLoop_received env ready 16 0 s).frame
    rw [hframe]
    exact ⟨rfl, rfl, rfl⟩

/-! ## The generation of the task -/

/-- What the iteration has sampled. -/
def BacnetTaskPc.sample? : BacnetTaskPc → Option NetworkSample
  | .start n => some n
  | .rebind n _ => some n
  | _ => none

def TaskLabel.isNetwork (l : TaskLabel) : Bool :=
  match l.input with
  | .network _ => true
  | _ => false

/-- The number of network events of a history. -/
def networkChanges (h : List TaskLabel) : Nat := h.countP TaskLabel.isNetwork

/-- The sample of an iteration is the network as it is where the generation is still the same. -/
structure Fresh (s : BacnetTask) (n : NetworkSample) : Prop where
  le : n.changed ≤ s.networkGeneration
  now : n.changed = s.networkGeneration → n = s.sampled
  own : s.started = true → s.generation ≤ n.changed

theorem Fresh.same (F : Fresh s n) (hsampled : s'.sampled = s.sampled) (hstarted : s'.started = s.started)
    (hgeneration : s'.generation = s.generation) : Fresh s' n := by
  have hchanged : s'.networkGeneration = s.networkGeneration := congrArg NetworkSample.changed hsampled
  refine ⟨F.le.trans_eq hchanged.symm, fun h => (F.now (h.trans hchanged)).trans hsampled.symm, ?_⟩
  rw [hstarted, hgeneration]
  exact F.own

/-- The generation of the task is that of what the stack follows. -/
structure TaskSync (h : List TaskLabel) (s : BacnetTask) : Prop where
  count : s.networkGeneration = networkChanges h
  session : s.bacnet.initialized = s.started
  active : ∀ n now, s.pc = .rebind n now → s.started = true
  sample : ∀ n, s.pc.sample? = some n → Fresh s n
  le : s.started = true → s.generation ≤ s.networkGeneration
  follows : s.started = true → s.generation = s.networkGeneration →
    s.bacnet.Follows s.networkUp s.networkInfo

/-- Steps of the task itself leave what `network_event` writes alone. -/
theorem TaskSync.kept (S : TaskSync h s) (hquiet : l.isNetwork = false)
    (hnetwork : s'.sampled = s.sampled) (hsession : s'.bacnet.initialized = s'.started)
    (hactive : ∀ n now, s'.pc = .rebind n now → s'.started = true)
    (hsample : ∀ n, s'.pc.sample? = some n → Fresh s' n)
    (hle : s'.started = true → s'.generation ≤ s.networkGeneration)
    (hfollows : s'.started = true → s'.generation = s.networkGeneration →
      s'.bacnet.Follows s.networkUp s.networkInfo) : TaskSync (l :: h) s' := by
  have hup : s'.networkUp = s.networkUp := congrArg NetworkSample.up hnetwork
  have hgeneration : s'.networkGeneration = s.networkGeneration := congrArg NetworkSample.changed hnetwork
  have hinfo : s'.networkInfo = s.networkInfo := congrArg NetworkSample.info hnetwork
  refine ⟨?_, hsession, hactive, hsample, ?_, ?_⟩
  · unfold networkChanges
    rw [List.countP_cons_of_neg (by rw [hquiet]; exact Bool.false_ne_true), hgeneration]
    exact S.count
  · rwa [hgeneration]
  · rwa [hgeneration, hup, hinfo]

theorem startStack_cases {s : BacnetTask} {n : NetworkSample}
    (hstart : s.startStack c n now calls created = (s₁, events))
    (hsession : s.bacnet.initialized = s.started) :
    s₁.sampled = s.sampled ∧ s₁.bacnet.initialized = s₁.started ∧
      (s₁ = s ∨ s₁.generation = n.changed ∧
        (s₁.started = true → n.up = true ∧ s₁.bacnet.Follows true n.info)) := by
  unfold BacnetTask.startStack at hstart
  split at hstart
  · next hcond =>
    obtain ⟨hnot, hup⟩ := (Bool.and_eq_true _ _).mp hcond
    have hs : s.bacnet.initialized = false := hsession.trans (by simpa using hnot)
    obtain ⟨hinit, hfollows⟩ := gatewayBacnetInit_reports c.env s.bacnet hs calls c.input n.info
      c.udpPort c.peers now created
    cases hstart
    exact ⟨rfl, hinit, .inr ⟨rfl, fun h => ⟨hup, hfollows h⟩⟩⟩
  · cases hstart
    exact ⟨rfl, hsession, .inl rfl⟩

theorem rebindStack_cases {s : BacnetTask} {n : NetworkSample}
    (hrebind : s.rebindStack c n now calls = (s₁, events))
    (hsession : s.bacnet.initialized = true) :
    s₁.sampled = s.sampled ∧ s₁.started = s.started ∧ s₁.bacnet.initialized = true ∧
      (s₁ = s ∧ s.generation = n.changed ∨ s.generation ≠ n.changed ∧
        (s₁.generation = s.generation ∨
          s₁.generation = n.changed ∧ s₁.bacnet.Follows n.up n.info)) ∧
      ((n.up = true → n.info.ip ≠ Ipv4.zero ∧ calls.Succeed) → s₁.generation = n.changed) := by
  unfold BacnetTask.rebindStack at hrebind
  split at hrebind
  · next hne =>
    obtain ⟨hinit, hfollows, hok⟩ := gatewayBacnetNetworkUpdate_reports s.bacnet hsession calls n.up n.info now
    cases hrebind
    refine ⟨rfl, rfl, hinit, .inr ⟨hne, ?_⟩, fun h => if_pos (hok h)⟩
    dsimp only
    split
    · next hreport => exact .inr ⟨rfl, hfollows hreport⟩
    · exact .inl rfl
  · next heq =>
    have heq := of_not_not heq
    cases hrebind
    exact ⟨rfl, rfl, hsession, .inl ⟨rfl, heq⟩, fun _ => heq⟩

theorem TaskStep.synced (hstep : TaskStep c s l s') (S : TaskSync h s)
    (hfew : networkChanges (l :: h) < 2 ^ 32) : TaskSync (l :: h) s' := by
  have hnone (pc : BacnetTaskPc) (hpc : pc.sample? = none) (s : BacnetTask) (n : NetworkSample)
      (hn : pc.sample? = some n) : Fresh s n := by
    rw [hpc] at hn
    cases hn
  have hidle (s : BacnetTask) (hpc : ∀ n now, s.pc ≠ .rebind n now) (n : NetworkSample) (now : Nat)
      (h : s.pc = .rebind n now) : s.started = true := absurd h (hpc n now)
  cases hstep with
  | clock => exact S.kept rfl rfl S.session S.active (fun n hn => (S.sample n hn).same rfl rfl rfl) S.le S.follows
  | @network info =>
    have hnext : networkChanges (⟨.network info, [], none⟩ :: h) = s.networkGeneration + 1 := by
      rw [S.count]
      exact List.countP_cons_of_pos rfl
    have hgen : (s.networkEvent info).networkGeneration = s.networkGeneration + 1 := by
      cases info with
      | none => exact u32_of_lt (hnext ▸ hfew)
      | some info => exact u32_of_lt (hnext ▸ hfew)
    have hrest : (s.networkEvent info).bacnet = s.bacnet ∧ (s.networkEvent info).started = s.started ∧
        (s.networkEvent info).generation = s.generation ∧ (s.networkEvent info).pc = s.pc := by
      cases info with
      | none => exact ⟨rfl, rfl, rfl, rfl⟩
      | some info => exact ⟨rfl, rfl, rfl, rfl⟩
    obtain ⟨hbacnet, hstarted, hown, hpc⟩ := hrest
    refine ⟨hgen.trans hnext.symm, ?_, fun n now => ?_, fun n hn => ?_, fun h => ?_, fun h heq => ?_⟩
    · rw [hbacnet, hstarted]
      exact S.session
    · rw [hpc, hstarted]
      exact S.active n now
    · rw [hpc] at hn
      have hfresh := S.sample n hn
      have hle := hfresh.le
      refine ⟨by omega, fun h => by omega, fun h => ?_⟩
      rw [hown]
      exact hfresh.own (hstarted ▸ h)
    · have hle := S.le (hstarted ▸ h)
      omega
    · have hle := S.le (hstarted ▸ h)
      omega
  | @arrive d _ =>
    have hsame : SameLink s.bacnet { s.bacnet with queue := s.bacnet.queue ++ [d] } := ⟨rfl, rfl, rfl⟩
    exact S.kept rfl rfl S.session S.active (fun n hn => (S.sample n hn).same rfl rfl rfl) S.le
      fun hstarted hgen => hsame.follows (S.follows hstarted hgen)
  | sample =>
    refine S.kept rfl rfl S.session (hidle _ fun _ _ h => by cases h) (fun n hn => ?_) S.le S.follows
    cases hn
    exact ⟨Nat.le_refl _, fun _ => rfl, S.le⟩
  | @start n calls created s₁ events hpc hstart =>
    have hfresh := S.sample n (by rw [hpc]; rfl)
    obtain ⟨hsampled, hsession, hcases⟩ := startStack_cases hstart S.session
    have hgen : s₁.networkGeneration = s.networkGeneration := congrArg NetworkSample.changed hsampled
    refine S.kept rfl hsampled hsession (fun n' now h => ?_) (fun n' hn => ?_) ?_ ?_
    · dsimp only at h
      split at h
      · next hstarted => exact hstarted
      · cases h
    · have hn : n' = n := by
        dsimp only at hn
        split at hn
        · exact (Option.some.inj hn).symm
        · cases hn
      subst hn
      rcases hcases with rfl | ⟨hown, -⟩
      · exact hfresh.same rfl rfl rfl
      · exact ⟨hfresh.le.trans_eq hgen.symm, fun h => (hfresh.now (h.trans hgen)).trans hsampled.symm,
          fun _ => Nat.le_of_eq hown⟩
    · rcases hcases with rfl | ⟨hown, -⟩
      · exact S.le
      · exact fun _ => hown ▸ hfresh.le
    · rcases hcases with rfl | ⟨hown, hfollows⟩
      · exact S.follows
      · intro hstarted heq
        obtain ⟨hup, hfollows⟩ := hfollows hstarted
        have hn := hfresh.now (hown.symm.trans heq)
        rw [hn] at hup hfollows
        exact hup.symm ▸ hfollows
  | @rebind n now calls s₁ events hpc hrebind =>
    have hfresh := S.sample n (by rw [hpc]; rfl)
    have hstarted := S.active n now hpc
    obtain ⟨hsampled, hkept, hinit, hcases, -⟩ := rebindStack_cases hrebind (S.session.trans hstarted)
    refine S.kept rfl hsampled (hinit.trans (hkept.trans hstarted).symm) (hidle _ fun _ _ h => by cases h)
      (hnone _ rfl _) (fun _ => ?_) fun _ heq => ?_
    · rcases hcases with ⟨rfl, -⟩ | ⟨-, hown | ⟨hown, -⟩⟩
      · exact S.le hstarted
      · exact hown ▸ S.le hstarted
      · exact hown ▸ hfresh.le
    · rcases hcases with ⟨rfl, -⟩ | ⟨hne, hown | ⟨hown, hfollows⟩⟩
      · exact S.follows hstarted heq
      · -- The update failed, so the generation is still that of an earlier sample.
        have hle := hfresh.own hstarted
        have hchanged := hfresh.le
        have heq : s₁.generation = s.networkGeneration := heq
        omega
      · have hn := hfresh.now (hown.symm.trans heq)
        rw [hn] at hfollows
        exact hfollows
  | due => exact S.kept rfl rfl S.session (hidle _ fun _ _ h => by cases h) (hnone _ rfl _) S.le S.follows
  | early => exact S.kept rfl rfl S.session (hidle _ fun _ _ h => by cases h) (hnone _ rfl _) S.le S.follows
  | @tick now fsm _ _ _ htick =>
    have hsame := gatewayBacnetTick_sameLink c.env s.bacnet now fsm
    rw [htick] at hsame
    exact S.kept rfl rfl (hsame.initialized.trans S.session) (hidle _ fun _ _ h => by cases h)
      (hnone _ rfl _) S.le fun hstarted hgen => hsame.follows (S.follows hstarted hgen)
  | @poll ready _ _ _ hpoll =>
    have hsame := gatewayBacnetPoll_sameLink c.env s.bacnet ready
    rw [hpoll] at hsame
    exact S.kept rfl rfl (hsame.initialized.trans S.session) (hidle _ fun _ _ h => by cases h)
      (hnone _ rfl _) S.le fun hstarted hgen => hsame.follows (S.follows hstarted hgen)
  | publish => exact S.kept rfl rfl S.session (hidle _ fun _ _ h => by cases h) (hnone _ rfl _) S.le S.follows

theorem taskSync_run (run : (taskSystem c).Run h s) (hfew : networkChanges h < 2 ^ 32) :
    TaskSync h s := by
  induction run with
  | init hs =>
    cases hs
    exact ⟨rfl, rfl, fun _ _ h => (by cases h), fun _ h => (by cases h), fun h => (by cases h),
      fun h => (by cases h)⟩
  | @step h s l s' _ hl ih =>
    have hle : networkChanges h ≤ networkChanges (l :: h) := by
      unfold networkChanges
      rw [List.countP_cons]
      exact Nat.le_add_right _ _
    exact (taskSystem_step hl).synced (ih (hle.trans_lt hfew)) hfew

/-- With fewer than 2^32 network events, wherever the generation of the started task is that of the
network, the stack has the link and the address that the network has now. An iteration whose calls
succeed, and during which the network does not change, brings it there; one that takes the link down needs
no call. -/
theorem stack_follows_network (run : (taskSystem c).Run h s) (hfew : networkChanges h < 2 ^ 32) :
    (s.started = true → s.generation = s.networkGeneration →
      s.bacnet.linkUp = s.networkUp ∧
      (s.networkUp = true → s.bacnet.config.localIp = s.networkInfo.ip ∧
        s.bacnet.config.netmask = s.networkInfo.netmask ∧ s.bacnet.config.gateway = s.networkInfo.gw)) ∧
    ∀ n now calls l s', s.pc = .rebind n now → n.changed = s.networkGeneration →
      (s.networkUp = true → s.networkInfo.ip ≠ Ipv4.zero ∧ calls.Succeed) →
      taskNext c s (.rebind calls) = some (l, s') →
      s'.started = true ∧ s'.generation = s'.networkGeneration ∧
        s'.bacnet.Follows s'.networkUp s'.networkInfo := by
  have S := taskSync_run run hfew
  refine ⟨fun hstarted hgen => ?_, fun n now calls l s' hpc hsame hok hnext => ?_⟩
  · have F := S.follows hstarted hgen
    exact ⟨F.link, F.address⟩
  · have hfresh := S.sample n (by rw [hpc]; rfl)
    have hstarted := S.active n now hpc
    have hn := hfresh.now hsame
    unfold taskNext at hnext
    rw [hpc] at hnext
    dsimp only at hnext
    generalize hrebind : s.rebindStack c n now calls = r at hnext
    obtain ⟨s₁, events⟩ := r
    cases hnext
    obtain ⟨hsampled, hkept, -, hcases, hdone⟩ := rebindStack_cases hrebind (S.session.trans hstarted)
    have hgen : s₁.networkGeneration = s.networkGeneration := congrArg NetworkSample.changed hsampled
    have hown : s₁.generation = n.changed := hdone (by rw [hn]; exact hok)
    refine ⟨hkept.trans hstarted, hown.trans (hsame.trans hgen.symm), ?_⟩
    have hstep : TaskStep c s ⟨.rebind calls, events, none⟩ { s₁ with pc := .update now } :=
      .rebind hpc hrebind
    have hsame' : networkChanges (⟨.rebind calls, events, none⟩ :: h) = networkChanges h :=
      List.countP_cons_of_neg Bool.false_ne_true
    exact (hstep.synced S (hsame' ▸ hfew)).follows (hkept.trans hstarted)
      (hown.trans (hsame.trans hgen.symm))

/-- The lease ends, and the next iteration takes the stack down. -/
theorem stack_follows_network_lost :
    (taskAfter (firstIteration ++
      [.network none, .sample, .start ⟨54, 0, 0⟩ true, .rebind ⟨54, 0, 0⟩])).2.bacnet.linkUp = false := by
  have hrun := taskAfter_run (firstIteration ++ [.network none, .sample, .start ⟨54, 0, 0⟩ true])
  have hlost := ((stack_follows_network hrun (by decide)).2 ⟨false, 2, dhcpAddress⟩ 3000 ⟨54, 0, 0⟩
    _ _ rfl rfl (fun h => (by cases h)) rfl).2.2
  exact hlost.link

/-! ## Values -/

/-- When the points were last updated. -/
def lastUpdate (h : List TaskLabel) : Option Nat := h.findSome? TaskLabel.updated

/-- The next update is 200 ms after the last, and the stack is ticked in between only. -/
structure Refreshed (h : List TaskLabel) (s : BacnetTask) : Prop where
  never : lastUpdate h = none → s.nextUpdate = 0
  next : ∀ u, lastUpdate h = some u → s.nextUpdate = u + 200 ∧ u ≤ s.clock ∧
    ∀ t, s.pc.now? = some t → u ≤ t
  tick : ∀ now, s.pc = .tick now → now < s.nextUpdate

theorem Refreshed.kept (R : Refreshed h s) (hquiet : l.updated = none) (hnext : s'.nextUpdate = s.nextUpdate)
    (hclock : s.clock ≤ s'.clock)
    (hpc : ∀ t, s'.pc.now? = some t → s.pc.now? = some t ∨ s.clock ≤ t)
    (htick : ∀ now, s'.pc = .tick now → now < s.nextUpdate) : Refreshed (l :: h) s' := by
  have hlast : lastUpdate (l :: h) = lastUpdate h := List.findSome?_cons_of_isNone (by rw [hquiet]; rfl)
  refine ⟨fun h => ?_, fun u h => ?_, hnext.symm ▸ htick⟩
  · rw [hnext]
    exact R.never (hlast ▸ h)
  · obtain ⟨hthen, hle, hnow⟩ := R.next u (hlast ▸ h)
    refine ⟨hnext.trans hthen, hle.trans hclock, fun t ht => ?_⟩
    rcases hpc t ht with ht | ht
    · exact hnow t ht
    · exact hle.trans ht

theorem TaskStep.refreshed (hstep : TaskStep c s l s') (H : TaskClock h s) (R : Refreshed h s) :
    Refreshed (l :: h) s' := by
  have hidle (pc : BacnetTaskPc) (hpc : pc.now? = none) (t : Nat) (ht : pc.now? = some t) :
      s.pc.now? = some t ∨ s.clock ≤ t := by
    rw [hpc] at ht
    cases ht
  cases hstep with
  | clock => exact R.kept rfl rfl (Nat.le_add_right _ _) (fun t ht => .inl ht) R.tick
  | @network info =>
    cases info with
    | none => exact R.kept rfl rfl (Nat.le_refl _) (fun t ht => .inl ht) R.tick
    | some info => exact R.kept rfl rfl (Nat.le_refl _) (fun t ht => .inl ht) R.tick
  | arrive => exact R.kept rfl rfl (Nat.le_refl _) (fun t ht => .inl ht) R.tick
  | sample => exact R.kept rfl rfl (Nat.le_refl _) (hidle _ rfl) fun _ h => (by cases h)
  | start hpc hstart =>
    obtain ⟨hclock, hnext, -⟩ := startStack_call s _ H.timer hstart
    refine R.kept rfl hnext (Nat.le_of_eq hclock.symm) (fun t ht => ?_) fun now h => ?_
    · dsimp only at ht
      split at ht
      · cases ht
        exact .inr (Nat.le_refl _)
      · cases ht
    · dsimp only at h
      split at h
      · cases h
      · cases h
  | rebind hpc hrebind =>
    obtain ⟨hclock, hnext, -⟩ := rebindStack_call s _ (H.reading (by rw [hpc]; rfl)) hrebind
    refine R.kept rfl hnext (Nat.le_of_eq hclock.symm) (fun t ht => .inl ?_) fun _ h => (by cases h)
    cases ht
    rw [hpc]
    rfl
  | @due now hpc hdue =>
    have hpc : s.pc.now? = some now := by rw [hpc]; rfl
    have hnow := H.reading hpc
    have hwrap : u64 (now + 200) = now + 200 := u64_of_lt ((Nat.add_le_add_left (by decide) now).trans_lt hnow.lt)
    have hlast : lastUpdate (⟨.update, [], some now⟩ :: h) = some now := List.findSome?_cons_of_isSome rfl
    refine ⟨fun h => ?_, fun u h => ?_, fun t ht => ?_⟩
    · rw [hlast] at h
      cases h
    · rw [hlast] at h
      cases h
      refine ⟨hwrap, H.le hpc, fun t ht => ?_⟩
      cases ht
      exact Nat.le_refl _
    · cases ht
      show now < u64 (now + 200)
      rw [hwrap]
      exact Nat.lt_add_of_pos_right (by decide)
  | @early now hpc hearly =>
    refine R.kept rfl rfl (Nat.le_refl _) (fun t ht => .inl ?_) fun t ht => ?_
    · cases ht
      rw [hpc]
      rfl
    · cases ht
      exact hearly
  | tick => exact R.kept rfl rfl (Nat.le_refl _) (hidle _ rfl) fun _ h => (by cases h)
  | poll => exact R.kept rfl rfl (Nat.le_refl _) (hidle _ rfl) fun _ h => (by cases h)
  | publish => exact R.kept rfl rfl (Nat.le_refl _) (hidle _ rfl) fun _ h => (by cases h)

theorem refreshed_run (run : (taskSystem c).Run h s) : TaskClock h s ∧ Refreshed h s := by
  refine run.invariant (I := fun h s => TaskClock h s ∧ Refreshed h s) (fun s hs => ?_)
    fun h s l s' _ H hl => ?_
  · cases hs
    exact ⟨.start, fun _ => rfl, fun _ h => (by cases h), fun _ h => (by cases h)⟩
  · have hstep := taskSystem_step hl
    exact ⟨hstep.clocked H.1, hstep.refreshed H.1 H.2⟩

/-- Whenever the task ticks the stack, the points were updated less than 200 ms before the reading of the
clock that the tick is given, and updates are 200 ms apart or more. -/
theorem values_refreshed (run : (taskSystem c).Run h s) :
    (∀ now, s.pc = .tick now → ∃ u, lastUpdate h = some u ∧ u ≤ now ∧ now < u + 200) ∧
    ∀ l s' now, (taskSystem c).step s l s' → l.updated = some now →
      ∀ u, lastUpdate h = some u → u + 200 ≤ now := by
  obtain ⟨H, R⟩ := refreshed_run run
  refine ⟨fun now hpc => ?_, fun l s' now hl hupdated u hu => ?_⟩
  · have hnext := R.tick now hpc
    cases hlast : lastUpdate h with
    | none =>
      rw [R.never hlast] at hnext
      exact absurd hnext (Nat.not_lt_zero now)
    | some u =>
      obtain ⟨hthen, -, hnow⟩ := R.next u hlast
      exact ⟨u, rfl, hnow now (by rw [hpc]; rfl), hthen ▸ hnext⟩
  · have hstep := taskSystem_step hl
    have hthen := (R.next u hu).1
    cases hstep with
    | due hpc hdue =>
      cases hupdated
      exact hthen ▸ hdue
    | clock => cases hupdated
    | network => cases hupdated
    | arrive => cases hupdated
    | sample => cases hupdated
    | start => cases hupdated
    | rebind => cases hupdated
    | early => cases hupdated
    | tick => cases hupdated
    | poll => cases hupdated
    | publish => cases hupdated

theorem values_refreshed_first : ∃ u,
    lastUpdate (taskAfter (firstIteration.take 6)).1 = some u ∧ u ≤ 3000 ∧ 3000 < u + 200 :=
  (values_refreshed (taskAfter_run (firstIteration.take 6))).1 3000 rfl

end ModbusGateway
