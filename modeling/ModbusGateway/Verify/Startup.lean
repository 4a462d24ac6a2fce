import ModbusGateway.App.Startup
import ModbusGateway.Verify.AppStep

/-!
# The health check reads the clock too early

`startup_healthy` reads the clock before it takes the lock, so a heartbeat may be newer than that
reading. The age is then a wrapped difference, and the sample is negative although everything is well.
-/

namespace ModbusGateway
open Samples

variable {c : Boot}

/-! ## The clock -/

/-- The heartbeats and the reading of a call are not ahead of the clock. -/
structure Startup.Past (s : Startup c) : Prop where
  poll : s.pollHeartbeatMs ≤ s.app.clock
  bacnet : s.bacnetHeartbeatMs ≤ s.app.clock
  call : ∀ now ∈ s.call, now ≤ s.app.clock

/-- What a step can do to the clock, the heartbeats and the call. -/
inductive StartupStep (s s' : Startup c) : StartupLabel c → Prop
  | keep : s.app.clock ≤ s'.app.clock → s'.pollHeartbeatMs = s.pollHeartbeatMs →
    s'.bacnetHeartbeatMs = s.bacnetHeartbeatMs → s'.call = s.call → (∀ now b, l ≠ .healthy now b) →
    StartupStep s s' l
  | poll : s.app.clock ≤ s'.app.clock → s'.pollHeartbeatMs = s'.app.clock →
    s'.bacnetHeartbeatMs = s.bacnetHeartbeatMs → s'.call = s.call → (∀ now b, l ≠ .healthy now b) →
    StartupStep s s' l
  | bacnet : s.app.clock ≤ s'.app.clock → s'.pollHeartbeatMs = s.pollHeartbeatMs →
    s'.bacnetHeartbeatMs = s'.app.clock → s'.call = s.call → (∀ now b, l ≠ .healthy now b) →
    StartupStep s s' l
  | call : now ≤ s.app.clock → s' = { s with call := some now } → StartupStep s s' .quiet
  | healthy : s.call = some now → s' = { s with call := none } →
    StartupStep s s' (.healthy now (startupHealthy s now))

theorem StartupStep.ofApp {s : Startup c} (hle : s.app.clock ≤ app.clock)
    (h : startupApp s l app heartbeat = some (a, s')) : StartupStep s s' a := by
  unfold startupApp at h
  dsimp only at h
  split at h
  · split at h
    · next hread =>
      cases h
      exact .poll (Nat.le_trans hle hread.1) rfl rfl rfl nofun
    · cases h
  · cases h
    exact .keep hle rfl rfl rfl nofun

theorem StartupStep.ofNext {s : Startup c} (h : startupNext s i = some (a, s')) :
    StartupStep s s' a := by
  have hrefl : s.app.clock ≤ s.app.clock := Nat.le_refl _
  cases i with
  | app i heartbeat =>
    simp only [startupNext] at h
    split at h
    · next l app hnext => exact .ofApp (AppStep.ofNext hnext).clock_le h
    · cases h
  | web b | ota b =>
    cases h
    exact .keep hrefl rfl rfl rfl nofun
  | bacnetSample | bacnetWork b =>
    simp only [startupNext] at h
    split at h
    · cases h
      exact .keep hrefl rfl rfl rfl nofun
    · cases h
  | bacnetPublish stats heartbeat =>
    simp only [startupNext] at h
    split at h
    · split at h
      · next hread =>
        cases h
        exact .bacnet hread.1 rfl rfl rfl nofun
      · cases h
    · cases h
  | call now =>
    simp only [startupNext] at h
    split at h
    · next hcall =>
      cases h
      exact .call hcall.2 rfl
    · cases h
  | lock =>
    simp only [startupNext] at h
    split at h
    · next now hcall =>
      cases h
      exact .healthy hcall rfl
    · cases h

theorem Startup.Past.step {s s' : Startup c} (H : s.Past) (hstep : StartupStep s s' l) : s'.Past := by
  obtain ⟨hpoll, hbacnet, hcall⟩ := H
  cases hstep with
  | keep hclock hp hb hc _ =>
    exact ⟨hp ▸ Nat.le_trans hpoll hclock, hb ▸ Nat.le_trans hbacnet hclock,
      fun now hmem => Nat.le_trans (hcall now (hc ▸ hmem)) hclock⟩
  | poll hclock hp hb hc _ =>
    exact ⟨Nat.le_of_eq hp, hb ▸ Nat.le_trans hbacnet hclock,
      fun now hmem => Nat.le_trans (hcall now (hc ▸ hmem)) hclock⟩
  | bacnet hclock hp hb hc _ =>
    exact ⟨hp ▸ Nat.le_trans hpoll hclock, Nat.le_of_eq hb,
      fun now hmem => Nat.le_trans (hcall now (hc ▸ hmem)) hclock⟩
  | call hle heq =>
    subst heq
    exact ⟨hpoll, hbacnet, fun _ hmem => Option.some.inj hmem ▸ hle⟩
  | healthy _ heq =>
    subst heq
    exact ⟨hpoll, hbacnet, fun _ hmem => (by cases hmem)⟩

theorem Startup.Past.ofRun (run : (startupSystem c).Run h s) : s.Past := by
  refine StepSystem.Run.invariant (I := fun _ s => s.Past) ?_ ?_ run
  · rintro _ rfl
    exact ⟨Nat.le_refl _, Nat.le_refl _, fun _ hmem => (by cases hmem)⟩
  · rintro _ _ _ _ _ H ⟨_, hnext⟩
    exact H.step (.ofNext hnext)

/-! ## The health check -/

/-- Without a wrap the difference is the age. -/
theorem sub64_le (hle : h ≤ now) (hage : now ≤ h + 2500) : sub64 now h ≤ 2500 := by
  unfold sub64 u64
  omega

/-- A heartbeat of the future has a huge age. -/
theorem sub64_gt (hlt : now < h) (hh : h < 2 ^ 63) : 2500 < sub64 now h := by
  unfold sub64 u64
  omega

/-- Everything is well at the instant the lock is held: the conditions hold, both tasks have stored a
heartbeat, and neither heartbeat is older than 2500 ms at the reading `now`. -/
structure Startup.Well (s : Startup c) (now : Nat) : Prop where
  networkUp : s.app.networkUp = true
  webStarted : s.webStarted = true
  otaReady : s.otaReady = true
  config : c.configError = []
  initialized : s.publishedBacnet.initialized = true
  linkUp : s.publishedBacnet.linkUp = true
  poll_ne : s.pollHeartbeatMs ≠ 0
  bacnet_ne : s.bacnetHeartbeatMs ≠ 0
  poll_age : now ≤ s.pollHeartbeatMs + 2500
  bacnet_age : now ≤ s.bacnetHeartbeatMs + 2500

theorem Startup.Well.startupHealthy (H : Startup.Well s now) :
    startupHealthy s now = true ↔
      sub64 now s.pollHeartbeatMs ≤ 2500 ∧ sub64 now s.bacnetHeartbeatMs ≤ 2500 := by
  simp [ModbusGateway.startupHealthy, H.networkUp, H.webStarted, H.otaReady, H.config, H.initialized,
    H.linkUp, H.poll_ne, H.bacnet_ne]

/-- When everything is well, the sample is positive if no heartbeat is newer than the reading of the
clock, and negative otherwise (in the first 2^63 ms). -/
theorem startupHealthy_sample (run : (startupSystem c).Run (.healthy now result :: h) s)
    (hwell : s.Well now) :
    (s.pollHeartbeatMs ≤ now ∧ s.bacnetHeartbeatMs ≤ now → result = true) ∧
      (s.app.clock < 2 ^ 63 → result = true →
        s.pollHeartbeatMs ≤ now ∧ s.bacnetHeartbeatMs ≤ now) := by
  obtain ⟨s₀, hrun, input, hnext⟩ := StepSystem.Run.cons_inv run
  have hpast := Startup.Past.ofRun hrun
  cases StartupStep.ofNext hnext with
  | keep _ _ _ _ hne | poll _ _ _ _ hne | bacnet _ _ _ _ hne => exact absurd rfl (hne _ _)
  | healthy hcall heq =>
    subst heq
    have hsample := hwell.startupHealthy
    refine ⟨fun hfresh => ?_, fun hclock htrue => ?_⟩
    · exact hsample.mpr ⟨sub64_le hfresh.1 hwell.poll_age, sub64_le hfresh.2 hwell.bacnet_age⟩
    · obtain ⟨hpoll, hbacnet⟩ := hsample.mp htrue
      have hpollPast := hpast.poll
      have hbacnetPast := hpast.bacnet
      refine ⟨Nat.le_of_not_lt fun hlt => ?_, Nat.le_of_not_lt fun hlt => ?_⟩
      · exact absurd (sub64_gt hlt (Nat.lt_of_le_of_lt hpollPast hclock)) (Nat.not_lt.mpr hpoll)
      · exact absurd (sub64_gt hlt (Nat.lt_of_le_of_lt hbacnetPast hclock)) (Nat.not_lt.mpr hbacnet)

/-- A healthy start: the network and the servers come up, BACnet stores a heartbeat at 1000, and an
iteration of the poller ends at 1020. -/
def startingInputs : List StartupInput :=
  [.app (.network true) 0, .web true, .ota true, .bacnetSample, .bacnetWork true, .app (.tick 1000) 0,
    .bacnetPublish ⟨true, true⟩ 1000, .app .sample 0, .app (.check 1000 1000 1000) 0, .app .start 0,
    .app (.tick 20) 0, .app (.finish (wordReply 23)) 0]

/-- The clock is read before the heartbeat of the poller is stored at 1021. -/
def earlyInputs : List StartupInput :=
  startingInputs ++ [.call 1020, .app (.publish 0 0 0) 1021]

/-- It is read after that. -/
def timelyInputs : List StartupInput :=
  startingInputs ++ [.app (.publish 0 0 0) 1021, .call 1021]

/-- The state in which the lock is taken. -/
theorem Startup.Well.of_heartbeats {s : Startup defaultBoot}
    (h : s.app.networkUp = true ∧ s.webStarted = true ∧ s.otaReady = true ∧
      s.publishedBacnet = ⟨true, true⟩ ∧ s.pollHeartbeatMs = 1021 ∧ s.bacnetHeartbeatMs = 1000)
    (hnow : now ≤ 3500) : s.Well now := by
  obtain ⟨hnet, hweb, hota, hbacnet, hp, hb⟩ := h
  have hinit : s.publishedBacnet.initialized = true := by rw [hbacnet]
  have hlink : s.publishedBacnet.linkUp = true := by rw [hbacnet]
  exact ⟨hnet, hweb, hota, rfl, hinit, hlink, by omega, by omega, by omega, by omega⟩

/-- The step of the lock. -/
theorem startupSystem_lock (run : (startupSystem c).Run h s) (hcall : s.call = some now) :
    (startupSystem c).Run (.healthy now (startupHealthy s now) :: h) { s with call := none } := by
  refine run.step ⟨.lock, ?_⟩
  simp only [startupNext, hcall]

theorem timely_heartbeats :
    let s := (startupAfter defaultBoot timelyInputs).2
    s.call = some 1021 ∧ s.app.networkUp = true ∧ s.webStarted = true ∧ s.otaReady = true ∧
      s.publishedBacnet = ⟨true, true⟩ ∧ s.pollHeartbeatMs = 1021 ∧ s.bacnetHeartbeatMs = 1000 := by
  decide +kernel

theorem early_heartbeats :
    let s := (startupAfter defaultBoot earlyInputs).2
    s.call = some 1020 ∧ s.app.networkUp = true ∧ s.webStarted = true ∧ s.otaReady = true ∧
      s.publishedBacnet = ⟨true, true⟩ ∧ s.pollHeartbeatMs = 1021 ∧ s.bacnetHeartbeatMs = 1000 := by
  decide +kernel

theorem startupHealthy_sample_timely :
    startupHealthy (startupAfter defaultBoot timelyInputs).2 1021 = true := by
  obtain ⟨hcall, hstate⟩ := timely_heartbeats
  have hrun := startupSystem_lock (startupSystem_run defaultBoot timelyInputs) hcall
  have hpoll := hstate.2.2.2.2.1
  have hbacnet := hstate.2.2.2.2.2
  exact (startupHealthy_sample hrun (.of_heartbeats hstate (by decide))).1
    ⟨Nat.le_of_eq hpoll, by
      rw [hbacnet]
      decide⟩

/-- Everything is well, and the sample is negative. -/
theorem startupHealthy_early : ∃ h s, (startupSystem defaultBoot).Run (.healthy 1020 false :: h) s ∧
    s.Well 1020 := by
  obtain ⟨hcall, hstate⟩ := early_heartbeats
  have hrun := startupSystem_lock (startupSystem_run defaultBoot earlyInputs) hcall
  have hsample : startupHealthy (startupAfter defaultBoot earlyInputs).2 1020 = false := by
    decide +kernel
  rw [hsample] at hrun
  exact ⟨_, _, hrun, .of_heartbeats hstate (by decide)⟩

end ModbusGateway
