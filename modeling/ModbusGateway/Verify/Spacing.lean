import ModbusGateway.Verify.AppStep
import Mathlib.Data.List.Chain
import Mathlib.Data.List.Infix

/-!
# The spacing of the requests

A poller keeps 250 ms between its requests by `next_request_ms`. `poll_task` rewrites that field
whenever it takes the pollers offline, and with it gives the distance away.
-/

namespace ModbusGateway
open Samples

/-! ## One request of a poller -/

theorem rejectProfile_nextRequestMs :
    (rejectProfile s now why).nextRequestMs = u64 (now + 30000) := rfl

theorem backoffMs_bounds (n : Nat) : backoffMs n ≤ 30000 ∧ (1 ≤ n → 5000 ≤ backoffMs n) := by
  unfold backoffMs
  split <;> omega

section
variable {r : PollRequest} {s : GatewayPoll}

/-- The peer is left alone until 250 ms after the request, if the clock does not run out. -/
def Waits (r : PollRequest) (s : GatewayPoll) : Prop := r.completed + 250 ≤ s.nextRequestMs

/-- Only the one field counts. -/
theorem Waits.of_eq (H : Waits r s) (heq : s'.nextRequestMs = s.nextRequestMs) : Waits r s' := by
  unfold Waits
  rw [heq]
  exact H

theorem Waits.reject (hroom : r.completed + 30000 < 2 ^ 64) (why : String) :
    Waits r (rejectProfile s r.completed why) := by
  unfold Waits
  rw [rejectProfile_nextRequestMs, u64_of_lt hroom]
  omega

theorem Waits.identityAnswered {c : GatewayPollConfig} (hroom : r.completed + 30000 < 2 ^ 64)
    (H : Waits r s) : Waits r (identityAnswered c s r expected) := by
  unfold ModbusGateway.identityAnswered
  dsimp only
  split
  · exact .reject hroom _
  · split
    · exact .reject hroom _
    · split
      · exact .reject hroom _
      · split
        · split
          · exact .reject hroom _
          · exact H.of_eq rfl
        · exact H.of_eq rfl

theorem Waits.succeeded {c : GatewayPollConfig} (hroom : r.completed + 30000 < 2 ^ 64)
    (H : Waits r s) : Waits r (requestSucceeded c s r) := by
  unfold requestSucceeded
  dsimp only
  split
  · exact Waits.identityAnswered hroom H
  · exact H

/-- The failure branch only ever raises the field further. -/
theorem Waits.failed (hroom : r.completed + 30000 < 2 ^ 64) (H : Waits r s) :
    Waits r (requestFailed s r) := by
  unfold requestFailed
  extract_lets s₁ s₂ s₃ wait
  have hwait : r.completed + wait < 2 ^ 64 := by
    have hle := (backoffMs_bounds s₃.consecutiveFailures).1
    omega
  have h₂ : Waits r s₂ := by
    unfold s₂
    split <;> exact H
  have h₃ : Waits r s₃ := by
    change Waits r (if _ then _ else if _ then _ else s₂)
    split
    · exact h₂
    · split
      · exact Waits.reject hroom _
      · exact h₂
  unfold Waits at h₃ ⊢
  dsimp only
  split <;> omega

/-- After a request the poller waits for 250 ms at least. -/
theorem gatewayPollStep_waits {c : GatewayPollConfig}
    (h : gatewayPollStep c s now reply = (s', some r)) (hroom : r.completed + 30000 < 2 ^ 64) :
    Waits r s' := by
  obtain ⟨-, -, -, -, rfl⟩ := gatewayPollStep_request h
  have hissue : Waits r (issueRequest (recheckProfile s now) r) := by
    change r.completed + 250 ≤ u64 (r.completed + 250)
    rw [u64_of_lt (by omega)]
  unfold settle
  split
  · exact hissue.failed hroom
  · exact hissue.succeeded hroom

end

theorem customPollStep_waits {s : CustomPoll map}
    (h : customPollStep s now reply = (s', some r)) (hroom : r.completed + 30000 < 2 ^ 64) :
    r.completed + 250 ≤ s'.nextRequestMs := by
  obtain ⟨-, -, -, -, rfl⟩ := customPollStep_request h
  unfold customSettle
  split
  · change r.completed + 250 ≤ u64 (r.completed + 250)
    rw [u64_of_lt (by omega)]
  · unfold customRequestFailed
    extract_lets s₁ s₂
    have hfailures : 1 ≤ s₂.consecutiveFailures := by
      have h₁ : 1 ≤ s₁.consecutiveFailures := by
        change 1 ≤ if (customIssueRequest s r).consecutiveFailures < UINT32_MAX then
          (customIssueRequest s r).consecutiveFailures + 1
          else (customIssueRequest s r).consecutiveFailures
        have hmax : 1 ≤ UINT32_MAX := by decide
        split <;> omega
      change 1 ≤ (if _ then customPollOffline s₁ r.completed else s₁).consecutiveFailures
      split <;> exact h₁
    have hbackoff := backoffMs_bounds s₂.consecutiveFailures
    have hlow := hbackoff.2 hfailures
    dsimp only
    rw [u64_of_lt (by omega)]
    omega

/-! ## The task -/

variable {c : Boot}

/-- When a request was started and when it was completed. -/
def AppLabel.interval : AppLabel c → Option (Nat × Nat)
  | .read _ r _ => some (r.now, r.completed)
  | .customRead _ r _ => some (r.now, r.completed)
  | _ => none

/-- The requests of a history, newest first. -/
def requests (h : List (AppLabel c)) : List (Nat × Nat) := h.filterMap AppLabel.interval

/-- Between any two consecutive requests there are 250 ms. -/
def Spaced (h : List (AppLabel c)) : Prop :=
  (requests h).IsChain fun later earlier => earlier.2 + 250 ≤ later.1

/-- The step takes the pollers offline and rewrites `next_request_ms`. -/
def AppLabel.TakesOffline : AppLabel c → Prop
  | .offline | .publish true => True
  | _ => False

instance : (l : AppLabel c) → Decidable l.TakesOffline
  | .offline | .publish true => isTrue trivial
  | .quiet | .network _ | .read _ _ _ | .customRead _ _ _ | .publish false | .snapshot _ _ =>
    isFalse id

/-- The pollers are taken offline no earlier than 250 ms after the last request. The clock of the state
behind the step is the time that is written. -/
def Unhurried (h : List (AppLabel c)) (_ : App c) (l : AppLabel c) (s' : App c) : Prop :=
  l.TakesOffline → ∀ r ∈ (requests h).head?, r.2 + 250 ≤ s'.clock

/-- `next_request_ms` of the poller that is in use. -/
def App.nextRequestMs (s : App c) : Nat :=
  if c.isCustom then s.custom.nextRequestMs else s.poller.nextRequestMs

theorem takeOffline_nextRequestMs (s : App c) (t₁ t₂ t₃ : Nat) :
    (takeOffline s t₁ t₂ t₃).nextRequestMs = t₃ := by
  unfold App.nextRequestMs takeOffline
  split <;> rfl

/-- A request is issued by the poller that is in use, not before its time, and lies in the past. -/
structure Issued (s s' : App c) (r : Nat × Nat) : Prop where
  due : s.nextRequestMs ≤ r.1
  past : r.2 ≤ s'.clock
  waits : r.2 + 250 ≤ s'.nextRequestMs

theorem Issued.ofPollStep {s : App c} (hclock : s.clock + 30000 < 2 ^ 64)
    (htime : now + reply.result.elapsedMs ≤ s.clock)
    (hl : (pollStep s changed now reply).1.interval = some r) (pc : PollPc) :
    Issued s { (pollStep s changed now reply).2 with pc := pc } r := by
  unfold pollStep at hl ⊢
  split at hl
  · next hcustom =>
    rw [if_pos hcustom]
    dsimp only at hl ⊢
    split at hl
    · cases hl
    · next custom q hstep =>
      cases hl
      obtain ⟨hdue, hnow, hreply, -, -⟩ := customPollStep_request hstep
      have hcompleted : q.completed = q.now + q.reply.result.elapsedMs :=
        u64_of_lt (by rw [hnow, hreply]; omega)
      have hpast : q.completed ≤ s.clock := by
        rw [hcompleted, hnow, hreply]
        exact htime
      have hwaits := customPollStep_waits hstep (by omega)
      refine ⟨?_, hpast, ?_⟩
      · unfold App.nextRequestMs
        rw [if_pos hcustom, hnow]
        exact hdue
      · unfold App.nextRequestMs
        rw [if_pos hcustom]
        exact hwaits
  · next hats =>
    rw [if_neg hats]
    dsimp only at hl ⊢
    split at hl
    · cases hl
    · next poller q hstep =>
      cases hl
      obtain ⟨hdue, hnow, hreply, -, -⟩ := gatewayPollStep_request hstep
      have hcompleted : q.completed = q.now + q.reply.result.elapsedMs :=
        u64_of_lt (by rw [hnow, hreply]; omega)
      have hpast : q.completed ≤ s.clock := by
        rw [hcompleted, hnow, hreply]
        exact htime
      have hwaits := gatewayPollStep_waits hstep (by omega)
      refine ⟨?_, hpast, ?_⟩
      · unfold App.nextRequestMs
        rw [if_neg hats, hnow]
        exact hdue
      · unfold App.nextRequestMs
        rw [if_neg hats]
        exact hwaits

theorem Issued.ofNext {s : App c} (h : appNext s i = some (l, s')) (hl : l.interval = some r)
    (hclock : s'.clock + 30000 < 2 ^ 64) : Issued s s' r := by
  cases i with
  | finish reply =>
    have hle := (AppStep.ofNext h).clock_le
    simp only [appNext] at h
    split at h
    · split at h
      · next htime =>
        cases h
        exact .ofPollStep (by omega) htime hl _
      · cases h
    · cases h
  | tick | network | sample | check | start | publish | enter | snapshot =>
    simp only [appNext] at h
    repeat' split at h
    all_goals
      cases h
      try cases hl

/-- A step that takes the pollers offline writes the time it has come to. -/
theorem AppStep.offline_nextRequestMs {s s' : App c} (H : AppStep s l s') (hl : l.TakesOffline) :
    s'.nextRequestMs = s'.clock := by
  cases H with
  | checkOffline | publishOffline => exact takeOffline_nextRequestMs _ _ _ _
  | tick | network | sample | check | start | skip | idle | read | customRead | publish | enter
  | snapshot => exact absurd hl id

/-- Any other step that issues no request leaves the field alone. -/
theorem AppStep.keeps_nextRequestMs {s s' : App c} (H : AppStep s l s') (hl : l.interval = none)
    (hoffline : ¬ l.TakesOffline) : s'.nextRequestMs = s.nextRequestMs := by
  cases H with
  | checkOffline | publishOffline => exact absurd trivial hoffline
  | read | customRead => cases hl
  | tick | network | sample | check | start | skip | idle | publish | enter | snapshot => rfl

/-- The last request is over, and the poller in use waits for 250 ms from then on. -/
structure Spacing (h : List (AppLabel c)) (s : App c) : Prop where
  spaced : Spaced h
  past : ∀ r ∈ (requests h).head?, r.2 ≤ s.clock
  waits : ∀ r ∈ (requests h).head?, r.2 + 250 ≤ s.nextRequestMs

theorem Spacing.issue (H : Spacing h s) (hl : l.interval = some r) (hissued : Issued s s' r) :
    Spacing (l :: h) s' := by
  have hrequests : requests (l :: h) = r :: requests h := by
    unfold requests
    rw [List.filterMap_cons_some hl]
  refine ⟨?_, ?_, ?_⟩
  · unfold Spaced
    rw [hrequests]
    exact .cons H.spaced fun q hq => Nat.le_trans (H.waits q hq) hissued.due
  · rw [hrequests]
    exact fun q hq => Option.some.inj hq ▸ hissued.past
  · rw [hrequests]
    exact fun q hq => Option.some.inj hq ▸ hissued.waits

theorem Spacing.keep {s s' : App c} (H : Spacing h s) (hstep : AppStep s l s') (hl : l.interval = none)
    (hunhurried : Unhurried h s l s') : Spacing (l :: h) s' := by
  have hrequests : requests (l :: h) = requests h := by
    unfold requests
    rw [List.filterMap_cons_none hl]
  refine ⟨?_, ?_, ?_⟩
  · unfold Spaced
    rw [hrequests]
    exact H.spaced
  · rw [hrequests]
    exact fun q hq => Nat.le_trans (H.past q hq) hstep.clock_le
  · rw [hrequests]
    intro q hq
    by_cases hoffline : l.TakesOffline
    · rw [hstep.offline_nextRequestMs hoffline]
      exact hunhurried hoffline q hq
    · rw [hstep.keeps_nextRequestMs hl hoffline]
      exact H.waits q hq

/-- In every run in which the pollers are never taken offline within 250 ms after a request, any two
consecutive requests are 250 ms apart. The clock is a 64-bit count of microseconds, divided by 1000. -/
theorem poll_spaced (run : StepSystem.RunWhere (appSystem c) Unhurried h s)
    (hclock : s.clock * 1000 < 2 ^ 64) : Spaced h := by
  have hall : Spacing h s := by
    induction run with
    | init hinit => exact ⟨.nil, fun _ hq => (by cases hq), fun _ hq => (by cases hq)⟩
    | step _ hstep hunhurried ih =>
      obtain ⟨i, hnext⟩ := hstep
      have happ := AppStep.ofNext hnext
      have hle := happ.clock_le
      have H := ih (Nat.lt_of_le_of_lt (Nat.mul_le_mul_right 1000 hle) hclock)
      cases hl : AppLabel.interval _ with
      | none => exact H.keep happ hl hunhurried
      | some r => exact H.issue hl (.ofNext hnext hl (by omega))
  exact hall.spaced

/-- Two iterations on a network that is up. -/
def steadyInputs : List AppInput :=
  .network true :: (pollIteration (wordReply 23) ++ pollIteration (wordReply 515))

example : requests (appAfter defaultBoot steadyInputs).1 = [(270, 290), (0, 20)] := by
  decide +kernel

theorem poll_spaced_steady : Spaced (appAfter defaultBoot steadyInputs).1 := by
  have hfirst : ∀ t ∈ (appAfter defaultBoot steadyInputs).1.tails, ∀ l ∈ t.head?,
      l.TakesOffline → requests t.tail = [] := by
    decide +kernel
  have hclock : (appAfter defaultBoot steadyInputs).2.clock * 1000 < 2 ^ 64 := by decide +kernel
  refine poll_spaced (.ofRun (appSystem_run defaultBoot steadyInputs) ?_) hclock
  intro l older hsuffix s s' hoffline r hr
  have hnone := hfirst (l :: older) ((List.mem_tails _ _).mpr hsuffix) l rfl hoffline
  rw [List.tail_cons] at hnone
  rw [hnone] at hr
  cases hr

/-- The network is lost and comes back during the first read. -/
def flappingInputs : List AppInput :=
  [.network true, .sample, .check 0 0 0, .start, .tick 20, .network false, .network true,
    .finish (wordReply 23), .publish 20 20 20, .tick 25, .sample, .check 45 45 45, .start, .tick 20,
    .finish (wordReply 23)]

/-- The second request starts 25 ms after the first is completed. -/
theorem poll_flapping : ∃ h s, (appSystem defaultBoot).Run h s ∧ ¬ Spaced h := by
  have hrequests : requests (appAfter defaultBoot flappingInputs).1 = [(45, 65), (0, 20)] := by
    decide +kernel
  refine ⟨_, _, appSystem_run defaultBoot flappingInputs, fun hspaced => ?_⟩
  rw [Spaced, hrequests, List.isChain_cons] at hspaced
  exact absurd (hspaced.1 _ rfl) (by decide)

end ModbusGateway
