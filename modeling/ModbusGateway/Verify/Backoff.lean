import ModbusGateway.Verify.Spacing

/-!
# Backoff

How long either poller waits after a request. The streak of a history is the number of failed requests
since the last successful one; the delay is between 250 ms and 30 s, it grows with the streak, and a
rejected identity check is followed by the whole 30 s.
-/

namespace ModbusGateway

/-- The delay after a request completed at `completed` that was the `streak`-th failure in a row. -/
structure BackedOff (completed streak next : Nat) : Prop where
  low : completed + 250 ≤ next
  high : next ≤ completed + 30000
  backoff : completed + min (5000 * streak) 30000 ≤ next

theorem backoffMs_eq (n : Nat) : backoffMs n = min (5000 * n) 30000 := by
  unfold backoffMs
  split <;> omega

/-- The clock is a 64-bit count of microseconds, divided by 1000. -/
def WithinClock (ms : Nat) : Prop := ms * 1000 < 2 ^ 64

instance (ms : Nat) : Decidable (WithinClock ms) := inferInstanceAs (Decidable (_ < _))

/-! ## Something due is found -/

theorem foldl_dueStep_none {due : Fin n → Nat} (l : List (Fin n)) {best : Nat × Option (Fin n)}
    (hnone : (l.foldl (dueStep due now) best).2 = none) :
    (l.foldl (dueStep due now) best) = best := by
  induction l generalizing best with
  | nil => rfl
  | cons i l ih =>
    rw [List.foldl_cons] at hnone ⊢
    have hstep := ih hnone
    rw [hstep] at hnone ⊢
    unfold dueStep at hnone ⊢
    split at hnone
    · cases hnone
    · next hskip => rw [if_neg hskip]

/-- What is due before the last instant of the clock is picked, or something else is. -/
theorem earliestDue_ne_none {due : Fin n → Nat} (hdue : due i ≤ now) (hlt : now < UINT64_MAX) :
    earliestDue due now ≠ none := by
  intro hnone
  have hbest := foldl_dueStep_none (List.finRange n) hnone
  have hle : ((List.finRange n).foldl (dueStep due now) (UINT64_MAX, none)).1 ≤ due i :=
    (foldl_dueStep_le _ _).2 i (List.mem_finRange i) hdue
  rw [hbest] at hle
  dsimp only at hle
  omega

/-! ## The ATS poller -/

namespace PollRequest
variable (r : PollRequest)

/-- The exception that an old map answers the probe of register 1209 with. -/
def oldMapAnswer : Bool :=
  r.checking && r.offset == 1209 && r.reply.result.error == .exception &&
    r.reply.result.exceptionCode == 2

/-- The request failed; the exception of an old map is an answer. -/
def failed : Bool := r.reply.result.error != .ok && !r.oldMapAnswer

/-- The controller answered an identity check, and not as it should. -/
def rejects (c : GatewayPollConfig) : Bool :=
  r.checking &&
    if r.failed then r.reply.result.exceptionCode != 0
    else
      match r.offset with
      | 9998 => r.reply.words 0 != 23
      | 1199 => r.reply.words 0 != c.expectedFirmware
      | 1209 => !r.oldMapAnswer
      | _ => c.expectedMacFragment != 0 && r.reply.words 0 &&& 0x7fff != c.expectedMacFragment

end PollRequest

/-- The failed requests since the last successful one. -/
def failedStreak : List PollLabel → Nat
  | [] => 0
  | .request r :: h => if r.failed then failedStreak h + 1 else 0
  | _ :: h => failedStreak h

/-- The probe of stage 2 is known by its offset. -/
theorem expectedOldMap_eq (hchoose : chooseRequest s now = some (r.offset, r.quantity, r.block)) :
    expectedOldMap s r = r.oldMapAnswer := by
  unfold expectedOldMap PollRequest.oldMapAnswer
  cases hb : r.block with
  | some b => simp [PollRequest.checking, hb]
  | none =>
    rw [hb] at hchoose
    have hrequest := (chooseRequest_identity hchoose).2
    have hstage : (s.profileStage == 2) = (r.offset == 1209) := by
      have hoffset : (identityRequest s.profileStage).1 = r.offset := by rw [hrequest]
      rw [← hoffset]
      rcases s.profileStage with _ | _ | _ | n
      all_goals rfl
    rw [hstage]

theorem requestFailed_consecutiveFailures (s : GatewayPoll) (r : PollRequest) :
    (requestFailed s r).consecutiveFailures = u32 (s.consecutiveFailures + 1) := by
  unfold requestFailed
  cases r.block with
  | none =>
    dsimp only
    split
    · rfl
    · split
      · rfl
      · rfl
  | some b =>
    dsimp only
    split
    · rfl
    · split
      · rfl
      · rfl

/-- The failure branch: a rejection is not shortened, nothing else is lengthened beyond the backoff. -/
theorem requestFailed_nextRequestMs {s : GatewayPoll} (hnext : s.nextRequestMs = r.completed + 250)
    (hroom : r.completed + 30000 < 2 ^ 64) :
    (requestFailed s r).nextRequestMs =
      if r.checking = true ∧ r.reply.result.exceptionCode ≠ 0 then r.completed + 30000
      else max (r.completed + 250)
        (r.completed + backoffMs (requestFailed s r).consecutiveFailures) := by
  have hcount := requestFailed_consecutiveFailures s r
  rw [hcount]
  unfold requestFailed
  extract_lets s₁ s₂ s₃ wait
  have hwait : wait = backoffMs (u32 (s.consecutiveFailures + 1)) := by
    have hsame : s₃.consecutiveFailures = (requestFailed s r).consecutiveFailures := rfl
    change backoffMs s₃.consecutiveFailures = _
    rw [hsame, hcount]
  have h₂ : s₂.nextRequestMs = r.completed + 250 := by
    unfold s₂
    split
    · exact hnext
    · exact hnext
  have h₃ : s₃.nextRequestMs =
      if r.checking = true ∧ r.reply.result.exceptionCode ≠ 0 then r.completed + 30000
      else r.completed + 250 := by
    change (if _ then _ else if _ then _ else s₂ : GatewayPoll).nextRequestMs = _
    by_cases hlost : r.reply.result.exceptionCode = 0
    · rw [if_pos hlost, if_neg fun h => h.2 hlost]
      exact h₂
    · rw [if_neg hlost]
      by_cases hchecking : r.checking = true
      · rw [if_pos hchecking, if_pos ⟨hchecking, hlost⟩, rejectProfile_nextRequestMs, u64_of_lt hroom]
      · rw [if_neg hchecking, if_neg fun h => hchecking h.1]
        exact h₂
  have hle := (backoffMs_bounds (u32 (s.consecutiveFailures + 1))).1
  dsimp only
  rw [hwait, h₃, u64_of_lt (by omega)]
  split
  · split
    · omega
    · rfl
  · split
    · omega
    · omega

theorem identityAnswered_nextRequestMs (hb : r.block = none)
    (hrequest : identityRequest s.profileStage = (r.offset, r.quantity)) (hle : s.profileStage ≤ 3)
    (hok : r.failed = false) (hroom : r.completed + 30000 < 2 ^ 64) :
    (identityAnswered c s r r.oldMapAnswer).nextRequestMs =
      if r.rejects c = true then r.completed + 30000 else s.nextRequestMs := by
  have hchecking : r.checking = true := by simp [PollRequest.checking, hb]
  have hoffset : (identityRequest s.profileStage).1 = r.offset := by rw [hrequest]
  have hreject (why : String) :
      (rejectProfile s r.completed why).nextRequestMs = r.completed + 30000 := by
    rw [rejectProfile_nextRequestMs, u64_of_lt hroom]
  have hstage : s.profileStage = 0 ∨ s.profileStage = 1 ∨ s.profileStage = 2 ∨
      s.profileStage = 3 := by omega
  unfold identityAnswered PollRequest.rejects
  rw [hok, hchecking]
  rcases hstage with hn | hn | hn | hn
  · rw [hn] at hoffset ⊢
    rw [← hoffset]
    by_cases hword : r.reply.words 0 = 23
    · simp [hword, identityRequest]
    · simp [hword, identityRequest, hreject]
  · rw [hn] at hoffset ⊢
    rw [← hoffset]
    by_cases hword : r.reply.words 0 = c.expectedFirmware
    · simp [hword, identityRequest]
    · simp [hword, identityRequest, hreject]
  · rw [hn] at hoffset ⊢
    rw [← hoffset]
    by_cases hold : r.oldMapAnswer = true
    · simp [hold, identityRequest]
    · simp [hold, identityRequest, hreject]
  · rw [hn] at hoffset ⊢
    rw [← hoffset]
    by_cases hword : c.expectedMacFragment ≠ 0 ∧ r.reply.words 0 &&& 0x7fff ≠ c.expectedMacFragment
    · simp [hword, identityRequest, hreject]
    · simp [hword, identityRequest]

theorem requestSucceeded_consecutiveFailures (c : GatewayPollConfig) (s : GatewayPoll)
    (r : PollRequest) : (requestSucceeded c s r).consecutiveFailures = 0 := by
  unfold requestSucceeded
  dsimp only
  cases r.block with
  | some b => rfl
  | none =>
    dsimp only [identityAnswered]
    split_ifs
    all_goals rfl

/-- What a request leaves in the two fields. -/
structure RequestDelay (c : GatewayPollConfig) (r : PollRequest) (before : Nat) (s : GatewayPoll) :
    Prop where
  failures : s.consecutiveFailures = if r.failed = true then u32 (before + 1) else 0
  next : r.completed + 30000 < 2 ^ 64 → s.nextRequestMs = r.completed +
    if r.rejects c = true then 30000 else max 250 (backoffMs s.consecutiveFailures)

theorem settle_delay {s : GatewayPoll}
    (hchoose : chooseRequest s now = some (r.offset, r.quantity, r.block))
    (hstage : s.profileValid = false → s.profileStage ≤ 3) :
    RequestDelay c r s.consecutiveFailures (settle c (issueRequest s r) r) := by
  have hold : expectedOldMap (issueRequest s r) r = r.oldMapAnswer := expectedOldMap_eq hchoose
  have hissue (hroom : r.completed + 30000 < 2 ^ 64) :
      (issueRequest s r).nextRequestMs = r.completed + 250 := u64_of_lt (by omega)
  have hcount : (issueRequest s r).consecutiveFailures = s.consecutiveFailures := rfl
  unfold settle
  rw [hold]
  by_cases hfailed : r.failed = true
  · have hbranch : r.reply.result.error ≠ .ok ∧ ¬ r.oldMapAnswer = true := by
      simpa [PollRequest.failed] using hfailed
    rw [if_pos hbranch]
    have hfailures := requestFailed_consecutiveFailures (issueRequest s r) r
    refine ⟨by rw [if_pos hfailed, hfailures, hcount], fun hroom => ?_⟩
    have hrejects : r.rejects c = true ↔
        r.checking = true ∧ r.reply.result.exceptionCode ≠ 0 := by
      simp [PollRequest.rejects, hfailed]
    rw [requestFailed_nextRequestMs (hissue hroom) hroom]
    simp only [hrejects]
    split
    · rfl
    · omega
  · have hbranch : ¬ (r.reply.result.error ≠ .ok ∧ ¬ r.oldMapAnswer = true) := fun h =>
      hfailed (by simpa [PollRequest.failed] using h)
    rw [if_neg hbranch]
    have hfailures := requestSucceeded_consecutiveFailures c (issueRequest s r) r
    refine ⟨by rw [if_neg hfailed, hfailures], fun hroom => ?_⟩
    have hnone : max 250 (backoffMs 0) = 250 := rfl
    rw [hfailures, hnone]
    unfold requestSucceeded
    dsimp only
    cases hb : r.block with
    | some b =>
      have hdata : ¬ r.rejects c = true := by
        simp [PollRequest.rejects, PollRequest.checking, hb]
      rw [if_neg hdata]
      exact hissue hroom
    | none =>
      rw [hb] at hchoose
      obtain ⟨hclosed, hrequest⟩ := chooseRequest_identity hchoose
      dsimp only
      rw [hold]
      refine (identityAnswered_nextRequestMs hb ?_ ?_ (Bool.eq_false_iff.mpr hfailed) hroom).trans ?_
      · exact hrequest
      · exact hstage hclosed
      · split
        · rfl
        · exact hissue hroom

/-- The counter, the gate and the delay after a history. -/
structure PollBackoff (c : GatewayPollConfig) (h : List PollLabel) (s : GatewayPoll) : Prop where
  streak : s.consecutiveFailures = u32 (failedStreak h)
  stage : s.profileValid = false → s.profileStage ≤ 3
  next : ∀ r older, h = .request r :: older → r.completed + 30000 < 2 ^ 64 →
    s.nextRequestMs = r.completed +
      if r.rejects c = true then 30000 else max 250 (backoffMs s.consecutiveFailures)

theorem recheckProfile_consecutiveFailures (s : GatewayPoll) (now : Nat) :
    (recheckProfile s now).consecutiveFailures = s.consecutiveFailures := by
  unfold recheckProfile
  split
  · rfl
  · rfl

theorem PollBackoff.step (H : PollBackoff c h s) (hstep : PollStep c s l s') :
    PollBackoff c (l :: h) s' := by
  cases hstep with
  | offline => exact ⟨H.streak, fun _ => Nat.zero_le 3, fun _ _ heq => (by cases heq)⟩
  | idle => exact ⟨H.streak, H.stage, fun _ _ heq => (by cases heq)⟩
  | @request _ r hrequest =>
    obtain ⟨-, -, -, hchoose, rfl⟩ := gatewayPollStep_request hrequest
    have hstage : (recheckProfile s r.now).profileValid = false →
        (recheckProfile s r.now).profileStage ≤ 3 := recheckProfile_stage_le H.stage
    have hdelay : RequestDelay c r _ _ := settle_delay hchoose hstage
    refine ⟨?_, settle_stage_le hchoose hstage, fun r' older heq hroom => ?_⟩
    · rw [hdelay.failures, recheckProfile_consecutiveFailures, H.streak, failedStreak]
      split
      · unfold u32
        omega
      · rfl
    · cases heq
      exact hdelay.next hroom

theorem PollBackoff.ofRun (run : (pollSystem c).Run h s) : PollBackoff c h s := by
  induction run with
  | init hinit =>
    cases hinit
    exact ⟨rfl, fun _ => Nat.zero_le 3, nofun⟩
  | step _ hstep ih => exact ih.step (pollSystem_step hstep)

/-- A step that is not too early asks for what is outstanding. -/
theorem gatewayPollStep_issues (s : GatewayPoll) (hnow : s.nextRequestMs ≤ now) (htime : WithinClock now)
    (hdue : s.profileValid = false ∨ s.profileCheckMs ≤ now ∨ ∃ b, s.nextDue b ≤ now)
    (reply : MbReply) : ∃ s' r, gatewayPollStep c s now reply = (s', some r) := by
  have hmax : now < UINT64_MAX := by
    unfold WithinClock at htime
    unfold UINT64_MAX
    omega
  have hchoose : chooseRequest (recheckProfile s now) now ≠ none := by
    intro hnone
    have hvalid := chooseRequest_none hnone
    obtain ⟨hsame, hcheck⟩ := recheckProfile_of_valid hvalid
    rw [hsame] at hnone hvalid
    unfold chooseRequest at hnone
    rw [if_pos hvalid, Option.map_eq_none_iff] at hnone
    rcases hdue with hclosed | hrecheck | ⟨b, hb⟩
    · rw [hvalid] at hclosed
      cases hclosed
    · omega
    · exact earliestDue_ne_none hb hmax hnone
  unfold gatewayPollStep
  rw [if_neg (Nat.not_lt.mpr hnow)]
  dsimp only
  split
  · next hnone => exact absurd hnone hchoose
  · split
    · exact ⟨_, _, rfl⟩
    · exact ⟨_, _, rfl⟩

/-! ## The poller of a custom map -/

variable {map : CustomMap}

def CustomRequest.failed (r : CustomRequest map) : Bool := r.reply.result.error != .ok

/-- The failed requests since the last successful one. -/
def customStreak : List (CustomLabel map) → Nat
  | [] => 0
  | .request r :: h => if r.failed then customStreak h + 1 else 0
  | _ :: h => customStreak h

structure CustomDelay (r : CustomRequest map) (before : Nat) (s : CustomPoll map) : Prop where
  failures : s.consecutiveFailures = if r.failed = true then min (before + 1) UINT32_MAX else 0
  next : r.completed + 30000 < 2 ^ 64 →
    s.nextRequestMs = r.completed + max 250 (backoffMs s.consecutiveFailures)

theorem customSettle_delay {s : CustomPoll map} (hcount : s.consecutiveFailures ≤ UINT32_MAX)
    (r : CustomRequest map) :
    CustomDelay r s.consecutiveFailures (customSettle (customIssueRequest s r) r) := by
  have hmax : 1 ≤ UINT32_MAX := by decide
  unfold customSettle
  by_cases hok : r.reply.result.error = .ok
  · have hfailed : ¬ r.failed = true := by simp [CustomRequest.failed, hok]
    rw [if_pos hok]
    have hfailures : (customRequestSucceeded (customIssueRequest s r) r).consecutiveFailures = 0 := rfl
    have hnext : (customRequestSucceeded (customIssueRequest s r) r).nextRequestMs =
        u64 (r.completed + 250) := rfl
    have hnone : max 250 (backoffMs 0) = 250 := rfl
    refine ⟨by rw [if_neg hfailed, hfailures], fun hroom => ?_⟩
    rw [hnext, hfailures, hnone, u64_of_lt (by omega)]
  · have hfailed : r.failed = true := by simp [CustomRequest.failed, hok]
    rw [if_neg hok]
    have hfailures : (customRequestFailed (customIssueRequest s r) r).consecutiveFailures =
        min (s.consecutiveFailures + 1) UINT32_MAX := by
      have hcode : (if s.consecutiveFailures < UINT32_MAX then s.consecutiveFailures + 1
          else s.consecutiveFailures) = min (s.consecutiveFailures + 1) UINT32_MAX := by
        split
        · omega
        · omega
      rw [← hcode]
      unfold customRequestFailed
      dsimp only
      split
      · rfl
      · rfl
    refine ⟨by rw [if_pos hfailed, hfailures], fun hroom => ?_⟩
    have hnext : (customRequestFailed (customIssueRequest s r) r).nextRequestMs =
        u64 (r.completed +
          backoffMs (customRequestFailed (customIssueRequest s r) r).consecutiveFailures) := rfl
    have hbounds := backoffMs_bounds (min (s.consecutiveFailures + 1) UINT32_MAX)
    have hlow := hbounds.2 (by omega)
    rw [hnext, hfailures, u64_of_lt (by omega)]
    omega

structure CustomBackoff (h : List (CustomLabel map)) (s : CustomPoll map) : Prop where
  streak : s.consecutiveFailures = min (customStreak h) UINT32_MAX
  next : ∀ r older, h = .request r :: older → r.completed + 30000 < 2 ^ 64 →
    s.nextRequestMs = r.completed + max 250 (backoffMs s.consecutiveFailures)

theorem CustomBackoff.step {s s' : CustomPoll map} (H : CustomBackoff h s)
    (hstep : CustomStep s l s') : CustomBackoff (l :: h) s' := by
  cases hstep with
  | offline => exact ⟨H.streak, fun _ _ heq => (by cases heq)⟩
  | idle => exact ⟨H.streak, fun _ _ heq => (by cases heq)⟩
  | @request _ r hrequest =>
    obtain ⟨-, -, -, -, rfl⟩ := customPollStep_request hrequest
    have hle : s.consecutiveFailures ≤ UINT32_MAX := by
      rw [H.streak]
      exact Nat.min_le_right _ _
    have hdelay := customSettle_delay hle r
    refine ⟨?_, fun r' older heq hroom => ?_⟩
    · rw [hdelay.failures, H.streak, customStreak]
      split
      · omega
      · rfl
    · cases heq
      exact hdelay.next hroom

theorem CustomBackoff.ofRun {s : CustomPoll map} (run : (customSystem map).Run h s) :
    CustomBackoff h s := by
  induction run with
  | init hinit =>
    cases hinit
    exact ⟨rfl, nofun⟩
  | step _ hstep ih => exact ih.step (customSystem_step hstep)

theorem customPollStep_issues (s : CustomPoll map) (hnow : s.nextRequestMs ≤ now)
    (htime : WithinClock now) (hdue : s.nextDue point ≤ now) (reply : MbReply) :
    ∃ s' r, customPollStep s now reply = (s', some r) := by
  have hmax : now < UINT64_MAX := by
    unfold WithinClock at htime
    unfold UINT64_MAX
    omega
  unfold customPollStep
  rw [if_neg (Nat.not_lt.mpr hnow)]
  split
  · next hnone => exact absurd hnone (earliestDue_ne_none hdue hmax)
  · dsimp only
    split
    · exact ⟨_, _, rfl⟩
    · exact ⟨_, _, rfl⟩

/-! ## Bounded backoff -/

theorem completed_room (htime : WithinClock (now + elapsed)) : u64 (now + elapsed) + 30000 < 2 ^ 64 := by
  have hle : u64 (now + elapsed) ≤ now + elapsed := u64_le
  unfold WithinClock at htime
  omega

theorem BackedOff.ofDelay (hnext : next = completed + delay) (hlow : 250 ≤ delay)
    (hhigh : delay ≤ 30000) (hbackoff : min (5000 * streak) 30000 ≤ delay) :
    BackedOff completed streak next := by
  subst hnext
  exact ⟨by omega, by omega, by omega⟩

/-- In every state of a run of either poller, `consecutive_failures` is the number of failed requests since
the last successful one. After a request the poller waits between 250 ms and 30 s, at least as long as the
backoff of the streak, and the whole 30 s after a rejected identity check. A step that is not too early
always issues a request if an identity check is outstanding or something is due. -/
theorem polls_backOff (c : GatewayPollConfig) (map : CustomMap) :
    (∀ h s, (pollSystem c).Run h s → failedStreak h < 2 ^ 32 →
      s.consecutiveFailures = failedStreak h ∧
      (∀ r older, h = .request r :: older → WithinClock (r.now + r.reply.result.elapsedMs) →
        BackedOff r.completed (failedStreak h) s.nextRequestMs ∧
        (r.rejects c = true → s.nextRequestMs = r.completed + 30000)) ∧
      ∀ now reply, WithinClock now → s.nextRequestMs ≤ now →
        (s.profileValid = false ∨ s.profileCheckMs ≤ now ∨ ∃ b, s.nextDue b ≤ now) →
        ∃ s' r, gatewayPollStep c s now reply = (s', some r)) ∧
    ∀ h s, (customSystem map).Run h s → customStreak h < 2 ^ 32 →
      s.consecutiveFailures = customStreak h ∧
      (∀ r older, h = .request r :: older → WithinClock (r.now + r.reply.result.elapsedMs) →
        BackedOff r.completed (customStreak h) s.nextRequestMs) ∧
      ∀ now reply, WithinClock now → s.nextRequestMs ≤ now → (∃ point, s.nextDue point ≤ now) →
        ∃ s' r, customPollStep s now reply = (s', some r) := by
  refine ⟨fun h s run hstreak => ?_, fun h s run hstreak => ?_⟩
  · have H := PollBackoff.ofRun run
    have hcount : s.consecutiveFailures = failedStreak h := H.streak.trans (u32_of_lt hstreak)
    refine ⟨hcount, fun r older heq htime => ?_, fun now reply htime hnow hdue =>
      gatewayPollStep_issues s hnow htime hdue reply⟩
    have hnext := H.next r older heq (completed_room htime)
    rw [hcount, backoffMs_eq] at hnext
    refine ⟨.ofDelay hnext ?_ ?_ ?_, fun hrejects => by rw [hnext, if_pos hrejects]⟩
    · split
      · omega
      · omega
    · split
      · omega
      · omega
    · split
      · omega
      · omega
  · have H := CustomBackoff.ofRun run
    have hcount : s.consecutiveFailures = customStreak h := by
      have hmax : UINT32_MAX = 2 ^ 32 - 1 := rfl
      rw [H.streak, hmax]
      omega
    refine ⟨hcount, fun r older heq htime => ?_, fun now reply htime hnow hdue => ?_⟩
    · have hnext := H.next r older heq (completed_room htime)
      rw [hcount, backoffMs_eq] at hnext
      exact .ofDelay hnext (by omega) (by omega) (by omega)
    · obtain ⟨point, hpoint⟩ := hdue
      exact customPollStep_issues s hnow htime hpoint reply

/-- Nothing comes back within 1500 ms. -/
def timeoutReply : MbReply where
  result := { error := .timeout, elapsedMs := 1500 }
  words _ := 0

def threeTimeouts : List PollCall := [.step 0 timeoutReply, .step 6500 timeoutReply, .step 18000 timeoutReply]

/-- After three timeouts both pollers wait 15 s, and the next request is made then. -/
theorem polls_backOff_timeouts :
    BackedOff 19500 3 (pollAfter commissionedConfig threeTimeouts).2.nextRequestMs ∧
      BackedOff 19500 3 (customAfter voltageMap threeTimeouts).2.nextRequestMs ∧
      (∃ s' r, gatewayPollStep commissionedConfig (pollAfter commissionedConfig threeTimeouts).2 34500 (wordReply 23) =
        (s', some r)) ∧
      ∃ s' r, customPollStep (customAfter voltageMap threeTimeouts).2 34500 (wordReply 49) = (s', some r) := by
  obtain ⟨hpoll, hcustom⟩ := polls_backOff commissionedConfig voltageMap
  obtain ⟨-, hdelay, hissues⟩ := hpoll _ _ (pollSystem_run commissionedConfig threeTimeouts) (by decide)
  obtain ⟨-, hdelay', hissues'⟩ := hcustom _ _ (customSystem_run voltageMap threeTimeouts) (by decide)
  exact ⟨(hdelay _ _ rfl (by decide)).1, hdelay' _ _ rfl (by decide),
    hissues 34500 (wordReply 23) (by decide) (by decide) (.inl rfl),
    hissues' 34500 (wordReply 49) (by decide) (by decide) ⟨⟨0, by decide⟩, by decide⟩⟩

end ModbusGateway
