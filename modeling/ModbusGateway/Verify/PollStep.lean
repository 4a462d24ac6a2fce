import ModbusGateway.Poll.Gateway

/-!
# What one call of the ATS poller can do

`gatewayPollStep_idle` and `gatewayPollStep_request` invert a step, `PollStep` is what the steps of
`pollSystem` can be. `settle_identity` and
`settle_data` then say what a request leaves behind: the gate fields (`profileValid`,
`profileStage`, `profileCheckMs`) and the block store.
-/

namespace ModbusGateway

/-- The request is the check of `stage` and its answer is the one expected of the controller. -/
def PollRequest.Confirms (c : GatewayPollConfig) (stage : Nat) (r : PollRequest) : Prop :=
  r.checking = true ∧ (r.offset, r.quantity) = identityRequest stage ∧
  match stage with
  | 0 => r.reply.result.error = .ok ∧ r.reply.words 0 = 23
  | 1 => r.reply.result.error = .ok ∧ r.reply.words 0 = c.expectedFirmware
  | 2 => r.reply.result.error = .exception ∧ r.reply.result.exceptionCode = 2
  | _ => r.reply.result.error = .ok ∧
      (c.expectedMacFragment ≠ 0 → r.reply.words 0 &&& 0x7fff = c.expectedMacFragment)

/-! ## The gate fields -/

@[simp] theorem gatewayPollOffline_profileValid :
    (gatewayPollOffline s now).profileValid = false := rfl

@[simp] theorem gatewayPollOffline_profileStage : (gatewayPollOffline s now).profileStage = 0 := rfl

@[simp] theorem gatewayPollOffline_model :
    (gatewayPollOffline s now).model = failAllBlocks s.model now := rfl

@[simp] theorem rejectProfile_profileValid : (rejectProfile s now why).profileValid = false := rfl

@[simp] theorem rejectProfile_profileStage : (rejectProfile s now why).profileStage = 0 := rfl

@[simp] theorem rejectProfile_model :
    (rejectProfile s now why).model = failAllBlocks s.model now := rfl

@[simp] theorem issueRequest_profileValid : (issueRequest s r).profileValid = s.profileValid := rfl

@[simp] theorem issueRequest_profileStage : (issueRequest s r).profileStage = s.profileStage := rfl

@[simp] theorem issueRequest_profileCheckMs :
    (issueRequest s r).profileCheckMs = s.profileCheckMs := rfl

@[simp] theorem issueRequest_model : (issueRequest s r).model = s.model := rfl

/-- A recheck either leaves the state alone or sends the gate back to stage 0. -/
theorem recheckProfile_cases (s : GatewayPoll) (now : Nat) :
    (recheckProfile s now = s ∧ (s.profileValid = true → now < s.profileCheckMs)) ∨
      ((recheckProfile s now).profileValid = false ∧ (recheckProfile s now).profileStage = 0) := by
  unfold recheckProfile
  split
  · exact .inr ⟨rfl, rfl⟩
  · next h => exact .inl ⟨rfl, fun hv => Nat.lt_of_not_le fun hle => h ⟨hv, hle⟩⟩

@[simp] theorem recheckProfile_model (s : GatewayPoll) (now : Nat) :
    (recheckProfile s now).model = s.model := by
  unfold recheckProfile; split <;> rfl

theorem recheckProfile_of_valid (h : (recheckProfile s now).profileValid = true) :
    recheckProfile s now = s ∧ now < s.profileCheckMs := by
  rcases recheckProfile_cases s now with ⟨heq, hlt⟩ | ⟨hv, _⟩
  · rw [heq] at h; exact ⟨heq, hlt h⟩
  · rw [h] at hv; cases hv

/-! ## Inversion of a step -/

theorem chooseRequest_none (h : chooseRequest s now = none) : s.profileValid = true := by
  unfold chooseRequest at h
  split at h
  · assumption
  · cases h

/-- A call that issues no request changes nothing. -/
theorem gatewayPollStep_idle (h : gatewayPollStep c s now reply = (s', none)) : s' = s := by
  unfold gatewayPollStep at h
  split at h
  · cases h; rfl
  · dsimp only at h
    split at h
    · next hnone =>
      cases h
      exact (recheckProfile_of_valid (chooseRequest_none hnone)).1
    · split at h <;> cases h

/-- The state a request leaves behind, `s` being the state in which it was issued. -/
def settle (c : GatewayPollConfig) (s : GatewayPoll) (r : PollRequest) : GatewayPoll :=
  if r.reply.result.error ≠ .ok ∧ ¬ expectedOldMap s r then requestFailed s r
  else requestSucceeded c s r

theorem settle_of_ok (h : r.reply.result.error = .ok) :
    settle c s r = requestSucceeded c s r := by
  unfold settle; rw [if_neg fun H => H.1 h]

theorem gatewayPollStep_request (h : gatewayPollStep c s now reply = (s', some r)) :
    s.nextRequestMs ≤ now ∧ r.now = now ∧ r.reply = reply ∧
      chooseRequest (recheckProfile s now) now = some (r.offset, r.quantity, r.block) ∧
      s' = settle c (issueRequest (recheckProfile s now) r) r := by
  unfold gatewayPollStep at h
  split at h
  · cases h
  · next hdue =>
    refine ⟨Nat.le_of_not_lt hdue, ?_⟩
    dsimp only at h
    split at h
    · cases h
    · next hchoose =>
      unfold settle
      split at h
      · next hfail => cases h; exact ⟨rfl, rfl, hchoose, (if_pos hfail).symm⟩
      · next hfail => cases h; exact ⟨rfl, rfl, hchoose, (if_neg hfail).symm⟩

/-- What a call of the poller can be: one that asks nothing, a request, or a lost link. -/
inductive PollStep (c : GatewayPollConfig) (s : GatewayPoll) : PollLabel → GatewayPoll → Prop
  | idle : gatewayPollStep c s now reply = (s, none) → PollStep c s (.idle now) s
  | request {r : PollRequest} : gatewayPollStep c s r.now r.reply = (s', some r) →
    PollStep c s (.request r) s'
  | offline : PollStep c s (.offline now) (gatewayPollOffline s now)

theorem pollSystem_step (h : (pollSystem c).step s l s') : PollStep c s l s' := by
  obtain ⟨call, h⟩ := h
  cases call with
  | offline now => cases h; exact .offline
  | step now reply =>
    simp only [pollNext] at h
    split at h
    · next hidle =>
      cases h
      obtain rfl := gatewayPollStep_idle hidle
      exact .idle hidle
    · next hrequest =>
      cases h
      obtain ⟨-, rfl, rfl, -⟩ := gatewayPollStep_request hrequest
      exact .request hrequest

/-- A data request is issued only behind an open gate. -/
theorem chooseRequest_data (h : chooseRequest s now = some (offset, quantity, some b)) :
    s.profileValid = true ∧ earliestDue s.nextDue now = some b ∧
      offset = (atsScanBlocks b).offset ∧ quantity = (atsScanBlocks b).count := by
  unfold chooseRequest at h
  split at h
  · next hv =>
    simp only [Option.map_eq_some_iff, Prod.mk.injEq, Option.some.injEq] at h
    obtain ⟨_, hdue, rfl, rfl, rfl⟩ := h
    exact ⟨hv, hdue, rfl, rfl⟩
  · cases h

/-- An identity check is issued only behind a closed gate, and is that of the stage. -/
theorem chooseRequest_identity (h : chooseRequest s now = some (offset, quantity, none)) :
    s.profileValid = false ∧ identityRequest s.profileStage = (offset, quantity) := by
  unfold chooseRequest at h
  split at h
  · simp at h
  · next hv =>
    cases h
    exact ⟨by simpa using hv, rfl⟩

/-! ## What a request leaves behind -/

/-- The failure branch on an identity check: everything is failed and the gate is closed. -/
theorem requestFailed_identity (hb : r.block = none) :
    (requestFailed s r).model = failAllBlocks s.model r.completed ∧
      (requestFailed s r).profileValid = false ∧ (requestFailed s r).profileStage = 0 := by
  unfold requestFailed
  by_cases hx : r.reply.result.exceptionCode = 0 <;> simp [hx, hb, PollRequest.checking]

/-- The check that was outstanding is either confirmed, which moves the gate on and leaves the
store alone, or it is not, which fails every block and closes the gate. -/
theorem settle_identity (hb : r.block = none)
    (hreq : identityRequest s.profileStage = (r.offset, r.quantity)) (hle : s.profileStage ≤ 3) :
    (r.Confirms c s.profileStage ∧ (settle c s r).model = s.model ∧
      (s.profileStage < 3 ∧ (settle c s r).profileValid = s.profileValid ∧
          (settle c s r).profileStage = s.profileStage + 1 ∨
        s.profileStage = 3 ∧ (settle c s r).profileValid = true ∧
          (settle c s r).profileCheckMs = u64 (r.completed + 300000))) ∨
    (¬ r.Confirms c s.profileStage ∧ (settle c s r).model = failAllBlocks s.model r.completed ∧
      (settle c s r).profileValid = false ∧ (settle c s r).profileStage = 0) := by
  have hcheck : r.checking = true := by simp [PollRequest.checking, hb]
  have hstage : s.profileStage = 0 ∨ s.profileStage = 1 ∨ s.profileStage = 2 ∨
      s.profileStage = 3 := by omega
  have hexp : expectedOldMap s r = true ↔ s.profileStage = 2 ∧ r.reply.result.error = .exception ∧
      r.reply.result.exceptionCode = 2 := by
    simp [expectedOldMap, hcheck, and_assoc]
  have hnext : u8 (s.profileStage + 1) = s.profileStage + 1 := Nat.mod_eq_of_lt (by omega)
  unfold settle
  split
  · next hfail =>
    refine .inr ⟨fun hconf => ?_, requestFailed_identity hb⟩
    obtain ⟨-, -, hconf⟩ := hconf
    rcases hstage with hn | hn | hn | hn <;> rw [hn] at hconf
    · exact hfail.1 hconf.1
    · exact hfail.1 hconf.1
    · exact hfail.2 (hexp.mpr ⟨hn, hconf⟩)
    · exact hfail.1 hconf.1
  · next hok =>
    have hok : s.profileStage ≠ 2 → r.reply.result.error = .ok := fun hne =>
      Classical.not_not.mp fun he => hok ⟨he, fun hx => hne (hexp.mp hx).1⟩
    simp only [requestSucceeded, hb, identityAnswered]
    rcases hstage with hn | hn | hn | hn
    · by_cases hw : r.reply.words 0 = 23
      · exact .inl (by simp [hn, hw, PollRequest.Confirms, hcheck, ← hreq, hok, u8])
      · exact .inr (by simp [hn, hw, PollRequest.Confirms])
    · by_cases hw : r.reply.words 0 = c.expectedFirmware
      · exact .inl (by simp [hn, hw, PollRequest.Confirms, hcheck, ← hreq, hok, u8])
      · exact .inr (by simp [hn, hw, PollRequest.Confirms])
    · by_cases hx : expectedOldMap s r = true
      · exact .inl (by simp [hn, hx, PollRequest.Confirms, hcheck, ← hreq, (hexp.mp hx).2, u8])
      · exact .inr (by simp [hn, hx, PollRequest.Confirms, mt (hexp.mpr ⟨hn, ·⟩) hx])
    · by_cases hw : c.expectedMacFragment ≠ 0 ∧ r.reply.words 0 &&& 0x7fff ≠ c.expectedMacFragment
      · exact .inr (by simp [hn, hw, PollRequest.Confirms])
      · refine .inl ⟨⟨hcheck, by rw [hn] at hreq ⊢; exact hreq.symm, ?_⟩, by simp [hn, hw]⟩
        rw [hn]
        exact ⟨hok (by omega), fun hne => Classical.not_not.mp fun hm => hw ⟨hne, hm⟩⟩

/-- A data request either stores its block, or fails it, or loses the peer, which fails every block
and closes the gate. -/
theorem settle_data (hb : r.block = some b) :
    (r.reply.result.error = .ok ∧
      (settle c s r).model =
        atsModelApplyBlock s.model r.offset r.quantity r.reply.words r.completed ∧
      (settle c s r).profileValid = s.profileValid ∧
      (settle c s r).profileStage = s.profileStage ∧
      (settle c s r).profileCheckMs = s.profileCheckMs) ∨
    (r.reply.result.error ≠ .ok ∧ r.reply.result.exceptionCode ≠ 0 ∧
      (settle c s r).model = atsModelFailBlock s.model r.offset r.quantity r.completed ∧
      (settle c s r).profileValid = s.profileValid ∧
      (settle c s r).profileStage = s.profileStage ∧
      (settle c s r).profileCheckMs = s.profileCheckMs) ∨
    (r.transportFailed ∧
      (settle c s r).model =
        failAllBlocks (atsModelFailBlock s.model r.offset r.quantity r.completed) r.completed ∧
      (settle c s r).profileValid = false ∧ (settle c s r).profileStage = 0) := by
  have hexp : expectedOldMap s r = false := by simp [expectedOldMap, PollRequest.checking, hb]
  by_cases hok : r.reply.result.error = .ok
  · left
    rw [settle_of_ok hok]
    simp [requestSucceeded, hb, blockRead, hok]
  · right
    have hsettle : settle c s r = requestFailed s r := by
      unfold settle
      rw [if_pos ⟨hok, by simp [hexp]⟩]
    rw [hsettle]
    unfold requestFailed
    by_cases hx : r.reply.result.exceptionCode = 0
    · exact .inr (by simp [hb, hx, hok, PollRequest.transportFailed])
    · exact .inl (by simp [hb, hx, hok, PollRequest.checking])

/-- A closed gate is at one of the four checks, before a request and after it. -/
theorem settle_stage_le (hchoose : chooseRequest s now = some (r.offset, r.quantity, r.block))
    (hs : s.profileValid = false → s.profileStage ≤ 3)
    (hv : (settle c (issueRequest s r) r).profileValid = false) :
    (settle c (issueRequest s r) r).profileStage ≤ 3 := by
  cases hb : r.block with
  | none =>
    rw [hb] at hchoose
    obtain ⟨hclosed, hreq⟩ := chooseRequest_identity hchoose
    rcases settle_identity (c := c) (s := issueRequest s r) hb hreq (hs hclosed) with
      ⟨-, -, ⟨hlt, -, hstage⟩ | ⟨-, hopen, -⟩⟩ | ⟨-, -, -, hstage⟩
    · rw [hstage]; exact hlt
    · rw [hopen] at hv; cases hv
    · rw [hstage]; exact Nat.zero_le 3
  | some b =>
    rcases settle_data (c := c) (s := issueRequest s r) hb with
      ⟨-, -, hvalid, hstage, -⟩ | ⟨-, -, -, hvalid, hstage, -⟩ | ⟨-, -, -, hstage⟩
    · rw [hstage]; exact hs (hvalid ▸ hv)
    · rw [hstage]; exact hs (hvalid ▸ hv)
    · rw [hstage]; exact Nat.zero_le 3

theorem recheckProfile_stage_le (hs : s.profileValid = false → s.profileStage ≤ 3)
    (hv : (recheckProfile s now).profileValid = false) :
    (recheckProfile s now).profileStage ≤ 3 := by
  rcases recheckProfile_cases s now with ⟨heq, -⟩ | ⟨-, hstage⟩
  · rw [heq] at hv ⊢; exact hs hv
  · rw [hstage]; exact Nat.zero_le 3

end ModbusGateway
