import ModbusGateway.Theory.EarliestDue
import ModbusGateway.Verify.BlockSamples
import ModbusGateway.Verify.Spacing

/-!
# The schedule of the scan blocks

The ATS poller serves its scan blocks earliest due first, as the custom poller does its points; an
identity check does not touch the schedule.
-/

namespace ModbusGateway

theorem atsScanBlocks_periodMs (b : BlockIndex) :
    2000 ≤ (atsScanBlocks b).periodMs ∧ (atsScanBlocks b).periodMs ≤ 60000 := by
  revert b
  decide

/-- The clock is a 64-bit count of microseconds divided by 1000, and an elapsed time has 32 bits. -/
structure PollRequest.InClock (r : PollRequest) : Prop where
  now : r.now * 1000 < 2 ^ 64
  elapsed : r.reply.result.elapsedMs < 2 ^ 32

instance PollRequest.decidableInClock (r : PollRequest) : Decidable r.InClock :=
  decidable_of_iff (r.now * 1000 < 2 ^ 64 ∧ r.reply.result.elapsedMs < 2 ^ 32)
    ⟨fun h => ⟨h.1, h.2⟩, fun h => ⟨h.now, h.elapsed⟩⟩

theorem PollRequest.InClock.room {r : PollRequest} (H : r.InClock) :
    r.now + r.reply.result.elapsedMs + 3600000 < 2 ^ 64 := by
  have hnow := H.now
  have helapsed := H.elapsed
  omega

theorem PollRequest.InClock.completed {r : PollRequest} (H : r.InClock) :
    r.completed = r.now + r.reply.result.elapsedMs :=
  u64_of_lt (by have hroom := H.room; omega)

theorem recheckProfile_nextDue (s : GatewayPoll) (now : Nat) :
    (recheckProfile s now).nextDue = s.nextDue := by
  unfold recheckProfile
  split <;> rfl

theorem identityAnswered_nextDue (c : GatewayPollConfig) (s : GatewayPoll) (r : PollRequest)
    (expected : Bool) : (identityAnswered c s r expected).nextDue = s.nextDue := by
  unfold identityAnswered
  dsimp only
  split
  · rfl
  · split
    · rfl
    · split
      · rfl
      · split
        · split <;> rfl
        · rfl

/-- An identity check leaves the schedule alone. -/
theorem settle_identity_nextDue {s : GatewayPoll} (hb : r.block = none) :
    (settle c s r).nextDue = s.nextDue := by
  unfold settle
  split
  · unfold requestFailed
    simp only [hb]
    split
    · rfl
    · split <;> rfl
  · unfold requestSucceeded
    simp only [hb]
    exact identityAnswered_nextDue ..

/-- The pause of a block after its request. -/
def blockPauseMs (b : BlockIndex) (r : PollRequest) : Nat :=
  if r.reply.result.error = .ok then (atsScanBlocks b).periodMs else 5000

theorem settle_data_nextDue {s : GatewayPoll} (hb : r.block = some b) :
    (settle c s r).nextDue =
      Function.update s.nextDue b (u64 (r.completed + blockPauseMs b r)) := by
  have hexp : expectedOldMap s r = false := by simp [expectedOldMap, PollRequest.checking, hb]
  unfold settle blockPauseMs
  by_cases hok : r.reply.result.error = .ok
  · rw [if_pos hok, if_neg fun h => h.1 hok]
    simp only [requestSucceeded, hb, blockRead]
  · rw [if_neg hok, if_pos ⟨hok, by simp [hexp]⟩]
    unfold requestFailed
    simp only [hb]
    split
    · rfl
    · split <;> rfl

theorem blockPauseMs_bounds (b : BlockIndex) (r : PollRequest) :
    2000 ≤ blockPauseMs b r ∧ blockPauseMs b r ≤ 60000 := by
  have hperiod := atsScanBlocks_periodMs b
  unfold blockPauseMs
  split <;> omega

/-- What a data request does to the schedule. -/
structure BlockTurn (s : GatewayPoll) (r : PollRequest) (b : BlockIndex) (s' : GatewayPoll) : Prop where
  ready : s.nextRequestMs ≤ r.now
  earliest : ∀ k, s.nextDue k ≤ r.now → s.nextDue b ≤ s.nextDue k
  later : ∃ d, r.now < d ∧ s'.nextDue = Function.update s.nextDue b d

theorem gatewayPollStep_turn {s : GatewayPoll} (h : gatewayPollStep c s now reply = (s', some r))
    (hb : r.block = some b) (hclock : r.InClock) : BlockTurn s r b s' := by
  obtain ⟨hready, hnow, -, hchoose, rfl⟩ := gatewayPollStep_request h
  subst hnow
  rw [hb] at hchoose
  obtain ⟨-, hearliest, -, -⟩ := chooseRequest_data hchoose
  rw [recheckProfile_nextDue] at hearliest
  refine ⟨hready, fun k hk => earliestDue_le hearliest hk,
    u64 (r.completed + blockPauseMs b r), ?_, ?_⟩
  · have hpause := blockPauseMs_bounds b r
    have hroom := hclock.room
    have hcompleted := hclock.completed
    rw [u64_of_lt (by omega)]
    omega
  · rw [settle_data_nextDue hb]
    change Function.update (recheckProfile s r.now).nextDue b _ = _
    rw [recheckProfile_nextDue]

theorem gatewayPollStep_identity_nextDue {s : GatewayPoll}
    (h : gatewayPollStep c s now reply = (s', some r)) (hb : r.block = none) :
    s'.nextDue = s.nextDue := by
  obtain ⟨-, -, -, -, rfl⟩ := gatewayPollStep_request h
  rw [settle_identity_nextDue hb]
  change (recheckProfile s now).nextDue = _
  exact recheckProfile_nextDue s now

/-! ## Answered requests -/

/-- A confirmed check keeps the pause the request began with. -/
theorem settle_confirmed {s : GatewayPoll} (hb : r.block = none) (hle : s.profileStage ≤ 3)
    (hconf : r.Confirms c s.profileStage) : (settle c s r).nextRequestMs = s.nextRequestMs := by
  obtain ⟨-, -, hanswer⟩ := hconf
  have hcheck : r.checking = true := by simp [PollRequest.checking, hb]
  have hstage : s.profileStage = 0 ∨ s.profileStage = 1 ∨ s.profileStage = 2 ∨
      s.profileStage = 3 := by omega
  unfold settle
  rcases hstage with hn | hn | hn | hn <;> rw [hn] at hanswer
  · rw [if_neg fun h => h.1 hanswer.1]
    simp [requestSucceeded, hb, identityAnswered, hn, hanswer.2]
  · rw [if_neg fun h => h.1 hanswer.1]
    simp [requestSucceeded, hb, identityAnswered, hn, hanswer.2]
  · have hexp : expectedOldMap s r = true := by
      simp [expectedOldMap, hcheck, hn, hanswer.1, hanswer.2]
    rw [if_neg fun h => h.2 hexp]
    simp [requestSucceeded, hb, identityAnswered, hn, hexp]
  · rw [if_neg fun h => h.1 hanswer.1]
    have hmac : ¬ (c.expectedMacFragment ≠ 0 ∧
        r.reply.words 0 &&& 0x7fff ≠ c.expectedMacFragment) := fun h => h.2 (hanswer.2 h.1)
    simp only [requestSucceeded, hb, identityAnswered, hn]
    simp only [show (3 : Nat) ≠ 0 by decide, show (3 : Nat) ≠ 1 by decide,
      show (3 : Nat) ≠ 2 by decide, false_and, if_false, if_true, if_neg hmac]

/-- An identity check that is passed. -/
theorem gatewayPollStep_confirmed {s : GatewayPoll}
    (h : gatewayPollStep c s now reply = (s', some r)) (hb : r.block = none) (hclock : r.InClock)
    (hle : (recheckProfile s r.now).profileStage ≤ 3)
    (hconf : r.Confirms c (recheckProfile s r.now).profileStage) :
    (recheckProfile s r.now).profileValid = false ∧ s'.model = s.model ∧
      s'.nextRequestMs = r.now + r.reply.result.elapsedMs + 250 ∧
      ((recheckProfile s r.now).profileStage < 3 ∧ s'.profileValid = false ∧
          s'.profileStage = (recheckProfile s r.now).profileStage + 1 ∨
        (recheckProfile s r.now).profileStage = 3 ∧ s'.profileValid = true ∧
          s'.profileCheckMs = r.now + r.reply.result.elapsedMs + 300000) := by
  obtain ⟨-, hnow, -, hchoose, rfl⟩ := gatewayPollStep_request h
  subst hnow
  rw [hb] at hchoose
  obtain ⟨hclosed, hreq⟩ := chooseRequest_identity hchoose
  have hroom := hclock.room
  have hcompleted := hclock.completed
  have hnext := settle_confirmed (s := issueRequest (recheckProfile s r.now) r) hb hle hconf
  refine ⟨hclosed, ?_⟩
  rcases settle_identity (s := issueRequest (recheckProfile s r.now) r) hb hreq hle with
    ⟨-, hmodel, hgate⟩ | ⟨hnot, -⟩
  · refine ⟨?_, ?_, ?_⟩
    · rw [hmodel, issueRequest_model, recheckProfile_model]
    · rw [hnext]
      change u64 (r.completed + 250) = _
      rw [u64_of_lt (by omega), hcompleted]
    · rcases hgate with ⟨hlt, hvalid, hstage⟩ | ⟨heq, hvalid, hcheck⟩
      · exact .inl ⟨hlt, hvalid.trans hclosed, hstage⟩
      · rw [u64_of_lt (by omega), hcompleted] at hcheck
        exact .inr ⟨heq, hvalid, hcheck⟩
  · exact absurd hconf hnot

/-- A scan block that is read. -/
theorem gatewayPollStep_read {s : GatewayPoll} (h : gatewayPollStep c s now reply = (s', some r))
    (hb : r.block = some b) (hclock : r.InClock) (hok : r.reply.result.error = .ok)
    (hpast : (s.model b).lastGoodMs ≤ r.now) :
    s.profileValid = true ∧ r.now < s.profileCheckMs ∧ s'.profileValid = true ∧
      s'.profileCheckMs = s.profileCheckMs ∧
      s'.nextRequestMs = r.now + r.reply.result.elapsedMs + 250 ∧
      s'.nextDue = Function.update s.nextDue b
        (r.now + r.reply.result.elapsedMs + (atsScanBlocks b).periodMs) ∧
      (∀ k, k ≠ b → s'.model k = s.model k) ∧ (s'.model b).acquired = true ∧
      (s'.model b).failed = false ∧ (s'.model b).lastGoodMs = r.now + r.reply.result.elapsedMs := by
  obtain ⟨-, hnow, -, hchoose, rfl⟩ := gatewayPollStep_request h
  subst hnow
  rw [hb] at hchoose
  obtain ⟨hopen, hearliest, hoffset, hquantity⟩ := chooseRequest_data hchoose
  obtain ⟨hsame, hcheck⟩ := recheckProfile_of_valid hopen
  rw [hsame] at hopen ⊢
  have hroom := hclock.room
  have hcompleted := hclock.completed
  have hperiod := atsScanBlocks_periodMs b
  rw [settle_of_ok hok]
  have hmodel : (requestSucceeded c (issueRequest s r) r).model =
      Function.update s.model b ((s.model b).apply (atsScanBlocks b).count r.reply.words r.completed) := by
    have hnot : ¬ (s.model b).refuses r.completed = true := by
      unfold AtsBlockState.refuses
      rw [Bool.and_eq_true, decide_eq_true_eq]
      omega
    simp only [requestSucceeded, hb, blockRead, hoffset, hquantity, atsModelApplyBlock_scanBlock]
    exact if_neg hnot
  have hdue : (requestSucceeded c (issueRequest s r) r).nextDue =
      Function.update s.nextDue b (u64 (r.completed + (atsScanBlocks b).periodMs)) := by
    simp only [requestSucceeded, hb, blockRead]
    rfl
  have hnext : (requestSucceeded c (issueRequest s r) r).nextRequestMs = u64 (r.completed + 250) := by
    simp only [requestSucceeded, hb, blockRead]
    rfl
  have hgate : (requestSucceeded c (issueRequest s r) r).profileValid = s.profileValid ∧
      (requestSucceeded c (issueRequest s r) r).profileCheckMs = s.profileCheckMs := by
    simp only [requestSucceeded, hb, blockRead]
    exact ⟨rfl, rfl⟩
  refine ⟨hopen, hcheck, hgate.1.trans hopen, hgate.2, ?_, ?_, fun k hk => ?_, ?_, ?_, ?_⟩
  · rw [hnext, u64_of_lt (by omega), hcompleted]
  · rw [hdue, u64_of_lt (by omega), hcompleted]
  · rw [hmodel, Function.update_of_ne hk]
  · rw [hmodel, Function.update_self]
    rfl
  · rw [hmodel, Function.update_self]
    rfl
  · rw [hmodel, Function.update_self, ← hcompleted]
    rfl

end ModbusGateway
