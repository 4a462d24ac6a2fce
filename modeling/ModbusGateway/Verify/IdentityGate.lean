import ModbusGateway.Verify.PollStep

/-!
# The identity gate of the ATS poller

The gate is spread over `profileValid`, `profileStage` and `profileCheckMs`. The invariant `Gate`
ties the three fields to the history: a closed gate at stage `n` is the last `n` calls having
confirmed the checks `0, …, n - 1`, and an open gate is a completed sequence after which only data
requests were made, none of which lost the peer.
-/

namespace ModbusGateway

/-- The calls of a history that reached the poller's state or its peer. -/
def observed (h : List PollLabel) : List PollLabel :=
  h.filter fun
    | .idle _ => false
    | _ => true

/-- The last `n` observed calls are the requests that confirm the stages `0, …, n - 1`. -/
def Passed (c : GatewayPollConfig) : Nat → List PollLabel → Prop
  | 0, _ => True
  | n + 1, .request r :: h => r.Confirms c n ∧ Passed c n h
  | _ + 1, _ => False

/-- A data request that did not lose the peer: it succeeded, or was answered by an exception. -/
def PollLabel.Benign : PollLabel → Prop
  | .request r => r.checking = false ∧ ¬ r.transportFailed
  | _ => False

/-- The sequence was completed by the request `r`, and only benign calls came after it. -/
structure Verified (c : GatewayPollConfig) (h newer : List PollLabel) (r : PollRequest)
    (older : List PollLabel) : Prop where
  split : h = newer ++ .request r :: older
  confirms : r.Confirms c 3
  passed : Passed c 3 older
  benign : ∀ l ∈ newer, l.Benign

theorem Verified.cons (H : Verified c h newer r older) (hl : l.Benign) :
    Verified c (l :: h) (l :: newer) r older where
  split := by rw [H.split]; rfl
  confirms := H.confirms
  passed := H.passed
  benign l' hl' := by
    rcases List.mem_cons.mp hl' with rfl | hl'
    · exact hl
    · exact H.benign l' hl'

/-- What the gate fields of a state stand for. -/
inductive Gate (c : GatewayPollConfig) (h : List PollLabel) (s : GatewayPoll) : Prop
  | closed : s.profileValid = false → s.profileStage ≤ 3 → Passed c s.profileStage h → Gate c h s
  | opened : s.profileValid = true → Verified c h newer r older →
    s.profileCheckMs = u64 (r.completed + 300000) → Gate c h s

theorem Gate.ofStageZero (hv : s.profileValid = false) (hs : s.profileStage = 0) : Gate c h s :=
  .closed hv (by omega) (by rw [hs]; trivial)

theorem Gate.recheck (H : Gate c h s) (now : Nat) : Gate c h (recheckProfile s now) := by
  rcases recheckProfile_cases s now with ⟨heq, _⟩ | ⟨hv, hs⟩
  · rw [heq]; exact H
  · exact .ofStageZero hv hs

/-- A gate is carried over to a state with the same gate fields. -/
theorem Gate.congr (H : Gate c h s) (hv : s'.profileValid = s.profileValid)
    (hs : s'.profileStage = s.profileStage) (hc : s'.profileCheckMs = s.profileCheckMs) :
    Gate c h s' := by
  cases H with
  | closed h1 h2 h3 => exact .closed (hv.trans h1) (hs ▸ h2) (hs ▸ h3)
  | opened h1 h2 h3 => exact .opened (hv.trans h1) h2 (hc.trans h3)

theorem Gate.benign (H : Gate c h s) (hv : s.profileValid = true) (hl : l.Benign) :
    Gate c (l :: h) s := by
  cases H with
  | closed h1 => rw [hv] at h1; cases h1
  | opened h1 h2 h3 => exact .opened h1 (h2.cons hl) h3

/-- One request keeps the invariant. -/
theorem Gate.settle (H : Gate c h s)
    (hchoose : chooseRequest s r.now = some (r.offset, r.quantity, r.block)) :
    Gate c (.request r :: h) (settle c (issueRequest s r) r) := by
  cases hb : r.block with
  | none =>
    rw [hb] at hchoose
    obtain ⟨hv, hreq⟩ := chooseRequest_identity hchoose
    cases H with
    | opened h1 => rw [hv] at h1; cases h1
    | closed _ hle hpassed =>
      rcases settle_identity (c := c) (s := issueRequest s r) hb hreq hle with
        ⟨hconf, -, ⟨hlt, h1, h2⟩ | ⟨h3, h1, h2⟩⟩ | ⟨-, -, h1, h2⟩
      · refine .closed (h1.trans hv) (h2 ▸ hlt) ?_
        rw [h2]
        exact ⟨hconf, hpassed⟩
      · rw [show s.profileStage = 3 from h3] at hpassed
        rw [h3] at hconf
        have hver : Verified c (.request r :: h) [] r h :=
          ⟨rfl, hconf, hpassed, fun _ h => nomatch h⟩
        exact .opened h1 hver h2
      · exact .ofStageZero h1 h2
  | some b =>
    rw [hb] at hchoose
    obtain ⟨hv, -⟩ := chooseRequest_data hchoose
    have hdata : r.checking = false := by simp [PollRequest.checking, hb]
    rcases settle_data (c := c) (s := issueRequest s r) hb with
      ⟨hok, -, h1, h2, h3⟩ | ⟨-, hx, -, h1, h2, h3⟩ | ⟨-, -, h1, h2⟩
    · have hbenign : (PollLabel.request r).Benign := ⟨hdata, fun ht => ht.1 hok⟩
      exact (H.benign hv hbenign).congr h1 h2 h3
    · have hbenign : (PollLabel.request r).Benign := ⟨hdata, fun ht => hx ht.2⟩
      exact (H.benign hv hbenign).congr h1 h2 h3
    · exact .ofStageZero h1 h2

/-- The invariant holds of every run. -/
theorem Gate.ofRun (run : (pollSystem c).Run h s) : Gate c (observed h) s := by
  refine run.invariant (I := fun h s => Gate c (observed h) s) ?_ ?_
  · rintro s rfl
    exact .ofStageZero rfl rfl
  · intro h s l s' _ ih hstep
    cases pollSystem_step hstep with
    | offline => exact .ofStageZero rfl rfl
    | idle => exact ih
    | request hrequest =>
      obtain ⟨-, -, -, hchoose, rfl⟩ := gatewayPollStep_request hrequest
      exact (ih.recheck _).settle hchoose

theorem atsScanBlocks_offset_ne : ∀ b : BlockIndex, (atsScanBlocks b).offset ≠ 1201 := by decide

/-- Register 1201 is read only right after the three checks before it were confirmed, and a scan
block only behind a confirmed sequence that is less than 300 s old and was followed by nothing but
data requests that did not lose the peer. -/
theorem gatewayPollStep_gated (run : (pollSystem c).Run h s)
    (hstep : gatewayPollStep c s now reply = (s', some r)) :
    (r.offset = 1201 → Passed c 3 (observed h)) ∧
      (r.checking = false → ∃ newer q older, Verified c (observed h) newer q older ∧
        r.now < q.completed + 300000) := by
  have H := Gate.ofRun run
  obtain ⟨-, rfl, -, hchoose, -⟩ := gatewayPollStep_request hstep
  cases hb : r.block with
  | none =>
    rw [hb] at hchoose
    obtain ⟨hv, hreq⟩ := chooseRequest_identity hchoose
    refine ⟨fun hoff => ?_, fun hc => by simp [PollRequest.checking, hb] at hc⟩
    cases H.recheck r.now with
    | opened h1 => rw [hv] at h1; cases h1
    | closed _ hle hpassed =>
      have hstage : (recheckProfile s r.now).profileStage = 3 := by
        generalize (recheckProfile s r.now).profileStage = n at hreq hle
        rw [hoff] at hreq
        rcases n with _ | _ | _ | _ | n
        case succ.succ.succ.zero => rfl
        case succ.succ.succ.succ => omega
        all_goals simp [identityRequest] at hreq
      rwa [hstage] at hpassed
  | some b =>
    rw [hb] at hchoose
    obtain ⟨hv, -, hoff, -⟩ := chooseRequest_data hchoose
    obtain ⟨heq, hlt⟩ := recheckProfile_of_valid hv
    refine ⟨fun h => absurd (hoff.symm.trans h) (atsScanBlocks_offset_ne b), fun _ => ?_⟩
    cases H with
    | closed h1 => rw [heq, h1] at hv; cases hv
    | opened _ h2 h3 =>
      refine ⟨_, _, _, h2, ?_⟩
      calc r.now < s.profileCheckMs := hlt
        _ = u64 (_ + 300000) := h3
        _ ≤ _ := u64_le

/-- A controller of firmware 515 with MAC fragment 0x3456 answers the four checks. -/
def commissionedConfig : GatewayPollConfig where
  expectedFirmware := 515
  expectedMacFragment := 0x3456

def commissioningCalls : List PollCall :=
  [.step 0 (wordReply 23), .step 270 (wordReply 515), .step 540 oldMapReply,
    .step 810 (wordReply 0x3456)]

theorem gatewayPollStep_gated_commissioned :
    ∃ r s', gatewayPollStep commissionedConfig
        (pollAfter commissionedConfig commissioningCalls).2 1080 (wordReply 4) = (s', some r) ∧
      r.checking = false ∧
      ∃ newer q older,
        Verified commissionedConfig (observed (pollAfter commissionedConfig commissioningCalls).1)
          newer q older ∧ r.now < q.completed + 300000 := by
  have hissued : (gatewayPollStep commissionedConfig
      (pollAfter commissionedConfig commissioningCalls).2 1080 (wordReply 4)).2.any
        (fun r => !r.checking) = true := by decide +kernel
  generalize hstep : gatewayPollStep commissionedConfig
    (pollAfter commissionedConfig commissioningCalls).2 1080 (wordReply 4) = out at hissued
  obtain ⟨s', _ | r⟩ := out
  · cases hissued
  · have hdata : r.checking = false := by simpa using hissued
    exact ⟨r, s', rfl, hdata, (gatewayPollStep_gated (pollSystem_run _ _) hstep).2 hdata⟩

end ModbusGateway
