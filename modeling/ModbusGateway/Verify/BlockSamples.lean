import ModbusGateway.Theory.Samples
import ModbusGateway.Verify.IdentityGate

/-!
# The block store as a family of samples

Every call of the ATS poller acts on the block store as an effect of `Theory/Samples`: a successful
data request takes a sample of its block, a failed one voids that block, and a lost peer, an
identity check that is not confirmed and an offline call void all of them. `BlockStore` is the
simulation relation; it needs the clock, since the store refuses events older than its samples.
-/

namespace ModbusGateway
open Samples

/-! ## The operations of the store, block by block -/

theorem exactBlock_scanBlock : ∀ b : BlockIndex,
    exactBlock (atsScanBlocks b).offset (atsScanBlocks b).count = some b := by decide

theorem atsModelFailBlock_scanBlock (m : AtsModel) (b : BlockIndex) (t : Nat) :
    atsModelFailBlock m (atsScanBlocks b).offset (atsScanBlocks b).count t =
      if (m b).refuses t then m else Function.update m b ((m b).fail t) := by
  simp only [atsModelFailBlock, exactBlock_scanBlock]

theorem atsModelApplyBlock_scanBlock (m : AtsModel) (b : BlockIndex) (words : Nat → UInt16)
    (t : Nat) :
    atsModelApplyBlock m (atsScanBlocks b).offset (atsScanBlocks b).count words t =
      if (m b).refuses t then m
      else Function.update m b ((m b).apply (atsScanBlocks b).count words t) := by
  simp only [atsModelApplyBlock, exactBlock_scanBlock]

theorem failAllBlocks_apply (m : AtsModel) (t : Nat) (b : BlockIndex) :
    failAllBlocks m t b = if (m b).refuses t then m b else (m b).fail t := by
  suffices ∀ (l : List BlockIndex) (m : AtsModel),
      l.foldl (fun m b => atsModelFailBlock m (atsScanBlocks b).offset (atsScanBlocks b).count t)
        m b = if b ∈ l ∧ ¬ (m b).refuses t then (m b).fail t else m b by
    unfold failAllBlocks
    rw [this]
    by_cases hr : (m b).refuses t <;> simp [hr]
  intro l
  induction l with
  | nil => intro m; simp
  | cons a l ih =>
    intro m
    rw [List.foldl_cons, ih, atsModelFailBlock_scanBlock]
    by_cases hab : b = a
    · subst hab
      by_cases hr : (m b).refuses t = true
      · simp [hr]
      · simp [hr, AtsBlockState.fail]
    · split <;> simp [hab]

theorem containingBlock_bounds (h : containingBlock offset count = some b) :
    (atsScanBlocks b).offset ≤ offset ∧
      offset + count ≤ (atsScanBlocks b).offset + (atsScanBlocks b).count := by
  have := List.find?_some h
  simpa using this

/-! ## Effects -/

/-- An identity check whose answer is not the one any stage expects. -/
def PollRequest.Rejected (c : GatewayPollConfig) (r : PollRequest) : Prop :=
  r.checking = true ∧ ∀ stage, ¬ r.Confirms c stage

open Classical in
noncomputable def requestEffect (c : GatewayPollConfig) (r : PollRequest) :
    Effect BlockIndex PollRequest :=
  match r.block with
  | none => if r.Rejected c then .void fun _ => True else .skip
  | some b =>
    if r.reply.result.error = .ok then .take b r
    else if r.reply.result.exceptionCode = 0 then .void fun _ => True
    else .void fun k => k = b

noncomputable def pollEffect (c : GatewayPollConfig) : PollLabel → Effect BlockIndex PollRequest
  | .idle _ => .skip
  | .offline _ => .void fun _ => True
  | .request r => requestEffect c r

/-- Only a successful data request takes a sample, and it is the sample. -/
theorem requestEffect_take (h : requestEffect c q = .take b r) :
    q = r ∧ r.block = some b ∧ r.reply.result.error = .ok := by
  unfold requestEffect at h
  split at h
  · split at h <;> cases h
  · next hq =>
    split at h
    · next hok => cases h; exact ⟨rfl, hq, hok⟩
    · split at h <;> cases h

/-- The answer to the outstanding check is rejected exactly when it does not confirm it. -/
theorem PollRequest.rejected_iff {r : PollRequest} (hc : r.checking = true)
    (hreq : identityRequest stage = (r.offset, r.quantity)) (hle : stage ≤ 3) :
    r.Rejected c ↔ ¬ r.Confirms c stage := by
  refine ⟨fun h => h.2 stage, fun h => ⟨hc, fun n hn => h ?_⟩⟩
  have hreq' := hn.2.1
  rw [← hreq] at hreq'
  obtain rfl | rfl | rfl | rfl : stage = 0 ∨ stage = 1 ∨ stage = 2 ∨ stage = 3 := by omega
  all_goals
    rcases n with _ | _ | _ | n
    all_goals
      first
      | exact hn
      | simp [identityRequest] at hreq'

theorem PollRequest.Confirms.not_transportFailed {r : PollRequest} (h : r.Confirms c stage) :
    ¬ r.transportFailed := by
  rintro ⟨herr, hx⟩
  obtain ⟨-, -, h⟩ := h
  match stage with
  | 0 | 1 | n + 3 => exact herr h.1
  | 2 => rw [hx] at h; exact absurd h.2 (by decide)

/-- What no newer call may do to a block for its sample to count. -/
def PollLabel.Undisturbed (c : GatewayPollConfig) (b : BlockIndex) : PollLabel → Prop
  | .idle _ => True
  | .offline _ => False
  | .request r => r.block ≠ some b ∧ ¬ r.transportFailed ∧ ¬ r.Rejected c

theorem undisturbed_of_effect {l : PollLabel} (ht : ¬ (pollEffect c l).Takes b)
    (hv : ¬ (pollEffect c l).Voids b) : l.Undisturbed c b := by
  cases l with
  | idle now => trivial
  | offline now => exact hv trivial
  | request r =>
    simp only [pollEffect, requestEffect] at ht hv
    cases hb : r.block with
    | none =>
      simp only [hb] at hv
      have hrej : ¬ r.Rejected c := fun h => hv (by rw [if_pos h]; trivial)
      refine ⟨by simp [hb], fun hlost => hrej ⟨by simp [PollRequest.checking, hb], ?_⟩, hrej⟩
      exact fun _ hconf => hconf.not_transportFailed hlost
    | some b' =>
      simp only [hb] at ht hv
      refine ⟨fun h => ?_, fun hlost => ?_, fun hrej => ?_⟩
      · cases hb.symm.trans h
        by_cases hok : r.reply.result.error = .ok
        · exact ht (by rw [if_pos hok]; rfl)
        · exact hv (by rw [if_neg hok]; split <;> trivial)
      · exact hv (by rw [if_neg hlost.1, if_pos hlost.2]; trivial)
      · simp [PollRequest.Rejected, PollRequest.checking, hb] at hrej

/-! ## The simulation -/

/-- The store `m` holds the samples `slots`, all of them taken by `now`. -/
structure BlockStore (m : AtsModel) (slots : BlockIndex → Slot PollRequest) (now : Nat) : Prop where
  acquired : ∀ b, (m b).acquired = true ↔ ∃ r, (slots b).last = some r
  good : ∀ b, (m b).acquired = true ∧ (m b).failed = false ↔ (slots b).valid
  sample : ∀ b r, (slots b).last = some r → (m b).lastGoodMs = r.completed ∧
    ∀ j < (atsScanBlocks b).count, (m b).words j = r.reply.words j
  past : ∀ b, (m b).acquired = true → (m b).lastGoodMs ≤ now

namespace BlockStore

theorem init : BlockStore atsModelInit (fun _ => .empty) now where
  acquired b := by simp [atsModelInit, Slot.empty]
  good b := by simp [atsModelInit, Slot.empty]
  sample b r h := by cases h
  past b h := by cases h

theorem mono (hle : now ≤ now') (H : BlockStore m slots now) : BlockStore m slots now' :=
  { H with past := fun b hb => Nat.le_trans (H.past b hb) hle }

theorem not_refuses (H : BlockStore m slots now) (hle : now ≤ t) : (m b).refuses t = false := by
  simp only [AtsBlockState.refuses, Bool.and_eq_false_iff, decide_eq_false_iff_not, Nat.not_lt]
  cases ha : (m b).acquired with
  | false => exact .inl rfl
  | true => exact .inr (Nat.le_trans (H.past b ha) hle)

/-- Failing some of the blocks voids their samples. -/
theorem void (H : BlockStore m slots now) (s : BlockIndex → Prop)
    (hs : ∀ b, s b → m' b = (m b).fail t) (hns : ∀ b, ¬ s b → m' b = m b) :
    BlockStore m' ((Effect.void s).apply slots) now := by
  have hm (b) : (m' b).acquired = (m b).acquired ∧ (m' b).lastGoodMs = (m b).lastGoodMs ∧
      (m' b).words = (m b).words := by
    by_cases hb : s b
    · rw [hs b hb]; exact ⟨rfl, rfl, rfl⟩
    · rw [hns b hb]; exact ⟨rfl, rfl, rfl⟩
  refine ⟨fun b => ?_, fun b => ?_, fun b r h => ?_, fun b h => ?_⟩
  · rw [(hm b).1]; exact H.acquired b
  · by_cases hb : s b
    · simp [Effect.apply, hb, hs b hb, AtsBlockState.fail]
    · simp only [Effect.apply, hb, hns b hb, not_false_eq_true, and_true]
      exact H.good b
  · rw [(hm b).2.1, (hm b).2.2]; exact H.sample b r h
  · rw [(hm b).2.1]; exact H.past b ((hm b).1 ▸ h)

theorem failAll (H : BlockStore m slots now) (hle : now ≤ t) :
    BlockStore (failAllBlocks m t) ((Effect.void fun _ => True).apply slots) t :=
  (H.void (t := t) (fun _ => True)
    (fun b _ => by rw [failAllBlocks_apply, H.not_refuses hle]; rfl)
    (fun _ h => absurd trivial h)).mono hle

theorem failOne (H : BlockStore m slots now) (hle : now ≤ t) (b : BlockIndex) :
    BlockStore (atsModelFailBlock m (atsScanBlocks b).offset (atsScanBlocks b).count t)
      ((Effect.void fun k => k = b).apply slots) t := by
  rw [atsModelFailBlock_scanBlock, H.not_refuses hle, if_neg Bool.false_ne_true]
  refine (H.void (t := t) (fun k => k = b) ?_ ?_).mono hle
  · rintro k rfl; simp
  · intro k hk; simp [hk]

theorem take (H : BlockStore m slots now) (hle : now ≤ r.completed) (b : BlockIndex) :
    BlockStore (atsModelApplyBlock m (atsScanBlocks b).offset (atsScanBlocks b).count
      r.reply.words r.completed) ((Effect.take b r).apply slots) r.completed := by
  rw [atsModelApplyBlock_scanBlock, H.not_refuses hle, if_neg Bool.false_ne_true]
  refine ⟨fun k => ?_, fun k => ?_, fun k q h => ?_, fun k h => ?_⟩
  all_goals by_cases hk : k = b
  all_goals try simp only [Effect.apply, Function.update_of_ne hk] at *
  · subst hk; simp [Effect.apply, AtsBlockState.apply]
  · exact H.acquired k
  · subst hk; simp [Effect.apply, AtsBlockState.apply]
  · exact H.good k
  · subst hk
    simp only [Effect.apply, Function.update_self, Option.some.injEq] at h ⊢
    subst h
    exact ⟨rfl, fun j hj => if_pos hj⟩
  · exact H.sample k q h
  · subst hk; simp [AtsBlockState.apply]
  · exact Nat.le_trans (H.past k h) hle

/-- A request acts on the store as its effect. -/
theorem settle (H : BlockStore s.model slots now) (hle : now ≤ r.completed)
    (hchoose : chooseRequest s r.now = some (r.offset, r.quantity, r.block))
    (hstage : s.profileValid = false → s.profileStage ≤ 3) :
    BlockStore (ModbusGateway.settle c (issueRequest s r) r).model
      ((requestEffect c r).apply slots) r.completed := by
  cases hb : r.block with
  | none =>
    rw [hb] at hchoose
    obtain ⟨hv, hreq⟩ := chooseRequest_identity hchoose
    have hrej := PollRequest.rejected_iff (c := c) (r := r) (by simp [PollRequest.checking, hb])
      hreq (hstage hv)
    rcases settle_identity (c := c) (s := issueRequest s r) hb hreq (hstage hv) with
      ⟨hconf, hm, -⟩ | ⟨hconf, hm, -⟩
    · simp only [requestEffect, hb, hm]
      rw [if_neg (mt hrej.mp (Classical.not_not.mpr hconf))]
      exact H.mono hle
    · simp only [requestEffect, hb, hm]
      rw [if_pos (hrej.mpr hconf)]
      exact H.failAll hle
  | some b =>
    rw [hb] at hchoose
    obtain ⟨-, -, hoff, hqty⟩ := chooseRequest_data hchoose
    rcases settle_data (c := c) (s := issueRequest s r) hb with
      ⟨hok, hm, -⟩ | ⟨hok, hx, hm, -⟩ | ⟨⟨hok, hx⟩, hm, -⟩
    · simp only [requestEffect, hb, hm, if_pos hok, hoff, hqty]
      exact H.take hle b
    · simp only [requestEffect, hb, hm, if_neg hok, if_neg hx, hoff, hqty]
      exact H.failOne hle b
    · simp only [requestEffect, hb, hm, if_neg hok, if_pos hx, hoff, hqty]
      have H' := (H.failOne hle b).failAll (Nat.le_refl _)
      simpa [Effect.apply] using H'

end BlockStore

/-- The stage of a closed gate is one of the four checks. -/
theorem profileStage_le (run : (pollSystem c).Run h s) (hv : s.profileValid = false) :
    s.profileStage ≤ 3 := by
  cases Gate.ofRun run with
  | closed _ hle => exact hle
  | opened h1 => rw [hv] at h1; cases h1

/-- Along a run on the clock the store simulates the history. -/
theorem BlockStore.ofRun (run : (pollSystem c).Run h s)
    (hclock : Clocked PollLabel.start PollLabel.finish now h) (hnow : now < 2 ^ 64) :
    BlockStore s.model (replay (pollEffect c) h) now := by
  induction run generalizing now with
  | init hinit => cases hinit; exact .init
  | step hrun hstep ih =>
    obtain ⟨hfin, hstart, htail⟩ := hclock
    have H := ih htail (by omega)
    cases pollSystem_step hstep with
    | offline => exact (H.failAll (Nat.le_refl _)).mono hfin
    | idle => exact H.mono hfin
    | @request _ r hrequest =>
      obtain ⟨-, -, -, hchoose, rfl⟩ := gatewayPollStep_request hrequest
      have hcompleted : r.completed = r.now + r.reply.result.elapsedMs :=
        u64_of_lt (Nat.lt_of_le_of_lt hfin hnow)
      rw [← recheckProfile_model _ r.now] at H
      refine (H.settle (by rw [hcompleted]; exact hstart) hchoose
        (recheckProfile_stage_le (profileStage_le hrun))).mono ?_
      rw [hcompleted]; exact hfin

end ModbusGateway
