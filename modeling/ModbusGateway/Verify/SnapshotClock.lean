import ModbusGateway.Verify.AppStep
import ModbusGateway.Verify.PointQuality

/-!
# The clock of a snapshot

`snapshot_values` reads the clock before it takes the lock. A block that is published in between may be
newer than that reading, and the decoder takes it for stale.
-/

namespace ModbusGateway
open Samples

/-- The reasons for a fault of a point whose own block is not good. -/
def ownFaultReasons : List String :=
  ["Latest block read failed; previous raw value retained",
    "Block data is stale or clock moved backwards"]

/-- The value is reported as a communication failure on account of its own block. -/
structure AtsValue.OwnFault (v : AtsValue) : Prop where
  quality : v.quality = .comm
  reason : v.qualityReason ∈ ownFaultReasons

theorem AtsValue.not_ownFault_of_quality {v : AtsValue} (h : v.quality ≠ .comm) : ¬ v.OwnFault :=
  fun H => h H.quality

theorem AtsValue.not_ownFault_of_grade (h : why ∉ ownFaultReasons) :
    ¬ (AtsValue.grade v q why).OwnFault :=
  fun H => h H.reason

/-- A value that is decoded is not a communication failure. -/
theorem decodeValue_quality (h : v.quality ≠ .comm) : (decodeValue i words v).quality ≠ .comm := by
  unfold decodeValue
  dsimp only
  split
  all_goals repeat' split
  all_goals first | exact h | exact fun hcomm => (by cases hcomm)

/-- What else a value needs is another block's affair. -/
theorem qualify_not_ownFault (h : v.quality ≠ .comm) : ¬ (qualify m pt now v).OwnFault := by
  unfold qualify
  repeat' split
  all_goals first
    | exact AtsValue.not_ownFault_of_quality h
    | exact AtsValue.not_ownFault_of_grade (by decide)

/-- An acquired point is reported on account of its own block exactly if the block is not good. -/
theorem decodePoint_ownFault
    (hb : containingBlock (atsPoints i).offset (atsPoints i).wordCount = some b)
    (hacq : (m b).acquired = true) :
    (decodePoint m now i).OwnFault ↔ blockGood m b now = false := by
  unfold decodePoint
  dsimp only
  rw [hb]
  dsimp only
  rw [hacq]
  cases hgood : blockGood m b now with
  | true =>
    refine iff_of_false ?_ (by decide)
    simp only [Bool.not_true, Bool.false_eq_true, if_false]
    exact qualify_not_ownFault (decodeValue_quality (show Quality.good ≠ .comm by decide))
  | false =>
    refine iff_of_true ?_ rfl
    simp only [Bool.not_true, Bool.not_false, Bool.false_eq_true, if_false, if_true]
    refine ⟨rfl, ?_⟩
    unfold AtsValue.grade
    split
    · exact List.mem_cons_self
    · exact List.mem_cons_of_mem _ List.mem_cons_self

/-- The entries of the ATS catalogue, with the network up as it was when they were published. -/
theorem snapshotValues_ats {s : App c} (hats : c.isCustom = false) (hconfig : c.configError = [])
    (hup : s.networkUp = true) (hgen : s.publishedGeneration = s.networkGeneration) {i : PointIndex}
    (hi : i.val < c.activeCount) (now : Nat) :
    (snapshotValues s now)[i.val]? = some (atsModelDecodeAll s.published.model now i) := by
  have hcond : (!(s.networkUp && s.publishedGeneration == s.networkGeneration) ||
      !c.configError.isEmpty) = false := by
    rw [hup, hgen, hconfig, beq_self_eq_true]
    rfl
  unfold snapshotValues
  dsimp only
  rw [hcond, hats]
  simp only [Bool.false_eq_true, if_false]
  rw [List.getElem?_take, if_pos hi, List.getElem?_ofFn, dif_pos i.isLt]

/-- No reading is ahead of the clock. -/
theorem pending_le_clock (run : (appSystem c).Run h s) : ∀ now ∈ s.pending, now ≤ s.clock := by
  induction run with
  | init hinit =>
    cases hinit
    exact fun _ hmem => (by cases hmem)
  | step hrun hstep ih =>
    obtain ⟨input, hnext⟩ := hstep
    have hstep := AppStep.ofNext hnext
    have hclock := hstep.clock_le
    intro now hmem
    cases hstep with
    | enter hle =>
      rcases List.mem_cons.mp hmem with rfl | hmem
      · exact hle
      · exact ih now hmem
    | snapshot => exact ih now (List.mem_of_mem_erase hmem)
    | tick | checkOffline | publishOffline | network | sample | check | start | skip | idle | read
    | customRead | publish => exact Nat.le_trans (ih now hmem) hclock

/-- While a snapshot holds the lock, a point whose published block is acquired, not failed and not
stale is free of a fault of its own exactly if the block is not newer than the reading of the clock
the snapshot has brought along. -/
theorem snapshotValues_ownFault (run : (appSystem c).Run h s) (hnow : now ∈ s.pending)
    (hats : c.isCustom = false) (hconfig : c.configError = []) (hup : s.networkUp = true)
    (hgen : s.publishedGeneration = s.networkGeneration) {i : PointIndex} (hi : i.val < c.activeCount)
    (hb : containingBlock (atsPoints i).offset (atsPoints i).wordCount = some b)
    (hacq : (s.published.model b).acquired = true) (hfail : (s.published.model b).failed = false)
    (hage : s.clock - (s.published.model b).lastGoodMs ≤ (atsScanBlocks b).staleMs) :
    ∃ v, (snapshotValues s now)[i.val]? = some v ∧
      (¬ v.OwnFault ↔ (s.published.model b).lastGoodMs ≤ now) := by
  refine ⟨_, snapshotValues_ats hats hconfig hup hgen hi now, ?_⟩
  have hpast := pending_le_clock run now hnow
  have hgood : blockGood s.published.model b now = true ↔
      (s.published.model b).lastGoodMs ≤ now := by
    rw [blockGood_iff]
    constructor
    · exact fun h => h.2.2.1
    · exact fun hle => ⟨hacq, hfail, hle, by omega⟩
  rw [← hgood]
  exact (not_congr (decodePoint_ownFault hb hacq)).trans (Bool.not_eq_false _).to_iff

/-- The overview block is read while a snapshot has read the clock and waits for the lock. -/
def racingInputs : List AppInput :=
  [.network true] ++ pollIteration (wordReply 23) ++ pollIteration (wordReply 515) ++
    pollIteration oldMapReply ++ pollIteration (wordReply 0x3456) ++
    [.sample, .check 0 0 0, .start, .enter 1080, .tick 20, .finish (wordReply 4), .publish 0 0 0,
      .enter 1100]

/-- What the snapshot meets: the overview block was read successfully at 1100, which is the present. -/
theorem racing_published :
    let s := (appAfter defaultBoot racingInputs).2
    (1080 ∈ s.pending ∧ 1100 ∈ s.pending) ∧ s.networkUp = true ∧
      s.publishedGeneration = s.networkGeneration ∧ (s.published.model 0).acquired = true ∧
      (s.published.model 0).failed = false ∧ (s.published.model 0).lastGoodMs = 1100 ∧
      s.clock - (s.published.model 0).lastGoodMs ≤ (atsScanBlocks 0).staleMs := by
  decide +kernel

theorem lineVoltage_block :
    containingBlock (atsPoints 6).offset (atsPoints 6).wordCount = some 0 := by
  decide +kernel

/-- The reading at 1100 sees the voltage. -/
theorem snapshotValues_ownFault_racing :
    ∃ v, (snapshotValues (appAfter defaultBoot racingInputs).2 1100)[6]? = some v ∧
      ¬ v.OwnFault := by
  obtain ⟨hpending, hup, hgen, hacq, hfail, htime, hage⟩ := racing_published
  obtain ⟨v, hv, hfault⟩ := snapshotValues_ownFault (appSystem_run _ _) hpending.2 rfl rfl hup hgen
    (show (6 : PointIndex).val < defaultBoot.activeCount by decide) lineVoltage_block hacq hfail hage
  exact ⟨v, hv, hfault.mpr (Nat.le_of_eq htime)⟩

/-- The reading at 1080 does not: it takes the block for stale in the instant it was read. -/
theorem snapshotValues_racing : ∃ h s, (appSystem defaultBoot).Run h s ∧ 1080 ∈ s.pending ∧
    defaultBoot.isCustom = false ∧ defaultBoot.configError = [] ∧ s.networkUp = true ∧
    s.publishedGeneration = s.networkGeneration ∧
    containingBlock (atsPoints 6).offset (atsPoints 6).wordCount = some 0 ∧
    (s.published.model 0).acquired = true ∧ (s.published.model 0).failed = false ∧
    s.clock - (s.published.model 0).lastGoodMs ≤ (atsScanBlocks 0).staleMs ∧
    ∃ v, (snapshotValues s 1080)[6]? = some v ∧ v.OwnFault := by
  obtain ⟨hpending, hup, hgen, hacq, hfail, htime, hage⟩ := racing_published
  refine ⟨_, _, appSystem_run defaultBoot racingInputs, hpending.1, rfl, rfl, hup, hgen,
    lineVoltage_block, hacq, hfail, hage, ?_⟩
  have hvalue := snapshotValues_ats (c := defaultBoot) rfl rfl hup hgen (i := 6) (by decide) 1080
  refine ⟨_, hvalue, (decodePoint_ownFault lineVoltage_block hacq).mpr ?_⟩
  rw [Bool.eq_false_iff, ne_eq, blockGood_iff, htime]
  exact fun h => absurd h.2.2.1 (by decide)

end ModbusGateway
