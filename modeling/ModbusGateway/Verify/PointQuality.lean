import ModbusGateway.Verify.BlockSamples

/-!
# Soundness of a GOOD point

`decodePoint_good` is what the decoder alone guarantees of a point it reports GOOD, and
`atsModelDecodeAll_good` follows it back through the block store to the one request of the run that
produced the value.
-/

namespace ModbusGateway
open Samples

/-- The value keeps the sample it was decoded from; only its reading and its grade change. -/
structure AtsValue.SameSample (v w : AtsValue) : Prop where
  lastGoodMs : v.lastGoodMs = w.lastGoodMs
  rawWords : v.rawWords = w.rawWords
  rawCount : v.rawCount = w.rawCount

theorem decodeValue_sameSample (i : PointIndex) (words : Nat → UInt16) (v : AtsValue) :
    (decodeValue i words v).SameSample v := by
  unfold decodeValue
  dsimp only
  split
  all_goals repeat' split
  all_goals exact ⟨rfl, rfl, rfl⟩

theorem qualify_sameSample (m : AtsModel) (pt : AtsPointDef) (now : Nat) (v : AtsValue) :
    (qualify m pt now v).SameSample v := by
  unfold qualify
  repeat' split
  all_goals exact ⟨rfl, rfl, rfl⟩

theorem AtsValue.SameSample.trans {u v w : AtsValue} (h : u.SameSample v) (h' : v.SameSample w) :
    u.SameSample w :=
  ⟨h.lastGoodMs.trans h'.lastGoodMs, h.rawWords.trans h'.rawWords, h.rawCount.trans h'.rawCount⟩

/-- A GOOD point comes from a good block, with the block's time and the point's own words. -/
theorem decodePoint_good (hgood : (decodePoint m now i).quality = .good) :
    ∃ b, containingBlock (atsPoints i).offset (atsPoints i).wordCount = some b ∧
      blockGood m b now = true ∧
      (decodePoint m now i).lastGoodMs = (m b).lastGoodMs ∧
      (decodePoint m now i).rawCount = (atsPoints i).wordCount ∧
      ∀ j < (atsPoints i).wordCount, (decodePoint m now i).rawWords j =
        (m b).words ((atsPoints i).offset - (atsScanBlocks b).offset + j) := by
  unfold decodePoint at hgood ⊢
  dsimp only at hgood ⊢
  split at hgood
  · cases hgood
  next b hb =>
  split at hgood
  · cases hgood
  next hacq =>
  split at hgood
  · cases hgood
  next hblock =>
  refine ⟨b, hb, by simpa using hblock, ?_⟩
  simp only [hacq, hblock, Bool.false_eq_true, if_false]
  have hsame := (qualify_sameSample m (atsPoints i) now _).trans
    (decodeValue_sameSample i (fun j => (m b).words ((atsPoints i).offset - (atsScanBlocks b).offset + j))
      { AtsValue.unacquired "" with
        quality := .good
        qualityReason := "Fresh controller-reported value"
        lastGoodMs := (m b).lastGoodMs
        rawWords := fun j =>
          if j < (atsPoints i).wordCount then
            (m b).words ((atsPoints i).offset - (atsScanBlocks b).offset + j)
          else 0
        rawCount := (atsPoints i).wordCount })
  refine ⟨hsame.lastGoodMs, hsame.rawCount, fun j hj => ?_⟩
  rw [hsame.rawWords]
  exact if_pos hj

theorem blockGood_iff : blockGood m b now = true ↔ (m b).acquired = true ∧ (m b).failed = false ∧
    (m b).lastGoodMs ≤ now ∧ now ≤ (m b).lastGoodMs + (atsScanBlocks b).staleMs := by
  simp only [blockGood, Bool.and_eq_true, Bool.not_eq_true', decide_eq_true_eq]
  constructor
  · rintro ⟨⟨⟨hacq, hfail⟩, hpast⟩, hfresh⟩
    exact ⟨hacq, hfail, hpast, by omega⟩
  · rintro ⟨hacq, hfail, hpast, hfresh⟩
    exact ⟨⟨⟨hacq, hfail⟩, hpast⟩, by omega⟩

/-- A point reported GOOD at `now` was read by one data request of the run, issued while the
profile was valid: it succeeded, the reported time is its completion and is fresh at `now`, the
reported words are the point's words of its response, and no call after it read the block again,
lost the peer, rejected the identity or took the poller offline. -/
theorem atsModelDecodeAll_good (run : (pollSystem c).Run h s)
    (hclock : Clocked PollLabel.start PollLabel.finish now h) (hnow : now < 2 ^ 64)
    (hgood : (atsModelDecodeAll s.model now i).quality = .good) :
    ∃ b newer r older, containingBlock (atsPoints i).offset (atsPoints i).wordCount = some b ∧
      h = newer ++ .request r :: older ∧ r.block = some b ∧ r.reply.result.error = .ok ∧
      (∃ s₀, (pollSystem c).Run older s₀ ∧ s₀.profileValid = true ∧ r.now < s₀.profileCheckMs) ∧
      (atsModelDecodeAll s.model now i).lastGoodMs = r.now + r.reply.result.elapsedMs ∧
      r.now + r.reply.result.elapsedMs ≤ now ∧
      now ≤ r.now + r.reply.result.elapsedMs + (atsScanBlocks b).staleMs ∧
      (atsModelDecodeAll s.model now i).rawCount = (atsPoints i).wordCount ∧
      (∀ j < (atsPoints i).wordCount, (atsModelDecodeAll s.model now i).rawWords j =
        r.reply.words ((atsPoints i).offset - (atsScanBlocks b).offset + j)) ∧
      ∀ l ∈ newer, l.Undisturbed c b := by
  obtain ⟨b, hb, hblock, htime, hcount, hwords⟩ := decodePoint_good hgood
  obtain ⟨hacq, hfail, hpast, hfresh⟩ := blockGood_iff.mp hblock
  have H := BlockStore.ofRun run hclock hnow
  obtain ⟨r, newer, l, older, hlast, hlatest, hvoid⟩ := replay_valid ((H.good b).mp ⟨hacq, hfail⟩)
  obtain ⟨hsample, hsamples⟩ := H.sample b r hlast
  -- The event that took the sample is the data request the slot holds.
  obtain ⟨rfl, hrb, hok⟩ : l = .request r ∧ r.block = some b ∧ r.reply.result.error = .ok := by
    have htakes := hlatest.takes
    cases l with
    | idle | offline => cases htakes
    | request q =>
      obtain ⟨rfl, hq, hok⟩ := requestEffect_take htakes
      exact ⟨rfl, hq, hok⟩
  have hmem : PollLabel.request r ∈ h := by rw [hlatest.split]; simp
  have hcompleted : r.completed = r.now + r.reply.result.elapsedMs :=
    u64_of_lt (Nat.lt_of_le_of_lt (hclock.finish_le hmem) hnow)
  rw [hsample, hcompleted] at htime hpast hfresh
  have hissue : ∃ s₀, (pollSystem c).Run older s₀ ∧ s₀.profileValid = true ∧
      r.now < s₀.profileCheckMs := by
    obtain ⟨s₀, s₁, hrun, hstep⟩ := StepSystem.Run.step_of_append (hlatest.split ▸ run)
    refine ⟨s₀, hrun, ?_⟩
    cases pollSystem_step hstep with
    | request hrequest =>
      obtain ⟨-, -, -, hchoose, -⟩ := gatewayPollStep_request hrequest
      rw [hrb] at hchoose
      obtain ⟨hv, -⟩ := chooseRequest_data hchoose
      obtain ⟨heq, hlt⟩ := recheckProfile_of_valid hv
      exact ⟨heq ▸ hv, hlt⟩
  refine ⟨b, newer, r, older, hb, hlatest.split, hrb, hok, hissue, htime, hpast, hfresh, hcount,
    fun j hj => ?_, fun l hl => ?_⟩
  · have hbounds := containingBlock_bounds hb
    exact (hwords j hj).trans (hsamples _ (by omega))
  · exact undisturbed_of_effect (hlatest.none_newer l hl) (hvoid l hl)

/-- Point 1007 (a line voltage) after the checks and one read of the overview block. -/
theorem atsModelDecodeAll_good_overview :
    (atsModelDecodeAll (pollAfter commissionedConfig
      (commissioningCalls ++ [.step 1080 (wordReply 4)])).2.model 1500 6).quality = .good ∧
    ∃ r : PollRequest, r.block = some 0 ∧
      (atsModelDecodeAll (pollAfter commissionedConfig
        (commissioningCalls ++ [.step 1080 (wordReply 4)])).2.model 1500 6).rawWords 0 =
          r.reply.words 1 := by
  have hgood : (atsModelDecodeAll (pollAfter commissionedConfig
      (commissioningCalls ++ [.step 1080 (wordReply 4)])).2.model 1500 6).quality = .good := by
    decide +kernel
  have hclock : Clocked PollLabel.start PollLabel.finish 1500 (pollAfter commissionedConfig
      (commissioningCalls ++ [.step 1080 (wordReply 4)])).1 := by decide +kernel
  obtain ⟨b, newer, r, older, hb, -, hrb, -, -, -, -, -, -, hwords, -⟩ :=
    atsModelDecodeAll_good (pollSystem_run _ _) hclock (by decide) hgood
  have h0 : containingBlock (atsPoints 6).offset (atsPoints 6).wordCount = some 0 := by
    decide +kernel
  obtain rfl := Option.some.inj (hb.symm.trans h0)
  have hoffset : (atsPoints 6).offset - (atsScanBlocks 0).offset + 0 = 1 := by decide +kernel
  have hword := hwords 0 (by decide +kernel)
  rw [hoffset] at hword
  exact ⟨hgood, r, hrb, hword⟩

end ModbusGateway
