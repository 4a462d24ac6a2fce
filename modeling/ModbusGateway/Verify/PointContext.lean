import ModbusGateway.Verify.PointQuality

/-!
# What the quality of a point depends on

A point reads its own block. Its quality may depend on a few context registers besides: the angle points
on registers 0 and 56, the expansion bitmaps on 153 to 156, and the two assignment bitmaps on the register
behind them, which lies in their own block. Nothing else leaks from one block to the points of another.
-/

namespace ModbusGateway

/-- The value shows the same reading, whatever its grade. -/
structure AtsValue.SameReading (v w : AtsValue) : Prop extends v.SameSample w where
  numeric : v.numeric = w.numeric
  text : v.text = w.text

theorem AtsValue.SameReading.refl (v : AtsValue) : v.SameReading v := ⟨⟨rfl, rfl, rfl⟩, rfl, rfl⟩

theorem AtsValue.SameReading.trans {u v w : AtsValue} (h : u.SameReading v)
    (h' : v.SameReading w) : u.SameReading w :=
  ⟨h.toSameSample.trans h'.toSameSample, h.numeric.trans h'.numeric, h.text.trans h'.text⟩

theorem AtsValue.SameReading.symm {v w : AtsValue} (h : v.SameReading w) : w.SameReading v :=
  ⟨⟨h.lastGoodMs.symm, h.rawWords.symm, h.rawCount.symm⟩, h.numeric.symm, h.text.symm⟩

theorem AtsValue.grade_sameReading (v : AtsValue) (q : Quality) (reason : String) :
    (v.grade q reason).SameReading v :=
  ⟨⟨rfl, rfl, rfl⟩, rfl, rfl⟩

theorem qualify_sameReading (m : AtsModel) (pt : AtsPointDef) (now : Nat) (v : AtsValue) :
    (qualify m pt now v).SameReading v := by
  unfold qualify
  repeat' split
  all_goals first
    | exact .refl v
    | exact v.grade_sameReading ..

/-! ## The context registers -/

/-- The registers behind the quality of a point, other than its own. -/
def contextRegisters (offset : Nat) : List Nat :=
  if offset = 18 ∨ offset = 40 then [0, 56]
  else if 195 ≤ offset ∧ offset ≤ 202 then [153 + (offset - 195) % 4]
  else if offset = 249 ∨ offset = 251 then [offset + 1]
  else []

/-- Qualification sees the model through the context registers only. -/
theorem qualify_congr {m m' : AtsModel} (h : ∀ register ∈ contextRegisters pt.offset,
    registerGood m' register now = registerGood m register now) (v : AtsValue) :
    qualify m' pt now v = qualify m pt now v := by
  unfold contextRegisters at h
  unfold qualify
  by_cases hgraded : v.quality ≠ .good
  · rw [if_pos hgraded, if_pos hgraded]
  rw [if_neg hgraded, if_neg hgraded]
  by_cases hcurrent : 15 ≤ pt.offset ∧ pt.offset ≤ 17
  · rw [if_pos hcurrent, if_pos hcurrent]
  rw [if_neg hcurrent, if_neg hcurrent]
  by_cases hangle : pt.offset = 18 ∨ pt.offset = 40
  · rw [if_pos hangle] at h
    rw [if_pos hangle, if_pos hangle, h 0 List.mem_cons_self,
      h 56 (List.mem_cons_of_mem _ List.mem_cons_self)]
  rw [if_neg hangle] at h
  rw [if_neg hangle, if_neg hangle]
  by_cases hboard : 195 ≤ pt.offset ∧ pt.offset ≤ 202
  · rw [if_pos hboard] at h
    rw [if_pos hboard, if_pos hboard, h _ List.mem_cons_self]
  rw [if_neg hboard] at h
  rw [if_neg hboard, if_neg hboard]
  by_cases hassigned : pt.offset = 249 ∨ pt.offset = 251
  · rw [if_pos hassigned] at h
    rw [if_pos hassigned, if_pos hassigned, h _ List.mem_cons_self]
  rw [if_neg hassigned, if_neg hassigned]

theorem registerGood_congr {m m' : AtsModel} (h : ∀ b, containingBlock register 1 = some b → m' b = m b) :
    registerGood m' register now = registerGood m register now := by
  unfold registerGood
  cases hb : containingBlock register 1 with
  | none => rfl
  | some b =>
    have hblock := h b hb
    have hgood : blockGood m' b now = blockGood m b now := by
      unfold blockGood
      rw [hblock]
    simp only [Option.bind_eq_bind, Option.bind_some, hgood, hblock]

/-! ## Two models that agree on what a point sees -/

theorem blockGood_congr {m m' : AtsModel} (h : m' b = m b) :
    blockGood m' b now = blockGood m b now := by
  unfold blockGood
  rw [h]

/-- The reading of a point depends on its own block. -/
theorem decodePoint_sameReading {m m' : AtsModel}
    (hown : ∀ b, containingBlock (atsPoints i).offset (atsPoints i).wordCount = some b → m' b = m b) :
    (decodePoint m' now i).SameReading (decodePoint m now i) := by
  unfold decodePoint
  dsimp only
  split
  · exact .refl _
  next b hb =>
  rw [blockGood_congr (hown b hb), hown b hb]
  split
  · exact .refl _
  split
  · exact .refl _
  · exact (qualify_sameReading ..).trans (qualify_sameReading ..).symm

/-- Value and quality of a point depend on its own block and the blocks of its context registers. -/
theorem decodePoint_congr {m m' : AtsModel}
    (hown : ∀ b, containingBlock (atsPoints i).offset (atsPoints i).wordCount = some b → m' b = m b)
    (hcontext : ∀ own, containingBlock (atsPoints i).offset (atsPoints i).wordCount = some own →
      ∀ register ∈ contextRegisters (atsPoints i).offset, ∀ b,
        containingBlock register 1 = some b → m' b = m b) :
    decodePoint m' now i = decodePoint m now i := by
  unfold decodePoint
  dsimp only
  split
  · rfl
  next b hb =>
  rw [blockGood_congr (hown b hb), hown b hb]
  split
  · rfl
  split
  · rfl
  · exact qualify_congr (fun register hregister => registerGood_congr (hcontext b hb register hregister)) _

/-- What the table says of registers 249 to 252: they are one block. -/
theorem assignment_block : ∀ b : BlockIndex, ∀ offset, offset = 249 ∨ offset = 251 →
    (atsScanBlocks b).offset ≤ offset → offset ≤ (atsScanBlocks b).offset + (atsScanBlocks b).count →
    containingBlock (offset + 1) 1 = some b := by
  have hblock : ∀ b : BlockIndex, (atsScanBlocks b).offset ≤ 251 →
      249 ≤ (atsScanBlocks b).offset + (atsScanBlocks b).count → b = 6 := by decide
  rintro b offset (rfl | rfl) hlow hhigh
  · rw [hblock b (by omega) hhigh]
    decide
  · rw [hblock b hlow (by omega)]
    decide

/-- The context registers that lie in other blocks than the point. -/
def crossRegisters (offset : Nat) : List Nat :=
  if offset = 18 ∨ offset = 40 then [0, 56]
  else if 195 ≤ offset ∧ offset ≤ 202 then [153, 154, 155, 156]
  else []

theorem contextRegisters_cases (h : register ∈ contextRegisters offset) :
    register ∈ crossRegisters offset ∨ (offset = 249 ∨ offset = 251) ∧ register = offset + 1 := by
  unfold contextRegisters at h
  unfold crossRegisters
  split at h
  · next hangle =>
    rw [if_pos hangle]
    exact .inl h
  next hangle =>
  rw [if_neg hangle]
  split at h
  · next hboard =>
    rw [if_pos hboard]
    have hregister := List.mem_singleton.mp h
    have hlt := Nat.mod_lt (offset - 195) (by decide : 0 < 4)
    simp only [List.mem_cons, List.not_mem_nil, or_false]
    omega
  split at h
  · next hassigned => exact .inr ⟨hassigned, List.mem_singleton.mp h⟩
  · cases h

/-! ## One block changes -/

/-- What a change of one block leaves of a point of another block. -/
structure Unaffected (m m' : AtsModel) (b : BlockIndex) (now : Nat) (i : PointIndex) : Prop where
  reading : containingBlock (atsPoints i).offset (atsPoints i).wordCount ≠ some b →
    (atsModelDecodeAll m' now i).SameReading (atsModelDecodeAll m now i)
  quality : containingBlock (atsPoints i).offset (atsPoints i).wordCount ≠ some b →
    (∀ register ∈ crossRegisters (atsPoints i).offset, containingBlock register 1 ≠ some b) →
    (atsModelDecodeAll m' now i).quality = (atsModelDecodeAll m now i).quality

theorem Unaffected.ofOther {m m' : AtsModel} (h : ∀ b', b' ≠ b → m' b' = m b') (now : Nat)
    (i : PointIndex) : Unaffected m m' b now i := by
  have hblock {offset count : Nat} (hother : containingBlock offset count ≠ some b) (b' : BlockIndex)
      (hb' : containingBlock offset count = some b') : m' b' = m b' :=
    h b' fun heq => hother (heq ▸ hb')
  refine ⟨fun hown => decodePoint_sameReading (hblock hown), fun hown hcross => ?_⟩
  refine congrArg AtsValue.quality (decodePoint_congr (hblock hown) ?_)
  intro own hpoint register hregister b' hb'
  rcases contextRegisters_cases hregister with hcrossed | ⟨hassigned, rfl⟩
  · exact hblock (hcross register hcrossed) b' hb'
  · obtain ⟨hlow, hhigh⟩ := containingBlock_bounds hpoint
    rw [assignment_block own _ hassigned hlow (by omega)] at hb'
    cases hb'
    exact hblock hown _ hpoint

theorem atsModelApplyBlock_other (m : AtsModel) (b : BlockIndex) (words : Nat → UInt16) (t : Nat) :
    ∀ b', b' ≠ b →
      atsModelApplyBlock m (atsScanBlocks b).offset (atsScanBlocks b).count words t b' = m b' := by
  intro b' hne
  rw [atsModelApplyBlock_scanBlock]
  split
  · rfl
  · exact Function.update_of_ne hne ..

theorem atsModelFailBlock_other (m : AtsModel) (b : BlockIndex) (t : Nat) :
    ∀ b', b' ≠ b →
      atsModelFailBlock m (atsScanBlocks b).offset (atsScanBlocks b).count t b' = m b' := by
  intro b' hne
  rw [atsModelFailBlock_scanBlock]
  split
  · rfl
  · exact Function.update_of_ne hne ..

/-! ## GOOD points -/

/-- Offsets of which no point is ever GOOD. -/
def unverifiedOffsets : List Nat := [15, 16, 17, 18, 40, 1011]

theorem registerGood_block (h : registerGood m register now = some word) :
    ∃ b, containingBlock register 1 = some b ∧ blockGood m b now = true := by
  unfold registerGood at h
  cases hb : containingBlock register 1 with
  | none =>
    rw [hb] at h
    cases h
  | some b =>
    rw [hb] at h
    simp only [Option.bind_eq_bind, Option.bind_some] at h
    split at h
    · next hgood => exact ⟨b, rfl, hgood⟩
    · cases h

/-- What qualification has checked of a point that it leaves GOOD. -/
theorem qualify_good {m : AtsModel} (h : (qualify m pt now v).quality = .good) :
    pt.offset ∉ unverifiedOffsets ∧ ∀ register ∈ contextRegisters pt.offset,
      ∃ word, registerGood m register now = some word := by
  unfold qualify at h
  split at h
  · next hgraded => exact absurd h hgraded
  split at h
  · cases h
  next hcurrent =>
  split at h
  · split at h
    · split at h
      · cases h
      · cases h
    · cases h
  next hangle =>
  have hplain (hnever : pt.offset ≠ 1011) : pt.offset ∉ unverifiedOffsets := by
    simp only [unverifiedOffsets, List.mem_cons, List.not_mem_nil, or_false]
    omega
  unfold contextRegisters
  rw [if_neg hangle]
  split at h
  · next hboard =>
    rw [if_pos hboard]
    refine ⟨hplain (by omega), fun register hregister => ?_⟩
    rw [List.mem_singleton.mp hregister]
    split at h
    · cases h
    · next word hword => exact ⟨word, hword⟩
  next hboard =>
  rw [if_neg hboard]
  split at h
  · next hassigned =>
    rw [if_pos hassigned]
    refine ⟨hplain (by omega), fun register hregister => ?_⟩
    rw [List.mem_singleton.mp hregister]
    split at h
    · cases h
    · next word hword => exact ⟨word, hword⟩
  next hassigned =>
  rw [if_neg hassigned]
  split at h
  · cases h
  next houtage => exact ⟨hplain houtage, fun _ hregister => (by cases hregister)⟩

theorem decodePoint_qualified (h : (decodePoint m now i).quality = .good) :
    ∃ v, (qualify m (atsPoints i) now v).quality = .good := by
  unfold decodePoint at h
  dsimp only at h
  split at h
  · cases h
  split at h
  · cases h
  split at h
  · cases h
  · exact ⟨_, h⟩

/-- A block that is acquired, not failed and fresh. -/
def FreshBlock (m : AtsModel) (b : BlockIndex) (now : Nat) : Prop :=
  (m b).acquired = true ∧ (m b).failed = false ∧ (m b).lastGoodMs ≤ now ∧
    now ≤ (m b).lastGoodMs + (atsScanBlocks b).staleMs

/-- Applying or failing a block leaves the reading of every point of another block, and its quality too
unless the block holds one of the point's context registers. The points at offsets 15 to 17, 18, 40 and
1011 are never GOOD, and a point is GOOD only if the blocks of its context registers are acquired, not
failed and fresh. -/
theorem pointQuality_dependencies (m : AtsModel) (b : BlockIndex) (now : Nat) (i : PointIndex) :
    (∀ words t, Unaffected m
      (atsModelApplyBlock m (atsScanBlocks b).offset (atsScanBlocks b).count words t) b now i) ∧
    (∀ t, Unaffected m
      (atsModelFailBlock m (atsScanBlocks b).offset (atsScanBlocks b).count t) b now i) ∧
    ((atsModelDecodeAll m now i).quality = .good →
      (atsPoints i).offset ∉ unverifiedOffsets ∧
      ∀ register ∈ contextRegisters (atsPoints i).offset,
        ∃ b', containingBlock register 1 = some b' ∧ FreshBlock m b' now) := by
  refine ⟨fun words t => .ofOther (atsModelApplyBlock_other m b words t) now i,
    fun t => .ofOther (atsModelFailBlock_other m b t) now i, fun hgood => ?_⟩
  obtain ⟨v, hqualified⟩ := decodePoint_qualified hgood
  obtain ⟨hverified, hcontext⟩ := qualify_good hqualified
  refine ⟨hverified, fun register hregister => ?_⟩
  obtain ⟨word, hword⟩ := hcontext register hregister
  obtain ⟨b', hb', hblock⟩ := registerGood_block hword
  exact ⟨b', hb', blockGood_iff.mp hblock⟩

end ModbusGateway
