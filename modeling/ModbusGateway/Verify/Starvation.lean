import ModbusGateway.Verify.BlockTiming
import ModbusGateway.Verify.CustomFresh
import ModbusGateway.Verify.IdentityGate

/-!
# No point is starved

Whatever the peer does, both pollers only ever serve their entries in the sense of `EarliestDue.Serving`:
a success, an exception and a timeout all put the entry behind those that are due by then.
-/

namespace ModbusGateway
open EarliestDue

/-- Start and point of a request. -/
def CustomLabel.slot : CustomLabel map → Option (Nat × Fin map.count)
  | .request r => some (r.now, r.point)
  | .idle _ | .offline _ => none

/-- Start and block of a data request. -/
def PollLabel.slot : PollLabel → Option (Nat × BlockIndex)
  | .request r => r.block.map fun b => (r.now, b)
  | .idle _ | .offline _ => none

/-- A call at `t` or later that does not ask for the point. -/
def CustomLabel.PassesOver (i : Fin map.count) (t : Nat) : CustomLabel map → Prop
  | .request r => r.InClock ∧ t ≤ r.now ∧ r.point ≠ i
  | .idle _ | .offline _ => True

/-- A call at `t` or later that does not ask for the block. -/
def PollLabel.PassesOver (b : BlockIndex) (t : Nat) : PollLabel → Prop
  | .request r => r.InClock ∧ t ≤ r.now ∧ r.block ≠ some b
  | .idle _ | .offline _ => True

instance (i : Fin map.count) (t : Nat) : (l : CustomLabel map) → Decidable (l.PassesOver i t)
  | .request r => inferInstanceAs (Decidable (r.InClock ∧ t ≤ r.now ∧ r.point ≠ i))
  | .idle _ | .offline _ => inferInstanceAs (Decidable True)

instance (b : BlockIndex) (t : Nat) : (l : PollLabel) → Decidable (l.PassesOver b t)
  | .request r => inferInstanceAs (Decidable (r.InClock ∧ t ≤ r.now ∧ r.block ≠ some b))
  | .idle _ | .offline _ => inferInstanceAs (Decidable True)

theorem customSystem_serving {s : CustomPoll map} (hsafe : SafeMap map)
    (steps : (customSystem map).Steps s h s') (hclock : ∀ r, .request r ∈ h → r.InClock) :
    Serving s.nextDue (h.filterMap CustomLabel.slot) s'.nextDue := by
  induction steps with
  | refl => exact .nil
  | @step h s₁ l s₂ _ hstep ih =>
    have ih := ih fun r hr => hclock r (List.mem_cons_of_mem _ hr)
    cases customSystem_step hstep with
    | offline => exact ih
    | idle => exact ih
    | @request _ r hrequest =>
      have hturn := customPollStep_turn hsafe hrequest (hclock r List.mem_cons_self)
      obtain ⟨d, hlater, hdue⟩ := hturn.later
      rw [hdue]
      exact ih.cons hturn.earliest hlater

theorem pollSystem_serving {s : GatewayPoll} (steps : (pollSystem c).Steps s h s')
    (hclock : ∀ r, .request r ∈ h → r.InClock) :
    Serving s.nextDue (h.filterMap PollLabel.slot) s'.nextDue := by
  induction steps with
  | refl => exact .nil
  | @step h s₁ l s₂ _ hstep ih =>
    have ih := ih fun r hr => hclock r (List.mem_cons_of_mem _ hr)
    cases pollSystem_step hstep with
    | offline => exact ih
    | idle => exact ih
    | @request _ r hrequest =>
      cases hb : r.block with
      | none =>
        have hslot : PollLabel.slot (.request r) = none := by rw [PollLabel.slot, hb]; rfl
        rw [List.filterMap_cons_none hslot, gatewayPollStep_identity_nextDue hrequest hb]
        exact ih
      | some b =>
        have hslot : PollLabel.slot (.request r) = some (r.now, b) := by
          rw [PollLabel.slot, hb]; rfl
        have hturn := gatewayPollStep_turn hrequest hb (hclock r List.mem_cons_self)
        obtain ⟨d, hlater, hdue⟩ := hturn.later
        rw [List.filterMap_cons_some hslot, hdue]
        exact ih.cons hturn.earliest hlater

theorem CustomLabel.slot_passed {h : List (CustomLabel map)} (hpass : ∀ l ∈ h, l.PassesOver i t) :
    ∀ p ∈ h.filterMap CustomLabel.slot, t ≤ p.1 ∧ p.2 ≠ i := by
  intro p hp
  obtain ⟨l, hl, hslot⟩ := List.mem_filterMap.mp hp
  have hpassed := hpass l hl
  cases l with
  | idle | offline => cases hslot
  | request r =>
    cases hslot
    exact hpassed.2

theorem PollLabel.slot_passed {h : List PollLabel} (hpass : ∀ l ∈ h, l.PassesOver b t) :
    ∀ p ∈ h.filterMap PollLabel.slot, t ≤ p.1 ∧ p.2 ≠ b := by
  intro p hp
  obtain ⟨l, hl, hslot⟩ := List.mem_filterMap.mp hp
  have hpassed := hpass l hl
  cases l with
  | idle | offline => cases hslot
  | request r =>
    obtain ⟨k, hk, rfl⟩ := Option.map_eq_some_iff.mp hslot
    exact ⟨hpassed.2.1, fun heq => hpassed.2.2 (by rw [hk, ← heq])⟩

/-- While a point or a block is due and is passed over, every other one is asked for at most once,
whatever is answered. -/
theorem pollers_overtake :
    (∀ strtod memory map₀ csv errorSize map error,
      customMapParse strtod memory map₀ csv errorSize = (true, map, error) →
      ∀ older s newer s' i t, (customSystem map).Run older s → (customSystem map).Steps s newer s' →
        s.nextDue i ≤ t → (∀ l ∈ newer, l.PassesOver i t) →
        ((newer.filterMap CustomLabel.slot).map Prod.snd).Nodup ∧
          (newer.filterMap CustomLabel.slot).length ≤ map.count - 1) ∧
    ∀ c older s newer s' b t, (pollSystem c).Run older s → (pollSystem c).Steps s newer s' →
      s.nextDue b ≤ t → (∀ l ∈ newer, l.PassesOver b t) →
      ((newer.filterMap PollLabel.slot).map Prod.snd).Nodup ∧
        (newer.filterMap PollLabel.slot).length ≤ 22 := by
  refine ⟨?_, ?_⟩
  · intro strtod memory map₀ csv errorSize map error hparse older s newer s' i t _ steps hdue hpass
    have hserving := customSystem_serving (customMapParse_safeMap hparse) steps fun r hr =>
      (hpass _ hr).1
    have hovertake := hserving.overtake hdue (CustomLabel.slot_passed hpass)
    rw [Fintype.card_fin] at hovertake
    exact hovertake
  · intro c older s newer s' b t _ steps hdue hpass
    have hserving := pollSystem_serving steps fun r hr => (hpass _ hr).1
    exact hserving.overtake hdue (PollLabel.slot_passed hpass)

/-- The current waits for the voltage, and block 5 for two others. -/
theorem pollers_overtake_first :
    ((customAfter pairMap [.step 1000 (wordReply 49)]).1.filterMap CustomLabel.slot).length ≤ 1 ∧
    ((pollAfter commissionedConfig (commissioningCalls ++
      [.step 1080 (wordReply 4), .step 1350 (wordReply 4)])).1.filterMap PollLabel.slot).length ≤
        22 := by
  obtain ⟨csv, hparse⟩ := pairMap_parsed
  have hcount : pairMap.count = 2 := by decide +kernel
  have hcustom := customSystem_run pairMap [.step 1000 (wordReply 49)]
  have hpoll := pollSystem_run commissionedConfig (commissioningCalls ++
    [.step 1080 (wordReply 4), .step 1350 (wordReply 4)])
  obtain ⟨s, hinit, hcustomSteps⟩ := hcustom.steps
  obtain ⟨s', hinit', hpollSteps⟩ := hpoll.steps
  cases hinit
  cases hinit'
  refine ⟨?_, ?_⟩
  · have hovertake := pollers_overtake.1 _ _ _ _ _ _ _ hparse _ _ _ _ currentPoint 0 (.init rfl)
      hcustomSteps (Nat.le_refl 0) (by decide +kernel)
    exact hovertake.2.trans (by omega)
  · exact (pollers_overtake.2 _ _ _ _ _ 5 0 (.init rfl) hpollSteps (Nat.le_refl 0)
      (by decide +kernel)).2

end ModbusGateway
