import ModbusGateway.App.PollTask
import ModbusGateway.Verify.CustomSamples
import ModbusGateway.Verify.BlockSamples

/-!
# The steps of the tasks

`AppStep` lists what a step of the application can do, and `AppStep.ofNext` is the inversion of
`appNext`. The stores of the two pollers then simulate the labels of a run: a read acts as it does
in the poller's own system, and a section that takes the pollers offline voids everything.
-/

namespace ModbusGateway
open Samples

variable {c : Boot}

/-- The condition on which an iteration takes the pollers offline before it polls. -/
def App.Changed (s : App c) (up : Bool) (changed : Nat) : Prop :=
  (s.previousUp = true ∧ up = false) ∨ (up = true ∧ changed ≠ s.generation)

inductive AppStep (s : App c) : AppLabel c → App c → Prop
  | tick : s.clock + ms < 2 ^ 64 → AppStep s .quiet { s with clock := s.clock + ms }
  | network (up : Bool) : AppStep s (.network up) (networkEvent s up)
  | sample : s.pc = .sample →
    AppStep s .quiet { s with pc := .check s.networkUp s.networkGeneration }
  | checkOffline : s.pc = .check up changed → s.Readings t₁ t₂ t₃ →
    AppStep s .offline { takeOffline s t₁ t₂ t₃ with pc := .step up changed }
  | check : s.pc = .check up changed → ¬ s.Changed up changed →
    AppStep s .quiet { s with pc := .step up changed }
  | start : s.pc = .step true changed →
    AppStep s .quiet { s with pc := .reading changed s.clock }
  | skip : s.pc = .step up changed → AppStep s .quiet { s with pc := .publish up changed }
  | idle : s.pc = .reading changed now → AppStep s .quiet { s with pc := .publish true changed }
  | read : s.pc = .reading changed now → now + r.reply.result.elapsedMs ≤ s.clock →
    gatewayPollStep c.pollConfig s.poller now r.reply = (poller, some r) →
    AppStep s (.read changed r recorded) { s with poller, pc := .publish true changed }
  | customRead : s.pc = .reading changed now → now + r.reply.result.elapsedMs ≤ s.clock →
    customPollStep s.custom now r.reply = (custom, some r) →
    AppStep s (.customRead changed r recorded) { s with custom, pc := .publish true changed }
  | publishOffline : s.pc = .publish up changed → s.Readings t₁ t₂ t₃ →
    AppStep s (.publish true) (publishPollers (takeOffline s t₁ t₂ t₃) up changed)
  | publish : s.pc = .publish up changed → s.networkUp = true → s.networkGeneration = changed →
    AppStep s (.publish false) (publishPollers s up changed)
  | enter : now ≤ s.clock → AppStep s .quiet { s with pending := now :: s.pending }
  | snapshot : now ∈ s.pending →
    AppStep s (.snapshot now (snapshotValues s now)) { s with pending := s.pending.erase now }

/-- The clock never goes back. -/
theorem AppStep.clock_le {s s' : App c} (H : AppStep s l s') : s.clock ≤ s'.clock := by
  cases H with
  | tick => exact Nat.le_add_right _ _
  | checkOffline _ hread | publishOffline _ hread =>
    obtain ⟨h₁, h₂, h₃, -⟩ := hread
    exact Nat.le_trans h₁ (Nat.le_trans h₂ h₃)
  | network | sample | check | start | skip | idle | read | customRead | publish | enter | snapshot =>
    exact Nat.le_refl _

theorem AppStep.ofPollStep {s : App c} (hpc : s.pc = .reading changed now)
    (htime : now + reply.result.elapsedMs ≤ s.clock) :
    AppStep s (pollStep s changed now reply).1
      { (pollStep s changed now reply).2 with pc := .publish true changed } := by
  unfold pollStep
  split
  · dsimp only
    split
    · next hstep =>
      rw [customPollStep_idle hstep]
      exact .idle hpc
    · next custom r hstep =>
      obtain ⟨-, -, rfl, -, -⟩ := customPollStep_request hstep
      exact .customRead hpc htime hstep
  · dsimp only
    split
    · next hstep =>
      rw [gatewayPollStep_idle hstep]
      exact .idle hpc
    · next poller r hstep =>
      obtain ⟨-, -, rfl, -, -⟩ := gatewayPollStep_request hstep
      exact .read hpc htime hstep

theorem AppStep.ofNext {s : App c} (h : appNext s i = some (l, s')) : AppStep s l s' := by
  cases i with
  | tick ms =>
    simp only [appNext] at h
    split at h
    · next hlt => cases h; exact .tick hlt
    · cases h
  | network up => cases h; exact .network up
  | sample =>
    simp only [appNext] at h
    split at h
    · next hpc => cases h; exact .sample hpc
    · cases h
  | check t₁ t₂ t₃ =>
    simp only [appNext] at h
    split at h
    · next up changed hpc =>
      split at h
      · split at h
        · next hread => cases h; exact .checkOffline hpc hread
        · cases h
      · next hsame =>
        cases h
        exact .check hpc (by simpa [App.Changed] using hsame)
    · cases h
  | start =>
    simp only [appNext] at h
    split at h
    · next up changed hpc =>
      split at h
      · next hup =>
        cases h
        obtain ⟨rfl, -⟩ := Bool.and_eq_true_iff.mp hup
        exact .start hpc
      · cases h; exact .skip hpc
    · cases h
  | finish reply =>
    simp only [appNext] at h
    split at h
    · next changed now hpc =>
      split at h
      · next htime => cases h; exact .ofPollStep hpc htime
      · cases h
    · cases h
  | publish t₁ t₂ t₃ =>
    simp only [appNext] at h
    split at h
    · next up changed hpc =>
      split at h
      · split at h
        · next hread => cases h; exact .publishOffline hpc hread
        · cases h
      · next hsame =>
        cases h
        have hsame : s.networkUp = true ∧ s.networkGeneration = changed := by simpa using hsame
        exact .publish hpc hsame.1 hsame.2
    · cases h
  | enter now =>
    simp only [appNext] at h
    split at h
    · next hle => cases h; exact .enter hle
    · cases h
  | snapshot now =>
    simp only [appNext] at h
    split at h
    · next hmem => cases h; exact .snapshot hmem
    · cases h

/-- An invariant of the application, one case per kind of step. -/
theorem App.invariant {I : List (AppLabel c) → App c → Prop} (init : I [] {})
    (step : ∀ h s l s', (appSystem c).Run h s → I h s → AppStep s l s' → I (l :: h) s')
    (run : (appSystem c).Run h s) : I h s := by
  refine run.invariant ?_ ?_
  · rintro s rfl
    exact init
  · rintro h s l s' hrun ih ⟨i, hnext⟩
    exact step h s l s' hrun ih (.ofNext hnext)

/-! ## The stores of the pollers -/

noncomputable def atsEffect : AppLabel c → Effect BlockIndex PollRequest
  | .read _ r _ => requestEffect c.pollConfig r
  | .offline | .publish true => .void fun _ => True
  | _ => .skip

def customAppEffect : AppLabel c → Effect (Fin c.customMap.count) (CustomRequest c.customMap)
  | .customRead _ r _ => customRequestEffect r
  | .offline | .publish true => .void fun _ => True
  | _ => .skip

theorem atsEffect_take {l : AppLabel c} (h : atsEffect l = .take b r) :
    ∃ g recorded, l = .read g r recorded ∧ r.block = some b ∧ r.reply.result.error = .ok := by
  cases l with
  | read g q recorded =>
    obtain ⟨rfl, hq, hok⟩ := requestEffect_take h
    exact ⟨g, recorded, rfl, hq, hok⟩
  | publish offline => cases offline <;> cases h
  | _ => cases h

theorem customAppEffect_take {l : AppLabel c} (h : customAppEffect l = .take i r) :
    ∃ g recorded, l = .customRead g r recorded ∧ r.point = i ∧ r.Valid := by
  cases l with
  | customRead g q recorded =>
    obtain ⟨rfl, hq, hvalid⟩ := customRequestEffect_take h
    exact ⟨g, recorded, rfl, hq, hvalid⟩
  | publish offline => cases offline <;> cases h
  | _ => cases h

/-- The time up to which the poller has been given samples. -/
def App.pollClock (s : App c) : Nat :=
  match s.pc with
  | .reading _ now => now
  | _ => s.clock

theorem App.pollClock_le (run : (appSystem c).Run h s) :
    s.pollClock ≤ s.clock ∧ s.clock < 2 ^ 64 := by
  refine App.invariant (I := fun _ s => s.pollClock ≤ s.clock ∧ s.clock < 2 ^ 64)
    ⟨Nat.le_refl _, Nat.two_pow_pos 64⟩ ?_ run
  rintro h s l s' - ⟨hle, hlt⟩ hstep
  cases hstep with
  | tick hms =>
    refine ⟨?_, hms⟩
    simp only [App.pollClock] at hle ⊢
    split
    · next hpc =>
      rw [hpc] at hle
      exact Nat.le_trans hle (Nat.le_add_right _ _)
    · exact Nat.le_refl _
  | sample hpc | check hpc | start hpc | skip hpc | idle hpc | read hpc | customRead hpc
    | publish hpc => exact ⟨Nat.le_refl _, hlt⟩
  | checkOffline hpc hread | publishOffline hpc hread => exact ⟨Nat.le_refl _, hread.2.2.2⟩
  | network | enter | snapshot => exact ⟨hle, hlt⟩

/-- The stores of the two pollers hold the samples of the history. -/
structure Stores (h : List (AppLabel c)) (s : App c) : Prop where
  blocks : BlockStore s.poller.model (replay atsEffect h) s.pollClock
  stage : s.poller.profileValid = false → s.poller.profileStage ≤ 3
  points : CustomStore s.custom (replay customAppEffect h)

namespace Stores
variable {s s' : App c}

/-- A step that neither reads nor takes anything offline. -/
theorem quiet (H : Stores h s) (hl : atsEffect l = .skip) (hl' : customAppEffect l = .skip)
    (hpoller : s'.poller = s.poller) (hcustom : s'.custom = s.custom)
    (hle : s.pollClock ≤ s'.pollClock) : Stores (l :: h) s' where
  blocks := by
    rw [hpoller]
    simp only [replay, hl, Effect.apply]
    exact H.blocks.mono hle
  stage := by rw [hpoller]; exact H.stage
  points := by
    rw [hcustom]
    simp only [replay, hl', Effect.apply]
    exact H.points

theorem offline (H : Stores h s) (hl : atsEffect l = .void fun _ => True)
    (hl' : customAppEffect l = .void fun _ => True) (hread : s.Readings t₁ t₂ t₃)
    (hpoller : s'.poller = (takeOffline s t₁ t₂ t₃).poller)
    (hcustom : s'.custom = (takeOffline s t₁ t₂ t₃).custom) (hpc : s.pollClock ≤ s.clock)
    (hclock : s'.pollClock = t₃) : Stores (l :: h) s' where
  blocks := by
    obtain ⟨h₁, h₂, h₃, -⟩ := hread
    rw [hpoller, hclock]
    simp only [replay, hl]
    exact (H.blocks.failAll (Nat.le_trans hpc h₁)).mono (Nat.le_trans h₂ h₃)
  stage _ := by rw [hpoller]; exact Nat.zero_le 3
  points := by
    rw [hcustom]
    simp only [replay, hl']
    exact (H.points.offline t₂).congr rfl rfl

theorem init : Stores [] ({} : App c) where
  blocks := .init
  stage _ := Nat.zero_le 3
  points := .init

theorem read (H : Stores h s) (hpc : s.pc = .reading changed now)
    (htime : now + r.reply.result.elapsedMs ≤ s.clock) (hlt : s.clock < 2 ^ 64)
    (hcall : gatewayPollStep c.pollConfig s.poller now r.reply = (poller, some r)) :
    Stores (.read changed r recorded :: h) { s with poller, pc := .publish true changed } := by
  obtain ⟨-, rfl, -, hchoose, rfl⟩ := gatewayPollStep_request hcall
  have hcompleted : r.completed = r.now + r.reply.result.elapsedMs :=
    u64_of_lt (Nat.lt_of_le_of_lt htime hlt)
  have hnow : s.pollClock = r.now := by simp only [App.pollClock, hpc]
  have hblocks := H.blocks
  rw [hnow, ← recheckProfile_model _ r.now] at hblocks
  refine ⟨?_, settle_stage_le hchoose (recheckProfile_stage_le H.stage), H.points⟩
  refine (hblocks.settle (by omega) hchoose (recheckProfile_stage_le H.stage)).mono ?_
  rw [hcompleted]
  exact htime

theorem customRead (H : Stores h s) (hle : s.pollClock ≤ s.clock)
    (hcall : customPollStep s.custom now r.reply = (custom, some r)) :
    Stores (.customRead changed r recorded :: h) { s with custom, pc := .publish true changed } := by
  obtain ⟨-, -, -, -, rfl⟩ := customPollStep_request hcall
  exact ⟨H.blocks.mono hle, H.stage, H.points.settle r⟩

theorem step (hrun : (appSystem c).Run h s) (ih : Stores h s) (hstep : AppStep s l s') :
    Stores (l :: h) s' := by
  obtain ⟨hle, hlt⟩ := App.pollClock_le hrun
  cases hstep with
  | tick hms =>
    refine ih.quiet rfl rfl rfl rfl ?_
    simp only [App.pollClock]
    split <;> simp
  | network | enter | snapshot => exact ih.quiet rfl rfl rfl rfl (Nat.le_refl _)
  | sample | check | skip | start | idle | publish => exact ih.quiet rfl rfl rfl rfl hle
  | checkOffline _ hread | publishOffline _ hread => exact ih.offline rfl rfl hread rfl rfl hle rfl
  | read hpc htime hcall => exact ih.read hpc htime hlt hcall
  | customRead hpc htime hcall => exact ih.customRead hle hcall

theorem ofRun (run : (appSystem c).Run h s) : Stores h s :=
  App.invariant .init (fun _ _ _ _ => step) run

end Stores
end ModbusGateway
