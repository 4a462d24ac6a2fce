import ModbusGateway.Verify.AppStep
import ModbusGateway.Verify.PointQuality

/-!
# No value survives a network change

Every sample a poller still counts was read under the generation of the iteration under way, or of
the one before it (`held_step`); what is published carries its generation along (`Published`), and
a snapshot compares it with the current one.
-/

namespace ModbusGateway
open Samples

variable {c : Boot} {s s' : App c}

/-- The generation under which a read was issued. -/
def AppLabel.generation : AppLabel c → Option Nat
  | .read g _ _ | .customRead g _ _ => some g
  | _ => none

def AppLabel.isNetwork : AppLabel c → Bool
  | .network _ => true
  | _ => false

/-- The number of network events of a history. -/
def networkEvents (h : List (AppLabel c)) : Nat := h.countP AppLabel.isNetwork

/-! ## Samples and generations -/

/-- What `poll_task` works under: the iteration under way once it has been checked, and the one
before it until then. -/
def App.task (s : App c) : Bool × Nat :=
  match s.pc with
  | .sample | .check _ _ => (s.previousUp, s.generation)
  | .step up changed | .publish up changed => (up, changed)
  | .reading changed _ => (true, changed)

/-- The label is a read of the task's generation, and the task saw the network up. -/
def App.Held (s : App c) (l : AppLabel c) : Prop :=
  s.task.1 = true ∧ l.generation = some s.task.2

/-- An effect in which reads alone take samples and going offline voids all of them. -/
structure OfReads (effect : AppLabel c → Effect κ ν) : Prop where
  reads : ∀ {l k}, (effect l).Takes k → ∃ g, l.generation = some g
  offline : effect .offline = .void fun _ => True
  publish : effect (.publish true) = .void fun _ => True

theorem ofReads_ats : OfReads (atsEffect (c := c)) where
  reads h := by
    obtain ⟨r, hr⟩ := h.eq_take
    obtain ⟨g, _, rfl, -⟩ := atsEffect_take hr
    exact ⟨g, rfl⟩
  offline := rfl
  publish := rfl

theorem ofReads_custom : OfReads (customAppEffect (c := c)) where
  reads h := by
    obtain ⟨r, hr⟩ := h.eq_take
    obtain ⟨g, _, rfl, -⟩ := customAppEffect_take hr
    exact ⟨g, rfl⟩
  offline := rfl
  publish := rfl

theorem held_step [DecidableEq κ] {effect : AppLabel c → Effect κ ν} (he : OfReads effect)
    (ih : Counted effect h s.Held) (hstep : AppStep s l s') :
    Counted effect (l :: h) s'.Held := by
  have hquiet (hl : l.generation = none) (hheld : ∀ a, s.Held a → s'.Held a) :
      Counted effect (l :: h) s'.Held := by
    refine (ih.mono hheld).cons fun k hk => ?_
    obtain ⟨g, hg⟩ := he.reads hk
    rw [hl] at hg
    cases hg
  cases hstep with
  | tick | network | enter | snapshot => exact hquiet rfl fun _ h => h
  | sample hpc | skip hpc | start hpc | idle hpc | publish hpc =>
    refine hquiet rfl fun a h => ?_
    unfold App.Held App.task at h
    rw [hpc] at h
    exact h
  | checkOffline => exact .void he.offline _ _
  | publishOffline => exact .void he.publish _ _
  | @check up changed hpc hsame =>
    -- Samples are still held only if the network was up before; then it still is, and unchanged.
    refine hquiet rfl fun a h => ?_
    simp only [App.Held, App.task, hpc] at h
    obtain ⟨hup, hgen⟩ := h
    have hstill : up = true := by
      cases up with
      | true => rfl
      | false => exact absurd (.inl ⟨hup, rfl⟩) hsame
    have hgeneration : changed = s.generation :=
      Classical.not_not.mp fun hne => hsame (.inr ⟨hstill, hne⟩)
    exact ⟨hstill, by rw [hgen, hgeneration]; rfl⟩
  | read hpc | customRead hpc =>
    refine (ih.mono fun a h => ?_).cons fun k _ => ⟨rfl, rfl⟩
    unfold App.Held App.task at h
    rw [hpc] at h
    exact h

/-! ## What is published -/

/-- The published pollers are those of some point of the history, and every sample they count was
read under the published generation. -/
structure Published (h hp : List (AppLabel c)) (s : App c) (t : Nat) : Prop where
  suffix : hp <:+ h
  blocks : BlockStore s.published.model (replay atsEffect hp) t
  points : CustomStore s.publishedCustom (replay customAppEffect hp)
  blocksHeld : Counted atsEffect hp fun l => l.generation = some s.publishedGeneration
  pointsHeld : Counted customAppEffect hp fun l => l.generation = some s.publishedGeneration

/-- The invariant: the samples held, and the samples published. -/
structure Current (h : List (AppLabel c)) (s : App c) : Prop where
  stores : Stores h s
  blocksHeld : Counted atsEffect h s.Held
  pointsHeld : Counted customAppEffect h s.Held
  published : ∃ hp t, Published h hp s t

theorem Current.init : Current [] ({} : App c) where
  stores := .init
  blocksHeld := .nil _ _
  pointsHeld := .nil _ _
  published := ⟨[], 0, List.suffix_refl _, .init, .init, .nil _ _, .nil _ _⟩

theorem Current.step (hrun : (appSystem c).Run h s) (ih : Current h s) (hstep : AppStep s l s') :
    Current (l :: h) s' := by
  have hstores := ih.stores.step hrun hstep
  have hblocks := held_step ofReads_ats ih.blocksHeld hstep
  have hpoints := held_step ofReads_custom ih.pointsHeld hstep
  refine ⟨hstores, hblocks, hpoints, ?_⟩
  obtain ⟨hp, t, H⟩ := ih.published
  have hsuffix : hp <:+ l :: h := H.suffix.trans (List.suffix_cons l h)
  cases hstep with
  | publish | publishOffline =>
    exact ⟨_, _, List.suffix_refl _, hstores.blocks, hstores.points,
      hblocks.mono fun _ h => h.2, hpoints.mono fun _ h => h.2⟩
  | _ => exact ⟨hp, t, hsuffix, H.blocks, H.points, H.blocksHeld, H.pointsHeld⟩

theorem Current.ofRun (run : (appSystem c).Run h s) : Current h s :=
  App.invariant .init (fun _ _ _ _ => step) run

/-! ## Generations count the events -/

/-- The generation the iteration under way, or the last one, has sampled. -/
def App.sampled (s : App c) : Nat :=
  match s.pc with
  | .sample => s.generation
  | .check _ changed | .step _ changed | .reading changed _ | .publish _ changed => changed

theorem networkGeneration_eq (run : (appSystem c).Run h s) :
    s.networkGeneration = u32 (networkEvents h) := by
  refine App.invariant (I := fun h s => s.networkGeneration = u32 (networkEvents h)) rfl ?_ run
  intro h s l s' _ ih hstep
  cases hstep with
  | network up =>
    have hcount : networkEvents (.network up :: h) = networkEvents h + 1 :=
      List.countP_cons_of_pos rfl
    rw [hcount]
    simp only [networkEvent, ih, u32]
    omega
  | _ => exact ih

theorem sampled_le (run : (appSystem c).Run h s) (hevents : networkEvents h < 2 ^ 32) :
    s.sampled ≤ networkEvents h := by
  refine App.invariant
    (I := fun h s => networkEvents h < 2 ^ 32 → s.sampled ≤ networkEvents h)
    (fun _ => Nat.le_refl _) ?_ run hevents
  intro h s l s' hrun ih hstep hlt
  have hle : networkEvents h ≤ networkEvents (l :: h) := by
    simp only [networkEvents, List.countP_cons]
    omega
  have hold := Nat.le_trans (ih (Nat.lt_of_le_of_lt hle hlt)) hle
  cases hstep with
  | tick | network | enter | snapshot => exact hold
  | sample hpc =>
    have heq : s.networkGeneration = networkEvents h :=
      (networkGeneration_eq hrun).trans (u32_of_lt (Nat.lt_of_le_of_lt hle hlt))
    exact Nat.le_trans (Nat.le_of_eq heq) hle
  | check hpc | checkOffline hpc | start hpc | skip hpc | idle hpc | read hpc | customRead hpc
    | publish hpc | publishOffline hpc =>
    simp only [App.sampled, hpc] at hold
    exact hold

/-- A read is issued under a generation no newer than the events before it. -/
theorem generation_le (run : (appSystem c).Run (newer ++ l :: older) s)
    (hevents : networkEvents (newer ++ l :: older) < 2 ^ 32) (hl : l.generation = some g) :
    g ≤ networkEvents older := by
  obtain ⟨s₀, s₁, hrun, i, hnext⟩ := StepSystem.Run.step_of_append run
  have hle : networkEvents older ≤ networkEvents (newer ++ l :: older) := by
    simp only [networkEvents, List.countP_append, List.countP_cons]
    omega
  have hsampled := sampled_le hrun (Nat.lt_of_le_of_lt hle hevents)
  cases AppStep.ofNext hnext with
  | read hpc | customRead hpc =>
    cases hl
    simp only [App.sampled, hpc] at hsampled
    exact hsampled
  | _ => cases hl

/-- A read of the current generation has no network event after it. -/
theorem no_event_since (run : (appSystem c).Run (newer ++ l :: older) s)
    (hevents : networkEvents (newer ++ l :: older) < 2 ^ 32)
    (hl : l.generation = some s.networkGeneration) : ∀ l' ∈ newer, l'.isNetwork = false := by
  have hle := generation_le run hevents hl
  rw [networkGeneration_eq run, u32_of_lt hevents] at hle
  have hzero : newer.countP AppLabel.isNetwork = 0 := by
    simp only [networkEvents, List.countP_append, List.countP_cons] at hle
    omega
  intro l' hl'
  simpa using List.countP_eq_zero.mp hzero l' hl'

/-! ## The snapshot -/

/-- The read `l` produced the value `v` of entry `i` of the catalogue. -/
def AppLabel.Produced (i : Nat) (v : AtsValue) : AppLabel c → Prop
  | .read _ r _ => ∃ (hi : i < 164) (b : BlockIndex), r.block = some b ∧ r.reply.result.error = .ok ∧
      containingBlock (atsPoints ⟨i, hi⟩).offset (atsPoints ⟨i, hi⟩).wordCount = some b ∧
      v.lastGoodMs = r.completed ∧ v.rawCount = (atsPoints ⟨i, hi⟩).wordCount ∧
      ∀ j < (atsPoints ⟨i, hi⟩).wordCount, v.rawWords j =
        r.reply.words ((atsPoints ⟨i, hi⟩).offset - (atsScanBlocks b).offset + j)
  | .customRead _ r _ => r.point.val = i ∧ r.Valid ∧ v.SameData r.decoded.1
  | _ => False

/-- A value that is still GOOD in a snapshot is one of the published poller's, with the network up
and unchanged since that was published. -/
theorem snapshotValues_good (hi : (snapshotValues s now)[i]? = some v) (hgood : v.quality = .good) :
    s.networkUp = true ∧ s.publishedGeneration = s.networkGeneration ∧
      ((∃ hi : i < c.customMap.count, v = customPollSnapshot s.publishedCustom now ⟨i, hi⟩) ∨
        ∃ hi : i < 164, v = atsModelDecodeAll s.published.model now ⟨i, hi⟩) := by
  unfold snapshotValues at hi
  dsimp only at hi
  split at hi
  · rw [List.getElem?_map] at hi
    obtain ⟨w, -, rfl⟩ := Option.map_eq_some_iff.mp hi
    cases hgood
  · next hup =>
    have hup : (s.networkUp = true ∧ s.publishedGeneration = s.networkGeneration) ∧
        c.configError = [] := by simpa using hup
    refine ⟨hup.1.1, hup.1.2, ?_⟩
    split at hi
    · rw [List.getElem?_ofFn] at hi
      split at hi
      · next hlt => cases hi; exact .inl ⟨hlt, rfl⟩
      · cases hi
    · rw [List.getElem?_take, List.getElem?_ofFn] at hi
      split at hi
      · split at hi
        · next hlt => cases hi; exact .inr ⟨hlt, rfl⟩
        · cases hi
      · cases hi

/-- A custom point that is GOOD in the published poller comes from a read it counts. -/
theorem Published.custom_good (H : Published h hp s t)
    (hgood : (customPollSnapshot s.publishedCustom now i).quality = .good) :
    ∃ newer l older, hp = newer ++ l :: older ∧ l.generation = some s.publishedGeneration ∧
      l.Produced i (customPollSnapshot s.publishedCustom now i) := by
  have hvalid := (H.points.good i).mp (customPollSnapshot_good hgood).1
  obtain ⟨r, newer, l, older, hlast, hlatest, hgen⟩ := H.pointsHeld i hvalid
  have hdata := (customPollSnapshot_sameData s.publishedCustom now i).trans (H.points.data i)
  rw [hlast] at hdata
  obtain ⟨g, recorded, rfl, hpoint, hr⟩ := customAppEffect_take hlatest.takes
  exact ⟨newer, _, older, hlatest.split, hgen, congrArg Fin.val hpoint, hr, hdata⟩

/-- A point of the block store that is GOOD in the published poller comes from a read it counts. -/
theorem Published.ats_good (H : Published h hp s t)
    (hgood : (atsModelDecodeAll s.published.model now i).quality = .good) :
    ∃ newer l older, hp = newer ++ l :: older ∧ l.generation = some s.publishedGeneration ∧
      l.Produced i (atsModelDecodeAll s.published.model now i) := by
  obtain ⟨b, hb, hblock, htime, hcount, hwords⟩ := decodePoint_good hgood
  obtain ⟨hacq, hfail, -, -⟩ := blockGood_iff.mp hblock
  obtain ⟨r, newer, l, older, hlast, hlatest, hgen⟩ :=
    H.blocksHeld b ((H.blocks.good b).mp ⟨hacq, hfail⟩)
  obtain ⟨hsample, hsamples⟩ := H.blocks.sample b r hlast
  have hbounds := containingBlock_bounds hb
  obtain ⟨g, recorded, rfl, hr, hok⟩ := atsEffect_take hlatest.takes
  exact ⟨newer, _, older, hlatest.split, hgen, i.isLt, b, hr, hok, hb, htime.trans hsample, hcount,
    fun j (hj : j < (atsPoints i).wordCount) => (hwords j hj).trans (hsamples _ (by omega))⟩

/-- Whenever a snapshot reports a point GOOD, the network is up, and the read that produced the
value was issued by an iteration that had sampled the present generation; no network event has
happened since that read. -/
theorem snapshotValues_current (run : (appSystem c).Run (.snapshot now values :: h) s)
    (hevents : networkEvents (.snapshot now values :: h) < 2 ^ 32) (hi : values[i]? = some v)
    (hgood : v.quality = .good) :
    s.networkUp = true ∧ ∃ newer l older, h = newer ++ l :: older ∧
      l.generation = some s.networkGeneration ∧ l.Produced i v ∧
      ∀ l' ∈ newer, l'.isNetwork = false := by
  obtain ⟨s₀, hrun, input, hnext⟩ := StepSystem.Run.cons_inv run
  cases AppStep.ofNext hnext with
  | snapshot =>
    obtain ⟨hup, hgen, hvalue⟩ := snapshotValues_good hi hgood
    refine ⟨hup, ?_⟩
    obtain ⟨hp, t, H⟩ := (Current.ofRun hrun).published
    obtain ⟨newer, l, older, hsplit, hl, hproduced⟩ : ∃ newer l older, hp = newer ++ l :: older ∧
        l.generation = some s₀.publishedGeneration ∧ l.Produced i v := by
      rcases hvalue with ⟨hlt, rfl⟩ | ⟨hlt, rfl⟩
      · exact H.custom_good hgood
      · exact H.ats_good hgood
    obtain ⟨since, hsince⟩ := H.suffix
    rw [hgen] at hl
    have hh : h = (since ++ newer) ++ l :: older := by rw [← hsince, hsplit, List.append_assoc]
    refine ⟨since ++ newer, l, older, hh, hl, hproduced, ?_⟩
    rw [hh] at hrun hevents
    exact no_event_since hrun hevents hl

theorem appNext_snapshot (h : now ∈ s.pending) :
    appNext s (.snapshot now) = some
      (.snapshot now (snapshotValues s now), { s with pending := s.pending.erase now }) :=
  if_pos h

/-- The map of one voltage, polled on a network that comes up once. -/
def voltageBoot : Boot where
  settings := { gatewayConfigDefaults with profile := .custom }
  customMap := voltageMap
  configError := []

def voltageInputs : List AppInput :=
  [.network true, .sample, .check 0 0 0, .start, .tick 20, .finish (wordReply 4900),
    .publish 20 20 20, .enter 20]

theorem snapshotValues_current_voltage :
    ∃ v, (snapshotValues (appAfter voltageBoot voltageInputs).2 20)[0]? = some v ∧
      v.quality = .good ∧ ∃ newer l older, (appAfter voltageBoot voltageInputs).1 =
        newer ++ l :: older ∧ l.generation = some 1 ∧ l.Produced 0 v := by
  have hquality : ((snapshotValues (appAfter voltageBoot voltageInputs).2 20)[0]?).map
      AtsValue.quality = some .good := by decide +kernel
  obtain ⟨v, hv, hgood⟩ := Option.map_eq_some_iff.mp hquality
  have hpending : 20 ∈ (appAfter voltageBoot voltageInputs).2.pending := by decide +kernel
  have hgeneration : (appAfter voltageBoot voltageInputs).2.networkGeneration = 1 := by
    decide +kernel
  have hevents : networkEvents (.snapshot 20 (snapshotValues
      (appAfter voltageBoot voltageInputs).2 20) :: (appAfter voltageBoot voltageInputs).1) <
        2 ^ 32 := by
    decide +kernel
  have hrun := (appSystem_run voltageBoot voltageInputs).step ⟨_, appNext_snapshot hpending⟩
  obtain ⟨-, newer, l, older, hsplit, hl, hproduced, -⟩ :=
    snapshotValues_current hrun hevents hv hgood
  exact ⟨v, hv, hgood, newer, l, older, hsplit, hl.trans (congrArg some hgeneration), hproduced⟩

end ModbusGateway
