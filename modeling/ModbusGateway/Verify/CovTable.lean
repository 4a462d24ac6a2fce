import Mathlib.Data.List.Perm.Subperm
import ModbusGateway.Bacnet.Session
import ModbusGateway.Verify.Recovery

/-!
# The recovery table over sessions

The used entries name different objects of the session, and `cov_pending` counts them. A session has at
most `GATEWAY_BACNET_MAX_POINTS` points and six objects of its own, which is less than the table holds: a
timeout always finds room.
-/

namespace ModbusGateway

/-- The objects of the used entries. -/
def usedObjects (slots : List RecoverySlot) : List ObjectId :=
  (slots.filter RecoverySlot.used).map RecoverySlot.object

theorem usedObjects_cons (slot : RecoverySlot) (slots : List RecoverySlot) :
    usedObjects (slot :: slots) =
      if slot.used then slot.object :: usedObjects slots else usedObjects slots := by
  unfold usedObjects
  rw [List.filter_cons]
  split
  · rfl
  · rfl

theorem usedObjects_replicate (n : Nat) : usedObjects (List.replicate n {}) = [] := by
  unfold usedObjects
  rw [List.filter_replicate_of_neg Bool.false_ne_true, List.map_nil]

theorem mem_usedObjects {slots : List RecoverySlot} : object ∈ usedObjects slots ↔
    ∃ slot ∈ slots, slot.holds object = true := by
  unfold usedObjects RecoverySlot.holds
  simp only [List.mem_map, List.mem_filter, Bool.and_eq_true, beq_iff_eq, and_assoc]

/-! ## Clearing -/

theorem usedObjects_release (object : ObjectId) (slots : List RecoverySlot) :
    usedObjects (slots.map fun slot => slot.release object) =
      (usedObjects slots).filter (· ≠ object) := by
  induction slots with
  | nil => rfl
  | cons slot slots ih =>
    rw [List.map_cons, usedObjects_cons, usedObjects_cons, ih]
    unfold RecoverySlot.release RecoverySlot.holds
    by_cases hused : slot.used = true
    · by_cases hobject : slot.object = object
      · simp [hused, hobject]
      · simp [hused, hobject]
    · simp [hused]

/-- Clearing takes the entries of the object off the counter, which does not underflow. -/
theorem clearSlots_pending (object : ObjectId) (slots : List RecoverySlot) {s : Cov}
    (hle : (usedObjects slots).count object ≤ s.covPending) (hlt : s.covPending < 2 ^ 32) :
    (clearSlots object s slots).1.covPending + (usedObjects slots).count object = s.covPending := by
  induction slots generalizing s with
  | nil => rfl
  | cons slot slots ih =>
    have hcount : (usedObjects (slot :: slots)).count object =
        (usedObjects slots).count object + if slot.holds object then 1 else 0 := by
      rw [usedObjects_cons]
      unfold RecoverySlot.holds
      by_cases hused : slot.used = true
      · rw [if_pos hused, List.count_cons, hused, Bool.true_and]
      · rw [if_neg hused, Bool.eq_false_iff.mpr hused, Bool.false_and]
        rfl
    rw [hcount] at hle ⊢
    unfold clearSlots
    dsimp only
    by_cases hholds : slot.holds object = true
    · rw [if_pos hholds] at hle ⊢
      have hstep : (clearSlot object s slot).1.covPending = s.covPending - 1 := by
        unfold clearSlot
        rw [if_pos hholds]
        show u32 (s.covPending + UINT32_MAX) = s.covPending - 1
        unfold u32 UINT32_MAX
        omega
      have hrest := ih (s := (clearSlot object s slot).1) (by omega) (by omega)
      omega
    · rw [if_neg hholds] at hle ⊢
      have hstep : (clearSlot object s slot).1 = s := by
        unfold clearSlot
        rw [if_neg hholds]
      rw [hstep]
      exact ih hle hlt

/-! ## The table -/

/-- The table of a session with these objects. -/
structure CovTable (objects : List ObjectId) (s : Cov) : Prop where
  size : s.recovery.length = RECOVERY_CAPACITY
  pending : s.covPending = (usedObjects s.recovery).length
  distinct : (usedObjects s.recovery).Nodup
  current : ∀ object ∈ usedObjects s.recovery, object ∈ objects

theorem CovTable.length_le (H : CovTable objects s) :
    (usedObjects s.recovery).length ≤ objects.length :=
  (List.subperm_of_subset H.distinct H.current).length_le

theorem CovTable.covPending_le (H : CovTable objects s) : s.covPending ≤ RECOVERY_CAPACITY := by
  rw [H.pending, ← H.size, usedObjects, List.length_map]
  exact List.length_filter_le _ _

/-- Only table and counters matter. -/
theorem CovTable.congr (H : CovTable objects s) (hrecovery : t.recovery = s.recovery)
    (hpending : t.covPending = s.covPending) : CovTable objects t where
  size := hrecovery ▸ H.size
  pending := by rw [hpending, hrecovery]; exact H.pending
  distinct := hrecovery ▸ H.distinct
  current := hrecovery ▸ H.current

theorem CovTable.empty (objects : List ObjectId)
    (hrecovery : s.recovery = List.replicate RECOVERY_CAPACITY {}) (hpending : s.covPending = 0) :
    CovTable objects s := by
  have hnone := usedObjects_replicate RECOVERY_CAPACITY
  rw [← hrecovery] at hnone
  refine ⟨by rw [hrecovery, List.length_replicate], by rw [hpending, hnone]; rfl, ?_, ?_⟩
  · rw [hnone]
    exact List.nodup_nil
  · rw [hnone]
    intro object hmem
    cases hmem

theorem CovTable.retryClear (H : CovTable objects s) (object : ObjectId) :
    CovTable objects (retryClear s object) ∧ (retryClear s object).covPending ≤ s.covPending := by
  have hused : usedObjects (ModbusGateway.retryClear s object).recovery =
      (usedObjects s.recovery).filter (· ≠ object) := by
    rw [retryClear_recovery, usedObjects_release]
  have hcap := H.covPending_le
  have hcount : (usedObjects s.recovery).count object ≤ s.covPending := by
    rw [H.pending]
    exact List.count_le_length
  have hsum := clearSlots_pending object s.recovery hcount
    (Nat.lt_of_le_of_lt hcap (by decide))
  have hpending : (ModbusGateway.retryClear s object).covPending =
      (clearSlots object s s.recovery).1.covPending := rfl
  have hlength : ((usedObjects s.recovery).filter (· ≠ object)).length +
      (usedObjects s.recovery).count object = (usedObjects s.recovery).length := by
    rw [List.count, ← List.countP_eq_length_filter, Nat.add_comm,
      List.length_eq_countP_add_countP (fun o => o == object)]
    congr 1
    refine List.countP_congr fun o _ => ?_
    simp
  refine ⟨⟨?_, ?_, ?_, ?_⟩, by omega⟩
  · rw [retryClear_recovery, List.length_map]
    exact H.size
  · have hbefore := H.pending
    rw [hused, hpending]
    omega
  · rw [hused]
    exact H.distinct.filter _
  · rw [hused]
    intro o hmem
    exact H.current o (List.mem_of_mem_filter hmem)

theorem CovTable.objectCovClear (H : CovTable objects s) (catalog : List Nat) (object : ObjectId) :
    CovTable objects (objectCovClear catalog s object) ∧
      (objectCovClear catalog s object).covPending ≤ s.covPending := by
  have hclear (t : Cov) (hrecovery : t.recovery = s.recovery)
      (hpending : t.covPending = s.covPending) :
      CovTable objects (ModbusGateway.retryClear t object) ∧
        (ModbusGateway.retryClear t object).covPending ≤ s.covPending := by
    have h := (H.congr hrecovery hpending).retryClear object
    rw [hpending] at h
    exact h
  unfold ModbusGateway.objectCovClear
  split
  · exact hclear _ rfl rfl
  · split
    · dsimp only
      split
      · exact hclear _ rfl rfl
      · exact hclear _ rfl rfl
    · exact ⟨H, Nat.le_refl _⟩

/-! ## The timeout -/

theorem fillSlot_usedObjects (hnew : new.used = true) (h : fillSlot new slots = some slots') :
    (usedObjects slots').Perm (new.object :: usedObjects slots) ∧ slots'.length = slots.length := by
  induction slots generalizing slots' with
  | nil => cases h
  | cons slot slots ih =>
    unfold fillSlot at h
    split at h
    · next hused =>
      obtain ⟨rest, hrest, rfl⟩ := Option.map_eq_some_iff.mp h
      obtain ⟨hperm, hlength⟩ := ih hrest
      rw [usedObjects_cons, usedObjects_cons, if_pos hused, if_pos hused, List.length_cons, hlength]
      exact ⟨(hperm.cons _).trans (List.Perm.swap ..), rfl⟩
    · next hunused =>
      cases h
      rw [usedObjects_cons, usedObjects_cons, if_pos hnew, if_neg hunused]
      exact ⟨List.Perm.refl _, rfl⟩

/-- A table with a free entry takes a new one. -/
theorem fillSlot_free (hlt : (usedObjects slots).length < slots.length) (new : RecoverySlot) :
    ∃ slots', fillSlot new slots = some slots' := by
  induction slots with
  | nil => cases hlt
  | cons slot slots ih =>
    unfold fillSlot
    split
    · next hused =>
      rw [usedObjects_cons, if_pos hused, List.length_cons, List.length_cons] at hlt
      obtain ⟨rest, hrest⟩ := ih (by omega)
      exact ⟨slot :: rest, by rw [hrest]; rfl⟩
    · exact ⟨_, rfl⟩

/-- With fewer objects than entries, a timeout of one of them is recorded. -/
theorem CovTable.timeout (H : CovTable objects s) (hroom : objects.length < RECOVERY_CAPACITY)
    (hobject : object ∈ objects) :
    CovTable objects (covTimeout s object).1 ∧ (covTimeout s object).2 = true ∧
      object ∈ usedObjects (covTimeout s object).1.recovery := by
  unfold covTimeout
  dsimp only
  split
  · next hany =>
    refine ⟨H.congr rfl rfl, rfl, mem_usedObjects.mpr ?_⟩
    exact List.any_eq_true.mp hany
  · next hnone =>
    have hlength := H.length_le
    have hfree : (usedObjects s.recovery).length < s.recovery.length := by
      rw [H.size]
      omega
    generalize hnew : ({ used := true, object, due := u64 (s.nowMs + 1000) } : RecoverySlot) = new
    have hobject' : new.object = object := by rw [← hnew]
    obtain ⟨slots', hfill⟩ := fillSlot_free hfree new
    obtain ⟨hperm, hsize⟩ := fillSlot_usedObjects (by rw [← hnew]) hfill
    rw [hobject'] at hperm
    simp only [hfill]
    have hfresh : object ∉ usedObjects s.recovery := fun hmem =>
      hnone (List.any_eq_true.mpr (mem_usedObjects.mp hmem))
    refine ⟨⟨hsize.trans H.size, ?_, ?_, fun o hmem => ?_⟩, trivial, ?_⟩
    · have hcap := H.covPending_le
      rw [hperm.length_eq, List.length_cons, ← H.pending]
      exact u32_of_lt (Nat.lt_of_le_of_lt (Nat.succ_le_succ hcap) (by decide))
    · exact hperm.nodup_iff.mpr (List.nodup_cons.mpr ⟨hfresh, H.distinct⟩)
    · rcases List.mem_cons.mp (hperm.mem_iff.mp hmem) with rfl | hmem
      · exact hobject
      · exact H.current o hmem
    · exact hperm.mem_iff.mpr List.mem_cons_self

/-! ## Sessions -/

/-- The points of a catalogue that `gateway_bacnet_init` accepts. -/
theorem catalog_length (h : bacnetInitChecks stack initialized input = true) :
    input.catalog.length ≤ GATEWAY_BACNET_MAX_POINTS := by
  have hcount {points : List AtsPointDef} {count : Nat}
      (h : validCatalog points count input.deviceName = true) :
      (points.take count).length ≤ GATEWAY_BACNET_MAX_POINTS := by
    simp only [validCatalog, Bool.and_eq_true, decide_eq_true_eq] at h
    exact Nat.le_trans (List.length_take_le _ _) h.1.2
  obtain ⟨-, hcatalog⟩ := Bool.and_eq_true_iff.mp h
  unfold BacnetConfig.catalog
  cases hpoints : input.points with
  | some points =>
    rw [hpoints] at hcatalog
    exact hcount hcatalog
  | none =>
    rw [hpoints] at hcatalog
    exact hcount hcatalog

/-- The table and the catalogue of every state. -/
structure SessionTable (s : CovSession) : Prop where
  table : CovTable s.objects s.cov
  points : ∀ points, s.points = some points → points.length ≤ GATEWAY_BACNET_MAX_POINTS

/-- A session has fewer objects than the table has entries. -/
theorem SessionTable.room (H : SessionTable s) : s.objects.length < RECOVERY_CAPACITY := by
  have hpoints : (s.points.getD []).length ≤ GATEWAY_BACNET_MAX_POINTS := by
    cases hs : s.points with
    | none => exact Nat.zero_le _
    | some points => exact H.points points hs
  have hdiagnostic : diagnosticObjects.length = 6 := rfl
  have hcapacity : RECOVERY_CAPACITY = GATEWAY_BACNET_MAX_POINTS + 8 := rfl
  rw [CovSession.objects, List.length_append, List.length_map, hdiagnostic, hcapacity]
  omega

theorem SessionTable.shutdown (s : CovSession) : SessionTable (gatewayBacnetShutdown s) :=
  ⟨.empty _ rfl rfl, nofun⟩

theorem SessionTable.step (H : SessionTable s) (hstep : sessionNext stack s i = some (l, s')) :
    SessionTable s' := by
  cases i with
  | init input timestamp created =>
    cases hstep
    dsimp only [gatewayBacnetInit]
    split
    · exact H
    · next hchecks =>
      split
      · refine ⟨.empty _ rfl rfl, fun points hpoints => ?_⟩
        cases hpoints
        exact catalog_length (not_not.mp hchecks)
      · exact .shutdown _
  | shutdown =>
    cases hstep
    exact .shutdown s
  | tick timestamp =>
    cases hstep
    split
    · exact H
    · exact ⟨H.table.congr rfl rfl, H.points⟩
  | timeout object =>
    simp only [sessionNext] at hstep
    split at hstep
    · next hobject =>
      cases hstep
      exact ⟨(H.table.timeout H.room hobject).1, H.points⟩
    · cases hstep
  | clear object =>
    cases hstep
    exact ⟨(H.table.objectCovClear s.csvInstances object).1, H.points⟩

theorem SessionTable.ofRun (run : (sessionSystem stack).Run h s) : SessionTable s := by
  induction run with
  | init hinit =>
    cases hinit
    exact ⟨.empty _ rfl rfl, nofun⟩
  | step _ hstep ih =>
    obtain ⟨i, hnext⟩ := hstep
    exact ih.step hnext

/-- In every state of every run `cov_pending` is the number of used entries, and no two of them name one
object. A timeout of an object of the session is in the table then, in a free entry unless it has one.
Clearing does not underflow the counter, and a shutdown leaves no used entry. -/
theorem recovery_consistent (run : (sessionSystem stack).Run h s) :
    s.cov.covPending = s.cov.recovery.countP RecoverySlot.used ∧
    (s.cov.recovery.Pairwise fun a b => a.used = true → b.used = true → a.object ≠ b.object) ∧
    (∀ object ∈ s.objects,
      (object ∉ usedObjects s.cov.recovery → ∀ new, ∃ slots, fillSlot new s.cov.recovery = some slots) ∧
      ∃ slot ∈ (covTimeout s.cov object).1.recovery, slot.holds object = true) ∧
    (∀ object, (objectCovClear s.csvInstances s.cov object).covPending ≤ s.cov.covPending) ∧
    ∀ slot ∈ (gatewayBacnetShutdown s).cov.recovery, slot.used = false := by
  have H := SessionTable.ofRun run
  refine ⟨?_, ?_, fun object hobject => ⟨fun _ new => ?_, ?_⟩, fun object => ?_, fun slot hslot => ?_⟩
  · rw [H.table.pending, usedObjects, List.length_map, List.countP_eq_length_filter]
  · have hdistinct := List.pairwise_filter.mp (List.pairwise_map.mp H.table.distinct)
    exact hdistinct.imp fun h ha hb => h ha hb
  · have hlength := H.table.length_le
    have hroom := H.room
    exact fillSlot_free (by rw [H.table.size]; omega) new
  · exact mem_usedObjects.mp (H.table.timeout H.room hobject).2.2
  · exact (H.table.objectCovClear s.csvInstances object).2
  · rw [List.eq_of_mem_replicate hslot]

/-- A configuration of two points. -/
def pairInput (first second : Nat) : BacnetConfig where
  deviceInstance := 260001
  deviceName := ['A', 'T', 'S']
  firmwareVersion := none
  location := none
  localIp := 0xC0A80205
  udpPort := 47808
  peerCount := 0
  points := some [⟨OBJECT_ANALOG_INPUT, first, ['U'], [], 5, 0, none, 0, 1, 0, 16⟩,
    ⟨OBJECT_CHARACTERSTRING_VALUE, second, ['T'], [], 95, 0, none, 1, 1, 0, 16⟩]
  pointCount := 2
  modelName := none
  description := none

/-- Notifications of both points and of a diagnostic object time out, the first twice; a second configuration
after a shutdown has other points. -/
def firstSession : List SessionInput :=
  [.init (pairInput 1 7) 1000 true, .timeout ⟨OBJECT_ANALOG_INPUT, 1⟩, .tick 4000,
    .timeout ⟨OBJECT_CHARACTERSTRING_VALUE, 7⟩, .timeout ⟨OBJECT_BINARY_INPUT, DIAGNOSTIC_BASE⟩,
    .clear ⟨OBJECT_ANALOG_INPUT, 1⟩, .tick 9000, .timeout ⟨OBJECT_ANALOG_INPUT, 1⟩]

def bothSessions : List SessionInput :=
  firstSession ++ [.shutdown, .timeout ⟨OBJECT_ANALOG_INPUT, 1⟩, .init (pairInput 2 8) 20000 true,
    .timeout ⟨OBJECT_ANALOG_INPUT, 2⟩]

def afterInputs (inputs : List SessionInput) : List SessionInput × CovSession :=
  StepSystem.feed (sessionNext ⟨16, 16, 16, 16⟩) inputs ([], {})

theorem recovery_consistent_sessions :
    (afterInputs firstSession).2.cov.covPending = 3 ∧
    (∀ slot ∈ (gatewayBacnetShutdown (afterInputs firstSession).2).cov.recovery, slot.used = false) ∧
    (afterInputs bothSessions).2.cov.covPending = 1 ∧
    ∃ slot ∈ (covTimeout (afterInputs bothSessions).2.cov ⟨OBJECT_CHARACTERSTRING_VALUE, 8⟩).1.recovery,
      slot.holds ⟨OBJECT_CHARACTERSTRING_VALUE, 8⟩ = true := by
  have run (inputs : List SessionInput) :
      (sessionSystem ⟨16, 16, 16, 16⟩).Run (afterInputs inputs).1 (afterInputs inputs).2 :=
    StepSystem.Run.feed inputs (.init rfl)
  obtain ⟨hfirst, -, -, -, hshutdown⟩ := recovery_consistent (run firstSession)
  obtain ⟨hboth, -, htimeout, -, -⟩ := recovery_consistent (run bothSessions)
  refine ⟨hfirst.trans (by decide +kernel), hshutdown, hboth.trans (by decide +kernel), (htimeout _ ?_).2⟩
  decide +kernel

end ModbusGateway
