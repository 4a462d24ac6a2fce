import ModbusGateway.Bacnet.Recovery

/-!
# Retrying a timed-out notification

An entry of the recovery table stays until `Object_COV_Clear` is called for its object. That is what
brings the retry about when the entry is due, but the stack calls it for other reasons too, and an entry
that is not due yet is then lost.
-/

namespace ModbusGateway

/-! ## Clearing -/

/-- A slot of the object is marked as unused. -/
def RecoverySlot.release (slot : RecoverySlot) (object : ObjectId) : RecoverySlot :=
  if slot.holds object then { slot with used := false } else slot

theorem clearSlot_snd (object : ObjectId) (s : Cov) (slot : RecoverySlot) :
    (clearSlot object s slot).2 = slot.release object := by
  unfold clearSlot RecoverySlot.release
  split <;> rfl

theorem clearSlots_snd (object : ObjectId) (s : Cov) (slots : List RecoverySlot) :
    (clearSlots object s slots).2 = slots.map fun slot => slot.release object := by
  induction slots generalizing s with
  | nil => rfl
  | cons slot slots ih =>
    rw [clearSlots, List.map_cons, ih, clearSlot_snd]

/-- Nothing but the counters changes. -/
structure Cov.SameObjects (s t : Cov) : Prop where
  nowMs : t.nowMs = s.nowMs
  subscriptions : t.subscriptions = s.subscriptions

theorem Cov.SameObjects.trans {s t u : Cov} (h : s.SameObjects t) (h' : t.SameObjects u) :
    s.SameObjects u :=
  ⟨h'.nowMs.trans h.nowMs, h'.subscriptions.trans h.subscriptions⟩

theorem clearSlot_same (object : ObjectId) (s : Cov) (slot : RecoverySlot) :
    s.SameObjects (clearSlot object s slot).1 := by
  unfold clearSlot
  split <;> exact ⟨rfl, rfl⟩

theorem clearSlots_same (object : ObjectId) (s : Cov) (slots : List RecoverySlot) :
    s.SameObjects (clearSlots object s slots).1 := by
  induction slots generalizing s with
  | nil => exact ⟨rfl, rfl⟩
  | cons slot slots ih => exact (clearSlot_same object s slot).trans (ih _)

theorem retryClear_recovery (s : Cov) (object : ObjectId) :
    (retryClear s object).recovery = s.recovery.map fun slot => slot.release object :=
  clearSlots_snd object s s.recovery

theorem retryClear_same (s : Cov) (object : ObjectId) : s.SameObjects (retryClear s object) :=
  (clearSlots_same object s s.recovery).trans ⟨rfl, rfl⟩

theorem RecoverySlot.release_of_ne {slot : RecoverySlot} {object : ObjectId} (h : slot.object ≠ object) :
    slot.release object = slot := by
  unfold RecoverySlot.release RecoverySlot.holds
  rw [if_neg]
  rw [Bool.and_eq_true, beq_iff_eq]
  exact fun hholds => h hholds.2

theorem RecoverySlot.release_used {slot : RecoverySlot} {object : ObjectId}
    (h : (slot.release object).used = true) :
    slot.release object = slot := by
  unfold RecoverySlot.release at h ⊢
  split at h
  · cases h
  · next hholds => rw [if_neg hholds]

/-- What clearing an object does to the table: slots of other objects stay, none is new. -/
structure Keeps (s t : Cov) (object : ObjectId) : Prop where
  same : s.SameObjects t
  others : ∀ slot ∈ s.recovery, slot.object ≠ object → slot ∈ t.recovery
  old : ∀ slot ∈ t.recovery, slot.used = true → slot ∈ s.recovery

theorem retryClear_keeps (s : Cov) (object : ObjectId) : Keeps s (retryClear s object) object where
  same := retryClear_same s object
  others slot hslot hne := by
    rw [retryClear_recovery]
    exact List.mem_map.mpr ⟨slot, hslot, RecoverySlot.release_of_ne hne⟩
  old slot hslot hused := by
    rw [retryClear_recovery] at hslot
    obtain ⟨slot', hmem, rfl⟩ := List.mem_map.mp hslot
    rw [RecoverySlot.release_used hused]
    exact hmem

theorem objectCovClear_keeps (catalog : List Nat) (s : Cov) (object : ObjectId) :
    Keeps s (objectCovClear catalog s object) object := by
  have hrecovery (t : Cov) (hsame : s.SameObjects t) (heq : t.recovery = s.recovery) :
      Keeps s (retryClear t object) object := by
    have H := retryClear_keeps t object
    exact ⟨hsame.trans H.same, heq ▸ H.others, heq ▸ H.old⟩
  unfold objectCovClear
  split
  · exact hrecovery _ ⟨rfl, rfl⟩ rfl
  · split
    · dsimp only
      split
      · exact hrecovery _ ⟨rfl, rfl⟩ rfl
      · exact hrecovery _ ⟨rfl, rfl⟩ rfl
    · exact ⟨⟨rfl, rfl⟩, fun _ h _ => h, fun _ h _ => h⟩

/-- The clearing of a pass spares the objects of which no subscription is to be sent. -/
theorem covClear_spares (catalog : List Nat) (s : Cov) (subs : List CovSubscription) :
    s.SameObjects (covClear catalog s subs) ∧
      (∀ slot ∈ s.recovery, (∀ sub ∈ subs, sub.sendRequested = true → sub.object ≠ slot.object) →
        slot ∈ (covClear catalog s subs).recovery) ∧
      ∀ slot ∈ (covClear catalog s subs).recovery, slot.used = true → slot ∈ s.recovery := by
  induction subs generalizing s with
  | nil => exact ⟨⟨rfl, rfl⟩, fun _ h _ => h, fun _ h _ => h⟩
  | cons sub subs ih =>
    unfold covClear
    split
    · next hsend =>
      have H := objectCovClear_keeps catalog s sub.object
      obtain ⟨hsame, hspares, hold⟩ := ih (objectCovClear catalog s sub.object)
      refine ⟨H.same.trans hsame, fun slot hslot hsubs => ?_, fun slot hslot hused => ?_⟩
      · have hne := hsubs sub List.mem_cons_self hsend
        exact hspares slot (H.others slot hslot hne.symm) fun other hother =>
          hsubs other (List.mem_cons_of_mem _ hother)
      · exact H.old slot (hold slot hslot hused) hused
    · obtain ⟨hsame, hspares, hold⟩ := ih s
      exact ⟨hsame, fun slot hslot hsubs => hspares slot hslot fun other hother =>
        hsubs other (List.mem_cons_of_mem _ hother), hold⟩

/-! ## One pass -/

theorem objectCov_of_due {s : Cov} (hslot : slot ∈ s.recovery) (hholds : slot.holds object = true)
    (hdue : slot.due ≤ s.nowMs) (htype : object.supportsCov = true) :
    objectCov catalog s object = true := by
  have hpending : retryPending s object = true := by
    refine List.any_eq_true.mpr ⟨slot, hslot, ?_⟩
    rw [hholds, Bool.true_and]
    exact decide_eq_true hdue
  unfold ObjectId.supportsCov at htype
  unfold objectCov
  rw [hpending]
  simp only [Bool.or_true]
  split
  · rfl
  · next htypes =>
    rw [Bool.or_eq_true, decide_eq_true_eq, decide_eq_true_eq] at htype
    rw [if_pos (htype.resolve_left htypes)]

theorem covSeen_mem {s : Cov} : object ∈ covSeen catalog s ↔
    (∃ sub ∈ s.subscriptions, sub.object = object) ∧ objectCov catalog s object = true := by
  unfold covSeen
  rw [List.mem_filter, List.mem_map]

theorem covPass_objects (catalog : List Nat) (s : Cov) (sent : Nat → Bool) :
    (covPass catalog s sent).subscriptions.map CovSubscription.object =
      s.subscriptions.map CovSubscription.object := by
  have hsend (subs : List CovSubscription) :
      (covSend sent subs).map CovSubscription.object = subs.map CovSubscription.object := by
    unfold covSend
    refine List.ext_getElem ?_ fun i _ _ => ?_
    · simp
    · simp
  have hmark : (covMark catalog s).map CovSubscription.object =
      s.subscriptions.map CovSubscription.object := by
    unfold covMark
    rw [List.map_map]
    rfl
  exact (hsend _).trans hmark

theorem covPass_same (catalog : List Nat) (s : Cov) (sent : Nat → Bool) :
    (covPass catalog s sent).nowMs = s.nowMs ∧
      (∀ slot ∈ (covPass catalog s sent).recovery, slot.used = true → slot ∈ s.recovery) := by
  obtain ⟨hsame, -, hold⟩ := covClear_spares catalog s (covMark catalog s)
  exact ⟨hsame.nowMs, hold⟩

/-- An entry of which no subscription is to be sent outlives the pass. -/
theorem covPass_spares {s : Cov} (hslot : slot ∈ s.recovery)
    (hunseen : objectCov catalog s slot.object = false)
    (hsubs : ∀ sub ∈ s.subscriptions, sub.object = slot.object → sub.sendRequested = false)
    (sent : Nat → Bool) : slot ∈ (covPass catalog s sent).recovery := by
  obtain ⟨-, hspares, -⟩ := covClear_spares catalog s (covMark catalog s)
  refine hspares slot hslot fun sub hsub hsend heq => ?_
  obtain ⟨before, hbefore, rfl⟩ := List.mem_map.mp hsub
  have hnot := hsubs before hbefore heq
  dsimp only at hsend heq
  rw [hnot, heq, hunseen] at hsend
  cases hsend

/-! ## The timeout -/

theorem fillSlot_mem (h : fillSlot new slots = some slots') :
    new ∈ slots' ∧ (∀ slot ∈ slots, slot.used = true → slot ∈ slots') ∧
      ∀ slot ∈ slots', slot ∈ slots ∨ slot = new := by
  induction slots generalizing slots' with
  | nil => cases h
  | cons slot slots ih =>
    unfold fillSlot at h
    split at h
    · obtain ⟨rest, hrest, rfl⟩ := Option.map_eq_some_iff.mp h
      obtain ⟨hnew, hkeep, hold⟩ := ih hrest
      refine ⟨List.mem_cons_of_mem _ hnew, fun q hq hused => ?_, fun q hq => ?_⟩
      · rcases List.mem_cons.mp hq with rfl | hq
        · exact List.mem_cons_self
        · exact List.mem_cons_of_mem _ (hkeep q hq hused)
      · rcases List.mem_cons.mp hq with rfl | hq
        · exact .inl List.mem_cons_self
        · exact (hold q hq).imp_left (List.mem_cons_of_mem _)
    · next hunused =>
      cases h
      refine ⟨List.mem_cons_self, fun q hq hused => ?_, fun q hq => ?_⟩
      · rcases List.mem_cons.mp hq with rfl | hq
        · exact absurd hused hunused
        · exact List.mem_cons_of_mem _ hq
      · rcases List.mem_cons.mp hq with rfl | hq
        · exact .inr rfl
        · exact .inl (List.mem_cons_of_mem _ hq)

/-- No entry is due later than a second from now. -/
def Timely (s : Cov) : Prop := ∀ slot ∈ s.recovery, slot.used = true → slot.due ≤ s.nowMs + 1000

/-- An entry of the object that is due by then. -/
def Waiting (s : Cov) (object : ObjectId) (deadline : Nat) : Prop :=
  ∃ slot ∈ s.recovery, slot.holds object = true ∧ slot.due ≤ deadline

/-- What a timeout does to the table. -/
structure TimedOut (s : Cov) (object : ObjectId) (r : Cov × Bool) : Prop where
  same : s.SameObjects r.1
  keeps : ∀ slot ∈ s.recovery, slot.used = true → slot ∈ r.1.recovery
  timely : Timely s → Timely r.1
  waiting : Timely s → r.2 = true → Waiting r.1 object (s.nowMs + 1000)

theorem covTimeout_timedOut (s : Cov) (object : ObjectId) :
    TimedOut s object (covTimeout s object) := by
  unfold covTimeout
  dsimp only
  split
  · next hany =>
    refine ⟨⟨rfl, rfl⟩, fun _ h _ => h, id, fun htimely _ => ?_⟩
    obtain ⟨slot, hslot, hholds⟩ := List.any_eq_true.mp hany
    exact ⟨slot, hslot, hholds, htimely slot hslot (Bool.and_eq_true_iff.mp hholds).1⟩
  · split
    · next recovery hfill =>
      obtain ⟨hnew, hkeep, hold⟩ := fillSlot_mem hfill
      have hdue : u64 (s.nowMs + 1000) ≤ s.nowMs + 1000 := u64_le
      refine ⟨⟨rfl, rfl⟩, hkeep, fun htimely slot hslot hused => ?_, fun _ _ => ?_⟩
      · rcases hold slot hslot with hslot | rfl
        · exact htimely slot hslot hused
        · exact hdue
      · refine ⟨_, hnew, ?_, hdue⟩
        unfold RecoverySlot.holds
        exact Bool.and_eq_true_iff.mpr ⟨rfl, beq_self_eq_true object⟩
    · exact ⟨⟨rfl, rfl⟩, fun _ h _ => h, id, fun _ h => (by cases h)⟩

/-! ## Runs -/

/-- There is a valid subscription of the object. -/
def Subscribed (s : Cov) (object : ObjectId) : Prop := ∃ sub ∈ s.subscriptions, sub.object = object

/-- A pass has seen `Object_COV` return true for the object. -/
def Seen (h : List CovLabel) (object : ObjectId) : Prop :=
  ∃ start seen, .pass start seen ∈ h ∧ object ∈ seen

/-- A pass spares the entries that are not due: of their objects no subscription is to be sent, unless
the pass sees the object anyway. -/
def Spares (catalog : List Nat) (_ : List CovLabel) (s : Cov) (l : CovLabel) (_ : Cov) : Prop :=
  (∃ start seen, l = .pass start seen) → ∀ slot ∈ s.recovery, slot.used = true →
    s.nowMs < slot.due → objectCov catalog s slot.object = false →
    ∀ sub ∈ s.subscriptions, sub.object = slot.object → sub.sendRequested = false

/-- Every recorded timeout was followed by a pass that saw the object, or its entry is waiting. -/
structure Retrying (h : List CovLabel) (s : Cov) : Prop where
  supports : ∀ sub ∈ s.subscriptions, sub.object.supportsCov = true
  timely : Timely s
  retried : ∀ earlier object t older, h = earlier ++ .timeout object t true :: older →
    Seen earlier object ∨ Subscribed s object ∧ Waiting s object (t + 1000)

theorem Retrying.cons {s s' : Cov} (H : Retrying h s)
    (supports : ∀ sub ∈ s'.subscriptions, sub.object.supportsCov = true) (timely : Timely s')
    (keep : ∀ object deadline, Subscribed s object → Waiting s object deadline →
      Seen [l] object ∨ Subscribed s' object ∧ Waiting s' object deadline)
    (new : ∀ object t, l = .timeout object t true →
      Subscribed s' object ∧ Waiting s' object (t + 1000)) : Retrying (l :: h) s' := by
  refine ⟨supports, timely, fun earlier object t older heq => ?_⟩
  cases earlier with
  | nil => exact .inr (new object t (List.cons.inj heq).1)
  | cons first earlier =>
    obtain ⟨rfl, htail⟩ := List.cons.inj heq
    rcases H.retried earlier object t older htail with ⟨start, seen, hmem, hseen⟩ | ⟨hsub, hwait⟩
    · exact .inl ⟨start, seen, List.mem_cons_of_mem _ hmem, hseen⟩
    · rcases keep object _ hsub hwait with ⟨start, seen, hmem, hseen⟩ | hkept
      · exact .inl ⟨start, seen, List.mem_cons.mpr (.inl (List.mem_singleton.mp hmem)), hseen⟩
      · exact .inr hkept

/-- A step that leaves the table alone and moves the clock forward at most. -/
theorem Retrying.quiet {s s' : Cov} (H : Retrying h s) (hrecovery : s'.recovery = s.recovery)
    (hclock : s.nowMs ≤ s'.nowMs)
    (hsubs : ∀ sub ∈ s.subscriptions, sub ∈ s'.subscriptions)
    (supports : ∀ sub ∈ s'.subscriptions, sub.object.supportsCov = true) :
    Retrying (.quiet :: h) s' := by
  refine H.cons supports ?_ ?_ nofun
  · intro slot hslot hused
    have hdue := H.timely slot (hrecovery ▸ hslot) hused
    omega
  · rintro object deadline ⟨sub, hsub, heq⟩ ⟨slot, hslot, hwait⟩
    exact .inr ⟨⟨sub, hsubs sub hsub, heq⟩, slot, hrecovery ▸ hslot, hwait⟩

theorem Retrying.timeout {s : Cov} (H : Retrying h s) (hsub : Subscribed s object) :
    Retrying (.timeout object s.nowMs (covTimeout s object).2 :: h) (covTimeout s object).1 := by
  have hout := covTimeout_timedOut s object
  have hsubs := hout.same.subscriptions
  refine H.cons (hsubs ▸ H.supports) (hout.timely H.timely) ?_ ?_
  · rintro other deadline ⟨sub, hmem, heq⟩ ⟨slot, hslot, hholds, hdue⟩
    exact .inr ⟨⟨sub, hsubs ▸ hmem, heq⟩, slot,
      hout.keeps slot hslot (Bool.and_eq_true_iff.mp hholds).1, hholds, hdue⟩
  · intro other t heq
    injection heq with hobject htime hrecorded
    subst hobject htime
    obtain ⟨sub, hmem, heq⟩ := hsub
    exact ⟨⟨sub, hsubs ▸ hmem, heq⟩, hout.waiting H.timely hrecorded⟩

theorem Subscribed.pass {s : Cov} (H : Subscribed s object) (sent : Nat → Bool) :
    Subscribed (covPass catalog s sent) object := by
  obtain ⟨sub, hsub, rfl⟩ := H
  have hmem : sub.object ∈ (covPass catalog s sent).subscriptions.map CovSubscription.object := by
    rw [covPass_objects]
    exact List.mem_map_of_mem hsub
  exact List.mem_map.mp hmem

/-- An entry that a pass does not see is not due, and is spared. -/
theorem Retrying.pass {s : Cov} (H : Retrying h s) (sent : Nat → Bool)
    (hspares : Spares catalog h s (.pass s.nowMs (covSeen catalog s)) s') :
    Retrying (.pass s.nowMs (covSeen catalog s) :: h) (covPass catalog s sent) := by
  obtain ⟨hclock, hold⟩ := covPass_same catalog s sent
  refine H.cons ?_ ?_ ?_ nofun
  · intro sub hsub
    have hmem : sub.object ∈ s.subscriptions.map CovSubscription.object := by
      rw [← covPass_objects catalog s sent]
      exact List.mem_map_of_mem hsub
    obtain ⟨before, hbefore, heq⟩ := List.mem_map.mp hmem
    exact heq ▸ H.supports before hbefore
  · intro slot hslot hused
    rw [hclock]
    exact H.timely slot (hold slot hslot hused) hused
  · rintro object deadline hsub ⟨slot, hslot, hholds, hdue⟩
    have hobject : slot.object = object := eq_of_beq (Bool.and_eq_true_iff.mp hholds).2
    cases hseen : objectCov catalog s object with
    | true => exact .inl ⟨_, _, List.mem_singleton.mpr rfl, covSeen_mem.mpr ⟨hsub, hseen⟩⟩
    | false =>
      have hwaiting : s.nowMs < slot.due := by
        refine Nat.lt_of_not_le fun hle => ?_
        obtain ⟨sub, hmem, heq⟩ := hsub
        rw [objectCov_of_due hslot hholds hle (heq ▸ H.supports sub hmem)] at hseen
        cases hseen
      rw [← hobject] at hseen
      have hspared := hspares ⟨_, _, rfl⟩ slot hslot (Bool.and_eq_true_iff.mp hholds).1 hwaiting hseen
      exact .inr ⟨hsub.pass sent, slot, covPass_spares hslot hseen hspared sent, hholds, hdue⟩

theorem Retrying.ofRun (run : StepSystem.RunWhere (covSystem catalog) (Spares catalog) h s) :
    Retrying h s := by
  induction run with
  | init hinit =>
    cases hinit
    refine ⟨fun _ hsub => (by cases hsub), fun slot hslot hused => ?_, fun earlier _ _ _ heq => ?_⟩
    · rw [List.eq_of_mem_replicate hslot] at hused
      cases hused
    · cases earlier <;> cases heq
  | @step h s l s' _ hstep hspares H =>
    obtain ⟨input, hnext⟩ := hstep
    cases input with
    | tick timestamp =>
      simp only [covNext] at hnext
      split at hnext
      · next hclock =>
        cases hnext
        exact H.quiet rfl hclock.1 (fun _ h => h) H.supports
      · cases hnext
    | change object | quality instanceNumber =>
      cases hnext
      exact H.quiet rfl (Nat.le_refl _) (fun _ h => h) H.supports
    | subscribe object =>
      simp only [covNext] at hnext
      split at hnext
      · next htype =>
        cases hnext
        refine H.quiet rfl (Nat.le_refl _) (fun _ h => List.mem_append_left _ h) fun sub hsub => ?_
        rcases List.mem_append.mp hsub with hsub | hsub
        · exact H.supports sub hsub
        · rw [List.mem_singleton.mp hsub]
          exact htype
      · cases hnext
    | timeout object =>
      simp only [covNext] at hnext
      split at hnext
      · next hsub =>
        cases hnext
        exact H.timeout hsub
      · cases hnext
    | pass sent =>
      cases hnext
      exact H.pass sent hspares

/-- A pass starts now and sees the objects for which `Object_COV` is true. -/
theorem covNext_pass {s : Cov} (h : covNext catalog s input = some (.pass start seen, s')) :
    start = s.nowMs ∧ seen = covSeen catalog s := by
  cases input with
  | tick | subscribe | timeout =>
    simp only [covNext] at h
    split at h <;> cases h
  | change | quality => cases h
  | pass sent =>
    cases h
    exact ⟨rfl, rfl⟩

/-- In every run whose passes spare the entries that are not due, a pass that starts a second or more
after a recorded timeout sees the object, or an earlier pass since the timeout has seen it. -/
theorem cov_retried (run : StepSystem.RunWhere (covSystem catalog) (Spares catalog) h s)
    (hh : h = later ++ .pass start seen :: (earlier ++ .timeout object t true :: older))
    (hstart : t + 1000 ≤ start) : Seen (.pass start seen :: earlier) object := by
  subst hh
  obtain ⟨s₁, hrun⟩ := run.of_append
  cases hrun with
  | step hbefore hstep _ =>
    have H := Retrying.ofRun hbefore
    obtain ⟨input, hnext⟩ := hstep
    rcases H.retried earlier object t older rfl with ⟨start', seen', hmem, hseen⟩ | ⟨hsub, hwait⟩
    · exact ⟨start', seen', List.mem_cons_of_mem _ hmem, hseen⟩
    · obtain ⟨rfl, rfl⟩ := covNext_pass hnext
      obtain ⟨sub, hsubmem, heq⟩ := hsub
      obtain ⟨slot, hslot, hholds, hdue⟩ := hwait
      have hcov : objectCov catalog _ object = true :=
        objectCov_of_due hslot hholds (hdue.trans hstart) (heq ▸ H.supports sub hsubmem)
      exact ⟨_, _, List.mem_cons_self, covSeen_mem.mpr ⟨⟨sub, hsubmem, heq⟩, hcov⟩⟩

theorem covNext_tick {s : Cov} (h : s.nowMs ≤ timestamp ∧ timestamp < 2 ^ 64) :
    covNext catalog s (.tick timestamp) = some (.quiet, { s with nowMs := timestamp }) :=
  if_pos h

/-- The first analog input; `Object_COV` is false for it until its value changes. -/
def firstInput : ObjectId := ⟨OBJECT_ANALOG_INPUT, 0⟩

/-- A notification is sent and times out; the pass a second later sees the object. -/
theorem cov_retried_alone : ∃ h s start seen earlier older,
    StepSystem.RunWhere (covSystem []) (Spares []) h s ∧
    h = .pass start seen :: (earlier ++ .timeout firstInput 0 true :: older) ∧
    Seen (.pass start seen :: earlier) firstInput := by
  have hquiet {h s s'} : Spares [] h s .quiet s' := fun hpass => by
    obtain ⟨_, _, heq⟩ := hpass
    cases heq
  have hsubscribed := (StepSystem.RunWhere.init (M := covSystem []) rfl).step
    ⟨.subscribe firstInput, rfl⟩ hquiet
  have hsent := hsubscribed.step ⟨.pass fun _ => true, rfl⟩ fun _ => by decide +kernel
  have htimeout := hsent.step ⟨.timeout firstInput, rfl⟩ fun hpass => by
    obtain ⟨_, _, heq⟩ := hpass
    cases heq
  have hticked := htimeout.step ⟨.tick 1000, covNext_tick (by decide +kernel)⟩ hquiet
  have hlast := hticked.step ⟨.pass fun _ => true, rfl⟩ fun _ => by decide +kernel
  obtain ⟨h, s, hrun, hlabels⟩ : ∃ h s, StepSystem.RunWhere (covSystem []) (Spares []) h s ∧
      h = [] ++ .pass 1000 [firstInput] :: ([.quiet] ++ .timeout firstInput 0 true ::
        [.pass 0 [], .quiet]) := ⟨_, _, hlast, by decide +kernel⟩
  exact ⟨h, s, _, _, _, _, hrun, hlabels, cov_retried hrun hlabels (Nat.le_refl _)⟩

/-- Before the entry is due there is a second subscription of the object. -/
def secondSubscriber : List CovInput :=
  [.subscribe firstInput, .pass fun _ => true, .timeout firstInput, .subscribe firstInput,
    .pass fun _ => true, .tick 1000, .pass fun _ => true]

/-- The first notification to the second subscriber clears the entry of the first: neither pass sees the
object. -/
theorem cov_lost : ∃ h s later start seen earlier older, (covSystem []).Run h s ∧
    h = later ++ .pass start seen :: (earlier ++ .timeout firstInput 0 true :: older) ∧
    0 + 1000 ≤ start ∧ ¬ Seen (.pass start seen :: earlier) firstInput := by
  have hlabels : (covAfter [] secondSubscriber).1 =
      [.pass 1000 [], .quiet, .pass 0 [], .quiet, .timeout firstInput 0 true, .pass 0 [], .quiet] := by
    decide +kernel
  refine ⟨_, _, [], 1000, [], [.quiet, .pass 0 [], .quiet], [.pass 0 [], .quiet],
    covSystem_run [] secondSubscriber, hlabels, Nat.le_refl _, fun hseen => ?_⟩
  obtain ⟨start, seen, hmem, hobject⟩ := hseen
  simp only [List.mem_cons, CovLabel.pass.injEq, reduceCtorEq, false_or, List.not_mem_nil,
    or_false] at hmem
  rcases hmem with ⟨-, rfl⟩ | ⟨-, rfl⟩ <;> cases hobject

end ModbusGateway
