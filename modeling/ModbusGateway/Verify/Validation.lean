import ModbusGateway.Ota.Validation

/-!
# A pending image is accepted when proven healthy, and otherwise given up

The steps of the three parties are listed once. From the list follow two invariants: what `validate_task`
has done since it started, and that a pending image with a started timer always has a party left that
will restart the chip.
-/

namespace ModbusGateway

/-! ## The steps -/

/-- The steps of the caller, the task, the timer service and the callback. -/
inductive ValidationStep (s : Validation) : ValidationLabel → Validation → Prop
  | tick (elapsed : Nat) : ValidationStep s .quiet { s with now := s.now + elapsed }
  | returned (b : Bool) :
    (r = ESP_OK → s.image = .pendingVerify → s.validationStarted = true) →
    ValidationStep s (.returned r) { s with healthCallback := b }
  | bootstrap : s.caller = .idle →
    ValidationStep s .quiet { s with image := .new, caller := .restarting }
  | armed : s.caller = .idle → s.validationStarted = false →
    ValidationStep s (.armed s.now)
      { s with
        healthCallback := true
        deadline := some (s.now + HEALTH_DEADLINE_MS)
        caller := .armed }
  | store : s.caller = .armed →
    ValidationStep s .quiet { s with validationStarted := true, caller := .started }
  | created : s.caller = .started →
    ValidationStep s (.returned ESP_OK) { s with task := .created, caller := .idle }
  | notCreated : s.caller = .started →
    ValidationStep s (.returned ESP_ERR_NO_MEM) { s with caller := .idle }
  | callerRestart : s.caller = .restarting →
    ValidationStep s .restart { s with restart := true, caller := .stopped }
  | started : s.task = .created →
    ValidationStep s (.taskStarted s.now)
      { s with task := .delay (s.now + HEALTH_DELAY_MS), gate := {} }
  | wake : s.task = .delay until_ → until_ ≤ s.now →
    ValidationStep s .quiet { s with task := .check }
  | finished : s.task = .check → ValidationStep s .quiet { s with task := .ended }
  | unfinished : s.task = .check → ValidationStep s .quiet { s with task := .sample }
  | sample (b : Bool) : s.task = .sample →
    (otaHealthGateSample s.gate b HEALTH_SAMPLES).1 = false →
    ValidationStep s (.sample s.now b)
      { s with
        task := .delay (s.now + 1000)
        gate := (otaHealthGateSample s.gate b HEALTH_SAMPLES).2 }
  | lastSample (b : Bool) : s.task = .sample →
    (otaHealthGateSample s.gate b HEALTH_SAMPLES).1 = true →
    ValidationStep s (.sample s.now b)
      { s with task := .mark, gate := (otaHealthGateSample s.gate b HEALTH_SAMPLES).2 }
  | marked : s.task = .mark →
    ValidationStep s (.mark ESP_OK) { s with image := .valid, task := .record }
  | notMarked : s.task = .mark → r ≠ ESP_OK →
    ValidationStep s (.mark r) { s with task := .restarting }
  | record : s.task = .record →
    ValidationStep s .recorded { s with validationFinished := true, task := .stopTimer }
  | stopTimer : s.task = .stopTimer →
    ValidationStep s .timerStopped { s with deadline := none, task := .ended }
  | taskRestart : s.task = .restarting →
    ValidationStep s .restart { s with restart := true, task := .ended }
  | fire : s.deadline = some due → due ≤ s.now →
    ValidationStep s (.fired s.now) { s with deadline := none, callback := .load }
  | loaded : s.callback = .load → s.validationFinished = true →
    ValidationStep s .quiet { s with callback := .done }
  | expired : s.callback = .load → ValidationStep s .quiet { s with callback := .restarting }
  | deadlineRestart : s.callback = .restarting →
    ValidationStep s .restart { s with restart := true, callback := .done }

theorem ValidationStep.ofBegin {calls : BeginCalls} {s : Validation} (hidle : s.caller = .idle) :
    ValidationStep s (beginValidation calls s).1 (beginValidation calls s).2 := by
  have hkeep : ∀ r, (r = ESP_OK → s.image = .pendingVerify → s.validationStarted = true) →
      ValidationStep s (.returned r) s := fun r hr => .returned s.healthCallback hr
  unfold beginValidation
  split
  · next hstarted => exact hkeep _ fun _ _ => hstarted
  next hstarted =>
  split
  · exact hkeep _ nofun
  split
  · exact hkeep _ nofun
  split
  · split
    · exact hkeep _ nofun
    split
    · next hselect => exact hkeep _ fun hok => absurd hok hselect
    · exact .bootstrap hidle
  split
  · next hstate => exact hkeep _ fun hok => absurd hok hstate
  split
  · next himage => exact hkeep _ fun _ hpending => absurd hpending himage
  dsimp only
  split
  · next hcreate => exact .returned true fun hok => absurd hok hcreate
  split
  · next hstart => exact .returned true fun hok => absurd hok hstart
  · exact .armed hidle (by simpa using hstarted)

theorem ValidationStep.ofCaller {s : Validation} (h : callerStep s ok = some (a, s')) :
    ValidationStep s a s' := by
  unfold callerStep at h
  split at h
  · cases h
  · cases h
  · next hcaller =>
    cases h
    exact .store hcaller
  · next hcaller =>
    split at h
    · cases h
      exact .created hcaller
    · cases h
      exact .notCreated hcaller
  · next hcaller =>
    cases h
    exact .callerRestart hcaller

theorem ValidationStep.ofTask {s : Validation}
    (h : taskStep s ready healthy result = some (a, s')) : ValidationStep s a s' := by
  unfold taskStep at h
  split at h
  · cases h
  · cases h
  · next htask =>
    cases h
    exact .started htask
  · next until_ htask =>
    split at h
    · next hle =>
      cases h
      exact .wake htask hle
    · cases h
  · next htask =>
    split at h
    · cases h
      exact .finished htask
    · cases h
      exact .unfinished htask
  · next htask =>
    dsimp only at h
    split at h
    · next hmark =>
      cases h
      exact .lastSample _ htask hmark
    · next hmark =>
      cases h
      exact .sample _ htask (by simpa using hmark)
  · next htask =>
    split at h
    · next hok =>
      cases h
      subst hok
      exact .marked htask
    · next hok =>
      cases h
      exact .notMarked htask hok
  · next htask =>
    cases h
    exact .record htask
  · next htask =>
    cases h
    exact .stopTimer htask
  · next htask =>
    cases h
    exact .taskRestart htask

theorem ValidationStep.ofDeadline {s : Validation} (h : deadlineStep s = some (a, s')) :
    ValidationStep s a s' := by
  unfold deadlineStep at h
  split at h
  · cases h
  · cases h
  · next hload =>
    split at h
    · next hfinished =>
      cases h
      exact .loaded hload hfinished
    · cases h
      exact .expired hload
  · next hrestarting =>
    cases h
    exact .deadlineRestart hrestarting

theorem ValidationStep.ofNext {s : Validation} (h : validationNext s i = some (a, s')) :
    ValidationStep s a s' := by
  cases i with
  | tick elapsed =>
    cases h
    exact .tick elapsed
  | begin calls =>
    simp only [validationNext] at h
    split at h
    · next hidle =>
      have hstep := @ValidationStep.ofBegin calls s hidle
      rwa [Option.some.inj h] at hstep
    · cases h
  | caller ok => exact .ofCaller h
  | task ready healthy result => exact .ofTask h
  | fire =>
    simp only [validationNext] at h
    split at h
    · cases h
    · next due hdeadline =>
      split at h
      · next hle =>
        cases h
        exact .fire hdeadline hle
      · cases h
  | deadline => exact .ofDeadline h

/-! ## What the task has done -/

/-- The labels of `validate_task`. -/
def ValidationLabel.ofTask : ValidationLabel → Bool
  | .taskStarted _ | .sample _ _ | .mark _ | .recorded | .timerStopped => true
  | _ => false

/-- The last labels of the task in `h` are `n` healthy samples. -/
def HealthyRow (h : List ValidationLabel) (n : Nat) : Prop :=
  ∃ times : List Nat, times.length = n ∧ (times.map (.sample · true)) <+: h.filter ValidationLabel.ofTask

/-- The task has been started, and its delay is over at `at_`. -/
def Delayed (h : List ValidationLabel) (at_ : Nat) : Prop :=
  (∃ t, .taskStarted t ∈ h) ∧ ∀ t, .taskStarted t ∈ h → t + HEALTH_DELAY_MS ≤ at_

/-- The count of the gate is the number of healthy samples in a row. -/
structure Sampling (h : List ValidationLabel) (gate : OtaHealthGate) (at_ : Nat) : Prop where
  delayed : Delayed h at_
  lt : gate.consecutiveHealthySamples < HEALTH_SAMPLES
  row : HealthyRow h gate.consecutiveHealthySamples.toNat

/-- What the task has done when it stands at a given place. -/
def TaskAt (h : List ValidationLabel) (gate : OtaHealthGate) (now : Nat) : ValidateTaskPc → Prop
  | .absent | .created => h.filter ValidationLabel.ofTask = []
  | .delay until_ => Sampling h gate until_
  | .check | .sample => Sampling h gate now
  | .mark => Delayed h now ∧ HealthyRow h HEALTH_SAMPLES.toNat
  | .record | .stopTimer | .restarting | .ended => True

/-- There is no task before `xTaskCreate`, which comes after `validation_started` is set. -/
structure Validation.Setup (s : Validation) : Prop where
  absent : s.caller = .armed ∨ s.caller = .started ∨ s.validationStarted = false → s.task = .absent
  started : s.caller = .started → s.validationStarted = true

/-- The task runs as `TaskAt` says, and no sample was taken before the delay was over. -/
structure TaskInv (h : List ValidationLabel) (s : Validation) : Prop where
  place : TaskAt h s.gate s.now s.task
  setup : s.Setup
  samples : ∀ t b, .sample t b ∈ h → Delayed h t

theorem otaHealthGateSample_false (gate : OtaHealthGate) :
    otaHealthGateSample gate false HEALTH_SAMPLES = (false, { consecutiveHealthySamples := 0 }) := rfl

/-- A healthy sample below the limit counts one more. -/
theorem otaHealthGateSample_true (hlt : gate.consecutiveHealthySamples < HEALTH_SAMPLES) :
    otaHealthGateSample gate true HEALTH_SAMPLES =
      (decide (HEALTH_SAMPLES ≤ gate.consecutiveHealthySamples + 1),
        { consecutiveHealthySamples := gate.consecutiveHealthySamples + 1 }) := by
  unfold otaHealthGateSample
  rw [if_neg (by decide), if_neg (by decide)]
  simp only [if_pos hlt]

theorem HealthyRow.zero : HealthyRow h 0 := ⟨[], rfl, List.nil_prefix⟩

theorem HealthyRow.sample (H : HealthyRow h n) : HealthyRow (.sample t true :: h) (n + 1) := by
  obtain ⟨times, hlen, hprefix⟩ := H
  refine ⟨t :: times, congrArg (· + 1) hlen, ?_⟩
  have hfilter : (ValidationLabel.sample t true :: h).filter ValidationLabel.ofTask =
      .sample t true :: h.filter ValidationLabel.ofTask := List.filter_cons_of_pos rfl
  rw [hfilter]
  exact List.cons_prefix_cons.mpr ⟨rfl, hprefix⟩

theorem HealthyRow.skip (ha : a.ofTask = false) (H : HealthyRow h n) : HealthyRow (a :: h) n := by
  obtain ⟨times, hlen, hprefix⟩ := H
  refine ⟨times, hlen, ?_⟩
  rwa [List.filter_cons_of_neg (by simp [ha])]

theorem Delayed.cons (ha : ∀ t, a ≠ .taskStarted t) (H : Delayed h at_) : Delayed (a :: h) at_ := by
  obtain ⟨⟨t, hmem⟩, hall⟩ := H
  refine ⟨⟨t, List.mem_cons_of_mem _ hmem⟩, fun t' hmem' => hall t' ?_⟩
  cases hmem' with
  | head => exact absurd rfl (ha t')
  | tail _ hmem' => exact hmem'

theorem Delayed.mono (hle : at_ ≤ at') (H : Delayed h at_) : Delayed h at' :=
  ⟨H.1, fun t hmem => Nat.le_trans (H.2 t hmem) hle⟩

theorem Sampling.mono (hle : at_ ≤ at') (H : Sampling h gate at_) : Sampling h gate at' :=
  ⟨H.delayed.mono hle, H.lt, H.row⟩

theorem ValidationLabel.ofTask_started (ha : ofTask a = false) (t : Nat) : a ≠ .taskStarted t := by
  rintro rfl
  cases ha

/-- What the others do leaves the place of the task alone. -/
theorem TaskAt.skip (ha : a.ofTask = false) (hle : now ≤ now') (H : TaskAt h gate now pc) :
    TaskAt (a :: h) gate now' pc := by
  have hskip : ∀ {at_}, Sampling h gate at_ → Sampling (a :: h) gate at_ := fun H =>
    ⟨H.delayed.cons (ValidationLabel.ofTask_started ha), H.lt, H.row.skip ha⟩
  cases pc with
  | absent | created =>
    have hfilter : (a :: h).filter ValidationLabel.ofTask = h.filter ValidationLabel.ofTask :=
      List.filter_cons_of_neg (by simp [ha])
    exact hfilter.trans H
  | delay until_ => exact hskip H
  | check | sample => exact hskip (H.mono hle)
  | mark => exact ⟨(H.1.mono hle).cons (ValidationLabel.ofTask_started ha), H.2.skip ha⟩
  | record | stopTimer | restarting | ended => trivial

/-- A sample leaves the count of the gate the number of healthy samples in a row. -/
theorem Sampling.sample {b : Bool} (H : Sampling h gate at_) :
    let r := otaHealthGateSample gate b HEALTH_SAMPLES
    (r.1 = false → Sampling (.sample t b :: h) r.2 at_) ∧
      (r.1 = true → HealthyRow (.sample t b :: h) HEALTH_SAMPLES.toNat) := by
  have hdelayed : Delayed (.sample t b :: h) at_ := H.delayed.cons nofun
  cases b with
  | false =>
    rw [otaHealthGateSample_false]
    exact ⟨fun _ => ⟨hdelayed, by decide, .zero⟩, nofun⟩
  | true =>
    have hlt := H.lt
    have hrow := H.row.sample (t := t)
    rw [otaHealthGateSample_true hlt]
    have hlimit : HEALTH_SAMPLES.toNat = 5 := rfl
    have hsucc : (gate.consecutiveHealthySamples + 1).toNat =
        gate.consecutiveHealthySamples.toNat + 1 := by
      rw [UInt32.lt_iff_toNat_lt] at hlt
      rw [UInt32.toNat_add]
      exact Nat.mod_eq_of_lt (by rw [hlimit] at hlt; simp; omega)
    refine ⟨fun hr => ⟨hdelayed, ?_, ?_⟩, fun hr => ?_⟩
    · simpa using hr
    · rwa [hsucc]
    · have hge : HEALTH_SAMPLES ≤ gate.consecutiveHealthySamples + 1 := by simpa using hr
      rw [UInt32.le_iff_toNat_le, hsucc] at hge
      rw [UInt32.lt_iff_toNat_lt] at hlt
      rwa [show HEALTH_SAMPLES.toNat = gate.consecutiveHealthySamples.toNat + 1 by omega]

/-- The samples taken so far stay delayed. -/
theorem TaskInv.samples_cons (H : TaskInv h s) (ha : ∀ t, a ≠ .taskStarted t)
    (hnew : ∀ t b, a = .sample t b → Delayed h t) (t : Nat) (b : Bool)
    (hmem : .sample t b ∈ a :: h) : Delayed (a :: h) t := by
  cases hmem with
  | head => exact (hnew t b rfl).cons ha
  | tail _ hmem => exact (H.samples t b hmem).cons ha

/-- A step of another party. -/
theorem TaskInv.skip (H : TaskInv h s) (ha : a.ofTask = false) (htask : s'.task = s.task)
    (hgate : s'.gate = s.gate) (hnow : s.now ≤ s'.now) (hsetup : s'.Setup) : TaskInv (a :: h) s' where
  place := by
    rw [htask, hgate]
    exact H.place.skip ha hnow
  setup := hsetup
  samples := H.samples_cons (ValidationLabel.ofTask_started ha) (by rintro t b rfl; cases ha)

theorem Validation.Setup.present {s s' : Validation} (H : s.Setup) (hpresent : s.task ≠ .absent)
    (hcaller : s'.caller = s.caller) (hstarted : s'.validationStarted = s.validationStarted) :
    s'.Setup where
  absent := by
    rw [hcaller, hstarted]
    exact fun h => absurd (H.absent h) hpresent
  started := by
    rw [hcaller, hstarted]
    exact H.started

/-- A step of the task after its start. -/
theorem TaskInv.advance (H : TaskInv h s) (ha : ∀ t, a ≠ .taskStarted t)
    (hnew : ∀ t b, a = .sample t b → Delayed h t) (hpresent : s.task ≠ .absent)
    (hcaller : s'.caller = s.caller) (hstarted : s'.validationStarted = s.validationStarted)
    (hplace : TaskAt (a :: h) s'.gate s'.now s'.task) : TaskInv (a :: h) s' where
  place := hplace
  setup := H.setup.present hpresent hcaller hstarted
  samples := H.samples_cons ha hnew

theorem not_mem_of_filter {p : α → Bool} {h : List α} (H : h.filter p = []) (ha : p a = true) : a ∉ h :=
  fun hmem => absurd ha (List.filter_eq_nil_iff.mp H a hmem)

/-- The start of the task: its delay begins. -/
theorem TaskInv.start {s : Validation} (H : TaskInv h s) (htask : s.task = .created) :
    TaskInv (.taskStarted s.now :: h)
      { s with task := .delay (s.now + HEALTH_DELAY_MS), gate := {} } := by
  have hempty : h.filter ValidationLabel.ofTask = [] := by
    have hplace := H.place
    rwa [htask] at hplace
  have hdelayed : Delayed (.taskStarted s.now :: h) (s.now + HEALTH_DELAY_MS) := by
    refine ⟨⟨s.now, List.mem_cons_self⟩, fun t hmem => ?_⟩
    cases hmem with
    | head => exact Nat.le_refl _
    | tail _ hmem => exact absurd hmem (not_mem_of_filter hempty rfl)
  have hlt : (0 : UInt32) < HEALTH_SAMPLES := by decide
  refine ⟨⟨hdelayed, hlt, .zero⟩, H.setup.present (by simp [htask]) rfl rfl, ?_⟩
  intro t b hmem
  cases hmem with
  | tail _ hmem => exact absurd hmem (not_mem_of_filter hempty rfl)

theorem TaskInv.step (H : TaskInv h s) (hstep : ValidationStep s a s') : TaskInv (a :: h) s' := by
  have hplace := H.place
  have hsetup := H.setup
  cases hstep with
  | tick => exact H.skip rfl rfl rfl (Nat.le_add_right _ _) ⟨hsetup.1, hsetup.2⟩
  | returned | fire | loaded | expired | deadlineRestart =>
    exact H.skip rfl rfl rfl (Nat.le_refl _) ⟨hsetup.1, hsetup.2⟩
  | bootstrap | callerRestart =>
    refine H.skip rfl rfl rfl (Nat.le_refl _) ⟨?_, nofun⟩
    rintro (hc | hc | hc)
    · cases hc
    · cases hc
    · exact hsetup.absent (.inr (.inr hc))
  | armed _ hstarted =>
    exact H.skip rfl rfl rfl (Nat.le_refl _)
      ⟨fun _ => hsetup.absent (.inr (.inr hstarted)), nofun⟩
  | store hcaller =>
    exact H.skip rfl rfl rfl (Nat.le_refl _) ⟨fun _ => hsetup.absent (.inl hcaller), fun _ => rfl⟩
  | created hcaller =>
    have habsent := hsetup.absent (.inr (.inl hcaller))
    rw [habsent] at hplace
    have hcreated : TaskAt h s.gate s.now .created := hplace
    refine ⟨hcreated.skip rfl (Nat.le_refl _), ⟨?_, nofun⟩, H.samples_cons nofun nofun⟩
    rintro (hc | hc | hc)
    · cases hc
    · cases hc
    · exact absurd (hsetup.started hcaller) (by simp [show s.validationStarted = false from hc])
  | notCreated hcaller =>
    exact H.skip rfl rfl rfl (Nat.le_refl _) ⟨fun _ => hsetup.absent (.inr (.inl hcaller)), nofun⟩
  | started htask => exact H.start htask
  | wake htask hle =>
    rw [htask] at hplace
    have hcheck : TaskAt h s.gate s.now .check := hplace.mono hle
    exact H.advance nofun nofun (by simp [htask]) rfl rfl (hcheck.skip rfl (Nat.le_refl _))
  | finished htask => exact H.advance nofun nofun (by simp [htask]) rfl rfl trivial
  | unfinished htask =>
    rw [htask] at hplace
    have hsample : TaskAt h s.gate s.now .sample := hplace
    exact H.advance nofun nofun (by simp [htask]) rfl rfl (hsample.skip rfl (Nat.le_refl _))
  | sample b htask hr =>
    rw [htask] at hplace
    refine H.advance nofun ?_ (by simp [htask]) rfl rfl ?_
    · rintro t b' ⟨⟩
      exact hplace.delayed
    · exact ((hplace.sample (t := s.now)).1 hr).mono (Nat.le_add_right _ _)
  | lastSample b htask hr =>
    rw [htask] at hplace
    refine H.advance nofun ?_ (by simp [htask]) rfl rfl ?_
    · rintro t b' ⟨⟩
      exact hplace.delayed
    · exact ⟨hplace.delayed.cons nofun, (hplace.sample (t := s.now)).2 hr⟩
  | marked htask | notMarked htask | record htask | stopTimer htask | taskRestart htask =>
    exact H.advance nofun nofun (by simp [htask]) rfl rfl trivial

/-! ## What becomes of the image -/

/-- Who answers for a pending image with a started timer, and why each of them may. -/
structure DeadlineInv (h : List ValidationLabel) (s : Validation) : Prop where
  begun : s.validationStarted = true ∨ s.caller = .armed ∨ s.caller = .started →
    ∃ t, .armed t ∈ h
  due : ∀ d, s.deadline = some d → ∃ t, .armed t ∈ h ∧ t + HEALTH_DEADLINE_MS ≤ d
  fired : ∀ u, .fired u ∈ h → ∃ t, .armed t ∈ h ∧ t + HEALTH_DEADLINE_MS ≤ u
  recording : s.task = .record ∨ s.task = .stopTimer ∨ s.validationFinished = true →
    .mark ESP_OK ∈ h
  done : s.callback = .done → .mark ESP_OK ∈ h ∨ s.restart = true
  armed : ∀ t, .armed t ∈ h → s.deadline ≠ none ∨ s.callback = .load ∨ s.callback = .restarting ∨
    s.restart = true ∨ .mark ESP_OK ∈ h
  image : .mark ESP_OK ∈ h → s.image ≠ .pendingVerify
  valid : s.image = .valid → .mark ESP_OK ∈ h
  failed : ∀ r, .mark r ∈ h → r ≠ ESP_OK → s.restart = true ∨ s.task = .restarting
  returned : ∀ newer older, h = newer ++ .returned ESP_OK :: older → s.image = .pendingVerify →
    ∃ t, .armed t ∈ older

/-- What a call returned before stands further down in the history. -/
theorem DeadlineInv.returned_cons {s s' : Validation} (H : DeadlineInv h s)
    (himage : s'.image = .pendingVerify → s.image = .pendingVerify)
    (hnew : a = .returned ESP_OK → s.image = .pendingVerify → ∃ t, .armed t ∈ h)
    (newer older : List ValidationLabel) (heq : a :: h = newer ++ .returned ESP_OK :: older)
    (hpending : s'.image = .pendingVerify) : ∃ t, .armed t ∈ older := by
  cases newer with
  | nil =>
    obtain ⟨rfl, rfl⟩ := List.cons.inj heq
    exact hnew rfl (himage hpending)
  | cons b newer =>
    obtain ⟨_, htail⟩ := List.cons.inj heq
    exact H.returned newer older htail (himage hpending)

theorem mem_of_mem_cons {a b : α} {h : List α} (hmem : b ∈ a :: h) (hne : a ≠ b) : b ∈ h :=
  (List.mem_cons.mp hmem).resolve_left fun heq => hne heq.symm

theorem exists_mem_cons {f : β → α} {P : β → Prop} {h : List α}
    (H : ∃ t, f t ∈ h ∧ P t) : ∃ t, f t ∈ a :: h ∧ P t := by
  obtain ⟨t, hmem, ht⟩ := H
  exact ⟨t, List.mem_cons_of_mem _ hmem, ht⟩

/-- A label that says nothing about the timer and the mark. -/
theorem DeadlineInv.weaken (H : DeadlineInv h s) (harmed : ∀ t, a ≠ .armed t)
    (hfired : ∀ t, a ≠ .fired t) (hmark : ∀ r, a ≠ .mark r)
    (hreturned : a = .returned ESP_OK → s.image = .pendingVerify → ∃ t, .armed t ∈ h) :
    DeadlineInv (a :: h) s where
  begun hs := by
    obtain ⟨t, hmem⟩ := H.begun hs
    exact ⟨t, List.mem_cons_of_mem _ hmem⟩
  due d hd := exists_mem_cons (H.due d hd)
  fired u hmem := exists_mem_cons (H.fired u (mem_of_mem_cons hmem (hfired u)))
  recording hs := List.mem_cons_of_mem _ (H.recording hs)
  done hs := (H.done hs).imp_left (List.mem_cons_of_mem _)
  armed t hmem := by
    have hs := H.armed t (mem_of_mem_cons hmem (harmed t))
    simpa only [List.mem_cons, (hmark ESP_OK).symm, false_or] using hs
  image hmem := H.image (mem_of_mem_cons hmem (hmark _))
  valid hs := List.mem_cons_of_mem _ (H.valid hs)
  failed r hmem := H.failed r (mem_of_mem_cons hmem (hmark r))
  returned := H.returned_cons id hreturned

/-- The timer is started: from now on it answers for the image. -/
theorem DeadlineInv.arm {s : Validation} (H : DeadlineInv h s) :
    DeadlineInv (.armed s.now :: h)
      { s with
        healthCallback := true
        deadline := some (s.now + HEALTH_DEADLINE_MS)
        caller := .armed } where
  begun _ := ⟨s.now, List.mem_cons_self⟩
  due _ hd := ⟨s.now, List.mem_cons_self, Nat.le_of_eq (Option.some.inj hd)⟩
  fired u hmem := exists_mem_cons (H.fired u (mem_of_mem_cons hmem nofun))
  recording hs := List.mem_cons_of_mem _ (H.recording hs)
  done hs := (H.done hs).imp_left (List.mem_cons_of_mem _)
  armed _ _ := .inl nofun
  image hmem := H.image (mem_of_mem_cons hmem nofun)
  valid hs := List.mem_cons_of_mem _ (H.valid hs)
  failed r hmem := H.failed r (mem_of_mem_cons hmem nofun)
  returned := H.returned_cons id nofun

/-- The timer goes off: the callback answers for the image. -/
theorem DeadlineInv.fire {s : Validation} (H : DeadlineInv h s) (hdue : s.deadline = some d)
    (hle : d ≤ s.now) :
    DeadlineInv (.fired s.now :: h) { s with deadline := none, callback := .load } where
  begun hs := by
    obtain ⟨t, hmem⟩ := H.begun hs
    exact ⟨t, List.mem_cons_of_mem _ hmem⟩
  due := nofun
  fired u hmem := by
    cases hmem with
    | head =>
      obtain ⟨t, hmem, ht⟩ := H.due d hdue
      exact ⟨t, List.mem_cons_of_mem _ hmem, Nat.le_trans ht hle⟩
    | tail _ hmem => exact exists_mem_cons (H.fired u hmem)
  recording hs := List.mem_cons_of_mem _ (H.recording hs)
  done := nofun
  armed _ _ := .inr (.inl rfl)
  image hmem := H.image (mem_of_mem_cons hmem nofun)
  valid hs := List.mem_cons_of_mem _ (H.valid hs)
  failed r hmem := H.failed r (mem_of_mem_cons hmem nofun)
  returned := H.returned_cons id nofun

/-- The image is marked valid: nobody has to answer for it any more. -/
theorem DeadlineInv.mark {s : Validation} (H : DeadlineInv h s) (htask : s.task = .mark) :
    DeadlineInv (.mark ESP_OK :: h) { s with image := .valid, task := .record } where
  begun hs := by
    obtain ⟨t, hmem⟩ := H.begun hs
    exact ⟨t, List.mem_cons_of_mem _ hmem⟩
  due d hd := exists_mem_cons (H.due d hd)
  fired u hmem := exists_mem_cons (H.fired u (mem_of_mem_cons hmem nofun))
  recording _ := List.mem_cons_self
  done _ := .inl List.mem_cons_self
  armed _ _ := .inr (.inr (.inr (.inr List.mem_cons_self)))
  image _ := nofun
  valid _ := List.mem_cons_self
  failed r hmem hr := by
    have hfailed := H.failed r (mem_of_mem_cons hmem (by simpa using hr.symm)) hr
    exact .inl (hfailed.resolve_right (by simp [htask]))
  returned := H.returned_cons nofun nofun

/-- The mark fails: the task is about to restart the chip. -/
theorem DeadlineInv.markFails {s : Validation} (H : DeadlineInv h s) (hr : r ≠ ESP_OK) :
    DeadlineInv (.mark r :: h) { s with task := .restarting } where
  begun hs := by
    obtain ⟨t, hmem⟩ := H.begun hs
    exact ⟨t, List.mem_cons_of_mem _ hmem⟩
  due d hd := exists_mem_cons (H.due d hd)
  fired u hmem := exists_mem_cons (H.fired u (mem_of_mem_cons hmem nofun))
  recording hs := by
    have hfinished : s.validationFinished = true := by simpa using hs
    exact List.mem_cons_of_mem _ (H.recording (.inr (.inr hfinished)))
  done hs := (H.done hs).imp_left (List.mem_cons_of_mem _)
  armed t hmem := by
    have hs := H.armed t (mem_of_mem_cons hmem nofun)
    have hne : ValidationLabel.mark ESP_OK ≠ .mark r := by simpa using hr.symm
    simpa only [List.mem_cons, hne, false_or] using hs
  image hmem := H.image (mem_of_mem_cons hmem (by simpa using hr))
  valid hs := List.mem_cons_of_mem _ (H.valid hs)
  failed _ _ _ := .inr rfl
  returned := H.returned_cons id nofun

/-- The task moves on, but not past the mark. -/
theorem DeadlineInv.move {s : Validation} (H : DeadlineInv h s) (htask : s.task ≠ .restarting)
    (pc : ValidateTaskPc) (hrecord : pc ≠ .record) (hstop : pc ≠ .stopTimer) (gate : OtaHealthGate) :
    DeadlineInv h { s with task := pc, gate := gate } :=
  { H with
    recording := fun hs => H.recording (.inr (.inr (by simpa [hrecord, hstop] using hs)))
    failed := fun r hmem hr => .inl ((H.failed r hmem hr).resolve_right htask) }

theorem DeadlineInv.step (H : DeadlineInv h s) (hsetup : s.Setup) (hstep : ValidationStep s a s') :
    DeadlineInv (a :: h) s' := by
  have Hw : ∀ b : ValidationLabel, (∀ t, b ≠ .armed t) → (∀ t, b ≠ .fired t) →
      (∀ r, b ≠ .mark r) → (∀ r, b ≠ .returned r) → DeadlineInv (b :: h) s :=
    fun b harmed hfired hmark hreturned =>
      H.weaken harmed hfired hmark fun heq => absurd heq (hreturned _)
  have Hr : ∀ r, (r = ESP_OK → s.image = .pendingVerify →
      s.validationStarted = true ∨ s.caller = .armed ∨ s.caller = .started) →
      DeadlineInv (.returned r :: h) s := fun r hr =>
    H.weaken nofun nofun nofun fun heq hpending => H.begun (hr (by simpa using heq) hpending)
  cases hstep with
  | tick => exact { Hw .quiet nofun nofun nofun nofun with }
  | returned b hr => exact { Hr _ fun hok hpending => .inl (hr hok hpending) with }
  | bootstrap hcaller =>
    have H := Hw .quiet nofun nofun nofun nofun
    exact
      { H with
        begun := fun hs => H.begun (hs.imp_right (by simp))
        image := fun _ => nofun
        valid := nofun
        returned := fun _ _ _ => nofun }
  | armed => exact H.arm
  | store hcaller =>
    have H := Hw .quiet nofun nofun nofun nofun
    exact { H with begun := fun _ => H.begun (.inr (.inl hcaller)) }
  | created hcaller =>
    have habsent := hsetup.absent (.inr (.inl hcaller))
    have H := Hr ESP_OK fun _ _ => .inr (.inr hcaller)
    have H := H.move (by simp [habsent]) .created nofun nofun s.gate
    exact { H with begun := fun _ => H.begun (.inr (.inr hcaller)) }
  | notCreated hcaller =>
    have H := Hr ESP_ERR_NO_MEM nofun
    exact { H with begun := fun _ => H.begun (.inr (.inr hcaller)) }
  | callerRestart hcaller =>
    have H := Hw .restart nofun nofun nofun nofun
    exact
      { H with
        begun := fun hs => H.begun (hs.imp_right (by simp))
        done := fun _ => .inr rfl
        armed := fun _ _ => .inr (.inr (.inr (.inl rfl)))
        failed := fun _ _ _ => .inl rfl }
  | started htask | wake htask | finished htask | unfinished htask =>
    refine DeadlineInv.move (Hw _ ?_ ?_ ?_ ?_) (by simp [htask]) _ ?_ ?_ _ <;> exact nofun
  | sample b htask | lastSample b htask =>
    refine DeadlineInv.move (Hw _ ?_ ?_ ?_ ?_) (by simp [htask]) _ ?_ ?_ _ <;> exact nofun
  | marked htask => exact H.mark htask
  | notMarked _ hr => exact H.markFails hr
  | record htask =>
    have H := Hw .recorded nofun nofun nofun nofun
    exact
      { H with
        recording := fun _ => H.recording (.inl htask)
        failed := fun r hmem hr => .inl ((H.failed r hmem hr).resolve_right (by simp [htask])) }
  | stopTimer htask =>
    have H := Hw .timerStopped nofun nofun nofun nofun
    have hmarked := H.recording (.inr (.inl htask))
    exact
      { H with
        due := nofun
        recording := fun _ => hmarked
        armed := fun _ _ => .inr (.inr (.inr (.inr hmarked)))
        failed := fun r hmem hr => .inl ((H.failed r hmem hr).resolve_right (by simp [htask])) }
  | taskRestart htask =>
    have H := Hw .restart nofun nofun nofun nofun
    exact
      { H with
        recording := fun hs => H.recording (.inr (.inr (by simpa using hs)))
        done := fun _ => .inr rfl
        armed := fun _ _ => .inr (.inr (.inr (.inl rfl)))
        failed := fun _ _ _ => .inl rfl }
  | fire hdue hle => exact H.fire hdue hle
  | loaded hload hfinished =>
    have H := Hw .quiet nofun nofun nofun nofun
    have hmarked := H.recording (.inr (.inr hfinished))
    exact
      { H with
        done := fun _ => .inl hmarked
        armed := fun _ _ => .inr (.inr (.inr (.inr hmarked))) }
  | expired hload =>
    have H := Hw .quiet nofun nofun nofun nofun
    exact { H with done := nofun, armed := fun _ _ => .inr (.inr (.inl rfl)) }
  | deadlineRestart hrestarting =>
    have H := Hw .restart nofun nofun nofun nofun
    exact
      { H with
        done := fun _ => .inr rfl
        armed := fun _ _ => .inr (.inr (.inr (.inl rfl)))
        failed := fun _ _ _ => .inl rfl }

/-! ## Every run -/

theorem ValidationInv.ofRun (run : validationSystem.Run h s) : TaskInv h s ∧ DeadlineInv h s := by
  refine StepSystem.Run.invariant (I := fun h s => TaskInv h s ∧ DeadlineInv h s) ?_ ?_ run
  · rintro _ rfl
    refine ⟨⟨rfl, ⟨fun _ => rfl, nofun⟩, nofun⟩, ?_⟩
    refine ⟨?_, nofun, nofun, ?_, nofun, nofun, nofun, nofun, nofun, ?_⟩
    · simp
    · simp
    · intro newer older heq
      cases newer <;> cases heq
  · rintro h s a s' _ ⟨Htask, Hdeadline⟩ ⟨_, hnext⟩
    have hstep := ValidationStep.ofNext hnext
    exact ⟨Htask.step hstep, Hdeadline.step Htask.setup hstep⟩

/-- What a run has done to the image, and what it leaves for it. -/
structure ValidationSafe (h : List ValidationLabel) (s : Validation) : Prop where
  /-- Before a mark, the task has done nothing after five healthy samples. -/
  healthy : ∀ newer r older, h = newer ++ .mark r :: older → HealthyRow older 5
  /-- No sample is taken in the first ten seconds of the task. -/
  delayed : ∀ t b, .sample t b ∈ h →
    (∃ t₀, .taskStarted t₀ ∈ h) ∧ ∀ t₀, .taskStarted t₀ ∈ h → t₀ + 10000 ≤ t
  /-- Only the mark makes the image valid. -/
  marked : s.image = .valid → .mark ESP_OK ∈ h
  /-- A failed mark has restarted the chip, or the restart is what the task does next. -/
  failed : ∀ r, .mark r ∈ h → r ≠ ESP_OK → s.restart = true ∨
    s.task = .restarting ∧ ∀ ready healthy result, ∃ s',
      taskStep s ready healthy result = some (.restart, s') ∧ s'.restart = true
  /-- The callback runs a minute after the timer was started. -/
  fired : ∀ u, .fired u ∈ h → ∃ t, .armed t ∈ h ∧ t + 60000 ≤ u
  /-- After the callback the image was marked valid, or the restart is requested. -/
  deadline : s.callback = .done → .mark ESP_OK ∈ h ∨ s.restart = true
  /-- A pending image runs under the deadline, or in a callback that will restart the chip, or with the
  restart requested. -/
  pending : s.image = .pendingVerify → ∀ t, .armed t ∈ h → s.deadline ≠ none ∨
    (s.callback = .load ∧ s.validationFinished = false) ∨ s.callback = .restarting ∨ s.restart = true
  /-- Unless the timer had been started, the caller was told of an error. -/
  returned : s.image = .pendingVerify → ∀ newer r older, h = newer ++ .returned r :: older →
    (∀ t, .armed t ∉ older) → r ≠ ESP_OK

/-- Before a mark the task stands at the mark. -/
theorem HealthyRow.ofMark (run : validationSystem.Run h s)
    (hstep : validationSystem.step s (.mark r) s') : HealthyRow h HEALTH_SAMPLES.toNat := by
  obtain ⟨_, hnext⟩ := hstep
  have hplace := (ValidationInv.ofRun run).1.place
  cases ValidationStep.ofNext hnext with
  | marked htask | notMarked htask _ =>
    rw [htask] at hplace
    exact hplace.2

theorem validation_safe (run : validationSystem.Run h s) : ValidationSafe h s := by
  obtain ⟨Htask, Hdeadline⟩ := ValidationInv.ofRun run
  constructor
  case healthy =>
    rintro newer r older rfl
    obtain ⟨s₀, s₁, hrun, hstep⟩ := run.step_of_append
    exact .ofMark hrun hstep
  case delayed => exact Htask.samples
  case marked => exact Hdeadline.valid
  case failed =>
    intro r hmem hr
    refine (Hdeadline.failed r hmem hr).imp_right fun htask => ⟨htask, fun _ _ _ => ?_⟩
    refine ⟨{ s with restart := true, task := .ended }, ?_, rfl⟩
    simp only [taskStep, htask]
  case fired => exact Hdeadline.fired
  case deadline => exact Hdeadline.done
  case pending =>
    intro himage t hmem
    have hanswers := Hdeadline.armed t hmem
    have hunmarked : .mark ESP_OK ∉ h := fun hmem => Hdeadline.image hmem himage
    have hunfinished : s.validationFinished = false :=
      Bool.eq_false_iff.mpr fun hs => hunmarked (Hdeadline.recording (.inr (.inr hs)))
    simpa only [hunmarked, or_false, hunfinished, and_true] using hanswers
  case returned =>
    rintro himage newer r older heq hunarmed rfl
    obtain ⟨t, hmem⟩ := Hdeadline.returned newer older heq himage
    exact hunarmed t hmem

/-- A boot that ends well: the delay, an unhealthy sample, and five healthy ones. -/
def acceptedBoot : List ValidationInput :=
  let running : Partition :=
    { flashChip := some 0, type := ESP_PARTITION_TYPE_APP, subtype := ESP_PARTITION_SUBTYPE_APP_OTA_1
      address := 0x420000, size := 0x400000, label := [], readonly := false, encrypted := false }
  let task := ValidationInput.task true true ESP_OK
  let second := [.tick 1000, task, task]
  [.begin ⟨true, some running, ESP_OK, none, ESP_OK, ESP_OK, ESP_OK⟩, .caller true, .caller true,
    task, .tick 10000, task, task, .task true false ESP_OK] ++
    (List.replicate 5 (second ++ [task])).flatten ++ [task, task]

theorem validation_safe_accepted : ∃ h s, validationSystem.Run h s ∧ .mark ESP_OK ∈ h ∧
    s.validationFinished = true ∧ ValidationSafe h s := by
  have hrun := StepSystem.Run.feed acceptedBoot (.init (M := validationSystem) rfl)
  exact ⟨_, _, hrun, by decide, by decide, validation_safe hrun⟩

end ModbusGateway
