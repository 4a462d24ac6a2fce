import ModbusGateway.Verify.HistoryRing

/-!
# Crash consistency of the history

The labels of a run determine the ring in memory (`memoryOf`). `Durable` places the committed blob
in the running boot: it is the ring at an earlier moment of it, with no committed flush since. A
restart therefore loads the ring of a moment of the boot that crashed.
-/

namespace ModbusGateway

/-! ## What a history says -/

/-- The ring in memory after a history. -/
def memoryOf : List HistoryLabel → HistoryBlob
  | [] => .zero
  | .boot loaded :: _ => loaded
  | .record call :: h => appendRecord (memoryOf h) call
  | _ :: h => memoryOf h

/-- The errors recorded in the running boot. -/
def bootRecords : List HistoryLabel → Nat
  | [] | .boot _ :: _ => 0
  | .record _ :: h => bootRecords h + 1
  | _ :: h => bootRecords h

/-- A flush of the running boot has succeeded. -/
def flushedInBoot : List HistoryLabel → Bool
  | [] | .boot _ :: _ => false
  | .finish err :: h => err == ESP_OK || flushedInBoot h
  | _ :: h => flushedInBoot h

def HistoryLabel.isBoot : HistoryLabel → Bool
  | .boot _ => true
  | _ => false

def HistoryLabel.isRecord : HistoryLabel → Bool
  | .record _ => true
  | _ => false

def boots (h : List HistoryLabel) : Nat := h.countP HistoryLabel.isBoot
def records (h : List HistoryLabel) : Nat := h.countP HistoryLabel.isRecord

/-- No restart in a stretch of a history. -/
def SameBoot (h : List HistoryLabel) : Prop := ∀ l ∈ h, l.isBoot = false

/-- No flush has both taken its snapshot and committed it in a stretch of a history. -/
def NoCommittedFlush (h : List HistoryLabel) : Prop :=
  ∀ after between before, h ≠ after ++ .commit :: (between ++ .copy :: before)

/-- The same events and counters, whatever the boot and the checksum. -/
structure HistoryBlob.SameHistory (a b : HistoryBlob) : Prop where
  count : a.count = b.count
  next : a.next = b.next
  totalErrors : a.totalErrors = b.totalErrors
  events : a.events = b.events

theorem HistoryBlob.withChecksum_sameHistory (b : HistoryBlob) (sum : UInt32) :
    (b.withChecksum sum).SameHistory b :=
  ⟨rfl, rfl, rfl, rfl⟩

theorem HistoryBlob.withChecksum_bootId (b : HistoryBlob) (sum : UInt32) :
    (b.withChecksum sum).bootId = b.bootId :=
  rfl

theorem sealBlob_sameHistory (b : HistoryBlob) : (sealBlob b).SameHistory b :=
  b.withChecksum_sameHistory (blobChecksum b)

theorem sealBlob_bootId (b : HistoryBlob) : (sealBlob b).bootId = b.bootId :=
  b.withChecksum_bootId (blobChecksum b)

theorem bootRecords_append (h : SameBoot newer) (older : List HistoryLabel) :
    bootRecords (newer ++ older) = records newer + bootRecords older := by
  induction newer with
  | nil => simp [records]
  | cons l newer ih =>
    have htail := ih fun l' hl' => h l' (List.mem_cons_of_mem l hl')
    have hl := h l List.mem_cons_self
    cases l with
    | boot => cases hl
    | record call =>
      have hcount : records (.record call :: newer) = records newer + 1 :=
        List.countP_cons_of_pos rfl
      rw [List.cons_append, bootRecords, htail, hcount]
      omega
    | _ =>
      exact htail.trans (congrArg (· + bootRecords older)
        (List.countP_cons_of_neg Bool.false_ne_true).symm)

theorem memoryOf_append (h : SameBoot newer) (hnone : records newer = 0)
    (older : List HistoryLabel) : memoryOf (newer ++ older) = memoryOf older := by
  induction newer with
  | nil => rfl
  | cons l newer ih =>
    have hboot := h l List.mem_cons_self
    have htail (hzero : records newer = 0) :=
      ih (fun l' hl' => h l' (List.mem_cons_of_mem l hl')) hzero
    have hlabel := List.countP_eq_zero.mp hnone l List.mem_cons_self
    have hrest : records newer = 0 :=
      List.countP_eq_zero.mpr fun l' hl' =>
        List.countP_eq_zero.mp hnone l' (List.mem_cons_of_mem l hl')
    cases l with
    | boot => cases hboot
    | record => exact absurd rfl hlabel
    | _ => exact htail hrest

theorem bootRecords_le (h : List HistoryLabel) : bootRecords h ≤ records h := by
  induction h with
  | nil => exact Nat.le_refl _
  | cons l h ih =>
    have hle : records h ≤ records (l :: h) := by
      simp only [records, List.countP_cons]
      omega
    cases l with
    | boot => exact Nat.zero_le _
    | record call =>
      have hcount : records (.record call :: h) = records h + 1 := List.countP_cons_of_pos rfl
      rw [bootRecords, hcount]
      omega
    | _ => exact Nat.le_trans ih hle

theorem SameBoot.cons (h : SameBoot newer) (hl : l.isBoot = false) : SameBoot (l :: newer) := by
  intro l' hl'
  rcases List.mem_cons.mp hl' with rfl | hl'
  · exact hl
  · exact h l' hl'

theorem NoCommittedFlush.cons (h : NoCommittedFlush newer) (hl : l ≠ .commit) :
    NoCommittedFlush (l :: newer) := by
  intro after between before heq
  cases after with
  | nil => exact hl (List.cons.inj heq).1
  | cons _ after => exact h after between before (List.cons.inj heq).2

/-! ## A restart -/

/-- The blob of an initialisation that found nothing stored. -/
def HistoryBlob.fresh : HistoryBlob :=
  { HistoryBlob.zero with
    magic := HISTORY_MAGIC
    version := HISTORY_VERSION
    size := UInt32.ofNat HISTORY_BLOB_SIZE }

/-- The blob an initialisation starts from: what is stored, or a fresh one. -/
def storedBlob : Option (List UInt8) → HistoryBlob
  | none => .fresh
  | some bytes => blobCodec.decode bytes

/-- A stored blob that an initialisation accepts. -/
def Acceptable (stored : Option (List UInt8)) : Prop :=
  ∀ bytes, stored = some bytes → bytes.length = HISTORY_BLOB_SIZE ∧
    validBlob (blobCodec.decode bytes) = true

/-- What `error_history_init` leaves in memory after an acceptable store. -/
structure Booted (stored : Option (List UInt8)) (r : HistoryRuntime) : Prop where
  lock : r.lock = true
  initialized : r.initialized = true
  blob : r.blob = { storedBlob stored with bootId := (storedBlob stored).bootId + 1 }
  generation : r.generation = 1
  savedGeneration : r.savedGeneration = 0

theorem loadHistory_stored (h : Acceptable stored) (task : Bool) (r : HistoryRuntime)
    (hblob : r.blob = .fresh) :
    loadHistory r (bootCalls stored task) =
      { r with blob := storedBlob stored, writable := true } := by
  cases stored with
  | none =>
    have hopen : ¬ ESP_OK ≠ ESP_OK := fun h => h rfl
    simp only [loadHistory, bootCalls, storedBlob, ← hblob, if_neg hopen, if_true]
  | some bytes =>
    obtain ⟨hlen, hvalid⟩ := h bytes rfl
    have hfound : ¬ ESP_OK = ESP_ERR_NVS_NOT_FOUND := by decide
    simp [loadHistory, bootCalls, storedBlob, hlen, hvalid, hfound]

theorem bootRuntime_booted (h : Acceptable stored) (hid : (storedBlob stored).bootId ≠ 0xffffffff)
    (task : Bool) : Booted stored (bootRuntime stored task) := by
  have hload := loadHistory_stored h task
    { ({} : HistoryRuntime) with lock := true, initialized := true, blob := .fresh } rfl
  have hinit : bootRuntime stored task =
      if (countBoot (loadHistory { ({} : HistoryRuntime) with
          lock := true, initialized := true, blob := .fresh } (bootCalls stored task))).writable ∧
          ¬ task then
        storageError { countBoot (loadHistory { ({} : HistoryRuntime) with
          lock := true, initialized := true, blob := .fresh } (bootCalls stored task)) with
            writable := false } "History worker allocation" ESP_ERR_NO_MEM
      else countBoot (loadHistory { ({} : HistoryRuntime) with
          lock := true, initialized := true, blob := .fresh } (bootCalls stored task)) := rfl
  rw [hinit, hload]
  simp only [countBoot, if_neg hid]
  split <;> exact ⟨rfl, rfl, rfl, rfl, rfl⟩

/-! ## The steps -/

/-- The worker holds a snapshot of that generation, not yet committed. -/
def WorkerPc.Holds (snapshot : HistoryBlob) (generation : UInt64) : WorkerPc → Prop
  | .write b g | .commit b g => b = snapshot ∧ g = generation
  | _ => False

/-- Nothing that a flush has to account for has changed. -/
structure SameMemory (r r' : HistoryRuntime) : Prop where
  lock : r'.lock = r.lock
  initialized : r'.initialized = r.initialized
  blob : r'.blob = r.blob
  generation : r'.generation = r.generation
  savedGeneration : r'.savedGeneration = r.savedGeneration

theorem SameMemory.refl (r : HistoryRuntime) : SameMemory r r := ⟨rfl, rfl, rfl, rfl, rfl⟩

inductive HistoryStep (s : HistoryState) : HistoryLabel → HistoryState → Prop
  | boot : HistoryStep s (.boot (bootRuntime s.stored task).blob)
      { s with
        runtime := bootRuntime s.stored task
        worker := if (bootRuntime s.stored task).writable then .idle else .absent }
  | record : call.accepted = true → s.runtime.lock = true → HistoryStep s (.record call)
      { s with
        runtime :=
          { s.runtime with
            blob := appendRecord s.runtime.blob call
            generation := s.runtime.generation + 1 } }
  | json : HistoryStep s (.json blob pending persistenceError) s
  | quiet : SameMemory s.runtime r → (worker ≠ .absent → s.worker ≠ .absent) →
    (∀ b g, worker.Holds b g → s.worker.Holds b g) →
    (∀ g, worker = .finish g ESP_OK → s.worker = .finish g ESP_OK) →
    HistoryStep s .quiet { s with runtime := r, worker }
  | copy : s.worker ≠ .absent → HistoryStep s .copy
      { s with worker := .write (sealBlob s.runtime.blob) s.runtime.generation }
  | commit : s.worker = .commit snapshot generation → HistoryStep s .commit
      { s with
        stored := some (blobCodec.encode snapshot)
        worker := .finish generation ESP_OK }
  | finish : s.worker = .finish generation err → HistoryStep s (.finish err)
      { s with runtime := finishFlush s.runtime generation err, worker := .idle }

theorem HistoryStep.idle (hs : s.worker = pc) (hpc : pc ≠ .absent)
    (hholds : ∀ b g, ¬ worker.Holds b g) (hfinish : ∀ g, worker ≠ .finish g ESP_OK)
    (hr : SameMemory s.runtime r) : HistoryStep s .quiet { s with runtime := r, worker } :=
  .quiet hr (fun _ => hs ▸ hpc) (fun b g h => absurd h (hholds b g))
    fun g h => absurd h (hfinish g)

theorem HistoryStep.unchanged (s : HistoryState) : HistoryStep s .quiet s :=
  .quiet (.refl _) (fun h => h) (fun _ _ h => h) fun _ h => h

theorem startFlush_sameMemory (h : startFlush r nowMs = some r') : SameMemory r r' := by
  unfold startFlush at h
  split at h
  · cases h
  · cases h; exact ⟨rfl, rfl, rfl, rfl, rfl⟩

theorem HistoryStep.ofNext (h : historyNext s i = some (l, s')) : HistoryStep s l s' := by
  cases i with
  | boot task => cases h; exact .boot
  | record call =>
    simp only [historyNext, errorHistoryRecord] at h
    by_cases haccepted : call.accepted = true ∧ s.runtime.lock = true
    · have hrecord : ¬ (¬ call.accepted = true ∨ ¬ s.runtime.lock = true) :=
        fun h => h.elim (absurd haccepted.1) (absurd haccepted.2)
      rw [if_neg hrecord, if_pos (Bool.and_eq_true_iff.mpr haccepted)] at h
      cases h
      exact .record haccepted.1 haccepted.2
    · have hskip : ¬ call.accepted = true ∨ ¬ s.runtime.lock = true :=
        Classical.not_and_iff_not_or_not.mp haccepted
      have hlabel : ¬ (call.accepted && s.runtime.lock) = true := by
        simpa using haccepted
      rw [if_pos hskip, if_neg hlabel] at h
      cases h
      exact .unchanged s
  | json => cases h; exact .json
  | flush nowMs =>
    simp only [historyNext] at h
    split at h
    · next hpc =>
      split at h
      · cases h; exact .unchanged s
      · next hstart =>
        cases h
        exact .idle hpc (fun h => by cases h) (fun _ _ h => h) (fun _ h => by cases h)
          (startFlush_sameMemory hstart)
    · cases h
  | allocate ok =>
    simp only [historyNext] at h
    split at h
    · next hpc =>
      cases h
      cases ok
      · exact .idle hpc (fun h => by cases h) (fun _ _ h => h) (fun _ h => by cases h) (.refl _)
      · exact .idle hpc (fun h => by cases h) (fun _ _ h => h) (fun _ h => by cases h) (.refl _)
    · cases h
  | noMemory =>
    simp only [historyNext] at h
    split at h
    · next hpc =>
      cases h
      exact .idle hpc (fun h => by cases h) (fun _ _ h => h) (fun _ h => by cases h)
        ⟨rfl, rfl, rfl, rfl, rfl⟩
    · cases h
  | copy =>
    simp only [historyNext] at h
    split at h
    · next hpc =>
      cases h
      exact .copy fun habsent => by rw [hpc] at habsent; cases habsent
    · cases h
  | setBlob err =>
    simp only [historyNext] at h
    split at h
    · next snapshot generation hpc =>
      cases h
      by_cases hok : err = ESP_OK
      · rw [if_pos hok]
        exact .quiet (.refl _) (fun _ h => by rw [hpc] at h; cases h)
          (fun _ _ h => by rw [hpc]; exact h) fun _ h => by cases h
      · rw [if_neg hok]
        exact .idle hpc (fun h => by cases h) (fun _ _ h => h) (fun _ h => hok (by cases h; rfl))
          (.refl _)
    · cases h
  | commit err =>
    simp only [historyNext] at h
    split at h
    · next snapshot generation hpc =>
      split at h
      · cases h; exact .commit hpc
      · next hok =>
        cases h
        exact .idle hpc (fun h => by cases h) (fun _ _ h => h) (fun _ h => hok (by cases h; rfl))
          (.refl _)
    · cases h
  | finish =>
    simp only [historyNext] at h
    split at h
    · next generation err hpc => cases h; exact .finish hpc
    · cases h

theorem finishFlush_sameMemory (h : err ≠ ESP_OK) (r : HistoryRuntime) (generation : UInt64) :
    SameMemory r (finishFlush r generation err) := by
  unfold finishFlush
  rw [if_neg h]
  exact ⟨rfl, rfl, rfl, rfl, rfl⟩

/-! ## What is stored can be loaded -/

/-- A ring that a run with these many restarts and records can hold. -/
structure HistoryBlob.Bounded (b : HistoryBlob) (h : List HistoryLabel) : Prop where
  consistent : b.Consistent
  boot_ne : b.bootId ≠ 0
  boot_le : b.bootId.toNat ≤ boots h
  total_le : b.totalErrors.toNat ≤ records h

/-- The image of a sealed bounded ring. -/
def SealedImage (h : List HistoryLabel) (bytes : List UInt8) : Prop :=
  ∃ b : HistoryBlob, b.Bounded h ∧ bytes = blobCodec.encode (sealBlob b)

/-- What is in memory, stored or on its way to be stored is a bounded ring. -/
structure Bounded (h : List HistoryLabel) (s : HistoryState) : Prop where
  lock : s.worker ≠ .absent → s.runtime.lock = true
  memory : s.runtime.lock = true → s.runtime.blob.Bounded h
  snapshot : ∀ b g, s.worker.Holds b g → ∃ b₀ : HistoryBlob, b₀.Bounded h ∧ b = sealBlob b₀
  stored : ∀ bytes, s.stored = some bytes → SealedImage h bytes

theorem boots_le_cons : boots h ≤ boots (l :: h) := by
  simp only [boots, List.countP_cons]
  omega

theorem records_le_cons : records h ≤ records (l :: h) := by
  simp only [records, List.countP_cons]
  omega

theorem HistoryBlob.Bounded.cons {b : HistoryBlob} (H : b.Bounded h) : b.Bounded (l :: h) :=
  { H with
    boot_le := Nat.le_trans H.boot_le boots_le_cons
    total_le := Nat.le_trans H.total_le records_le_cons }

theorem SealedImage.cons (H : SealedImage h bytes) : SealedImage (l :: h) bytes := by
  obtain ⟨b, hb, heq⟩ := H
  exact ⟨b, hb.cons, heq⟩

theorem SealedImage.decode (H : SealedImage h bytes) : bytes.length = HISTORY_BLOB_SIZE ∧
    ∃ b : HistoryBlob, b.Bounded h ∧ blobCodec.decode bytes = sealBlob b := by
  obtain ⟨b, hb, rfl⟩ := H
  exact ⟨blobCodec.length_encode _, b, hb, blobCodec.decode_encode _⟩

theorem Bounded.acceptable (H : Bounded h s) : Acceptable s.stored := by
  intro bytes hbytes
  obtain ⟨hlen, b, hb, hdecode⟩ := (H.stored bytes hbytes).decode
  exact ⟨hlen, by rw [hdecode]; exact validBlob_seal hb.consistent⟩

theorem HistoryBlob.fresh_consistent : HistoryBlob.fresh.Consistent where
  magic := rfl
  version := rfl
  size := rfl
  count := rfl
  next := rfl
  sequence _ h _ hpos := absurd (Nat.lt_of_lt_of_le hpos h) (Nat.lt_irrefl 0)
  recorded _ h _ hpos := absurd (Nat.lt_of_lt_of_le hpos h) (Nat.lt_irrefl 0)

/-- What an initialisation starts from has counted fewer boots than the run. -/
theorem Bounded.loads (H : Bounded h s) : (storedBlob s.stored).Consistent ∧
    (storedBlob s.stored).bootId.toNat ≤ boots h ∧
      (storedBlob s.stored).totalErrors.toNat ≤ records h := by
  cases hs : s.stored with
  | none => exact ⟨HistoryBlob.fresh_consistent, Nat.zero_le _, Nat.zero_le _⟩
  | some bytes =>
    obtain ⟨-, b, hb, hdecode⟩ := (H.stored bytes hs).decode
    simp only [storedBlob, hdecode, sealBlob_bootId, (sealBlob_sameHistory b).totalErrors]
    exact ⟨hb.consistent.withChecksum _, hb.boot_le, hb.total_le⟩

theorem Bounded.booted (H : Bounded h s) (hboots : boots h < 2 ^ 32 - 1) (task : Bool) :
    Booted s.stored (bootRuntime s.stored task) := by
  refine bootRuntime_booted H.acceptable (fun heq => ?_) task
  have hle := H.loads.2.1
  have hmax : (0xffffffff : UInt32).toNat = 2 ^ 32 - 1 := rfl
  rw [heq, hmax] at hle
  omega

theorem Bounded.boot (H : Bounded h s) (hboots : boots h < 2 ^ 32 - 1) (task : Bool)
    (loaded : HistoryBlob) : (bootRuntime s.stored task).blob.Bounded (.boot loaded :: h) := by
  obtain ⟨hconsistent, hid, htotal⟩ := H.loads
  have hcount : boots (.boot loaded :: h) = boots h + 1 := List.countP_cons_of_pos rfl
  have hnext : ((storedBlob s.stored).bootId + 1).toNat =
      (storedBlob s.stored).bootId.toNat + 1 := by
    have h1 : (1 : UInt32).toNat = 1 := rfl
    rw [UInt32.toNat_add, h1]
    omega
  rw [(H.booted hboots task).blob]
  refine ⟨hconsistent.boot ?_, fun heq => ?_, ?_, Nat.le_trans htotal records_le_cons⟩
  · rw [UInt32.le_iff_toNat_le, hnext]
    omega
  · have hzero := congrArg UInt32.toNat heq
    rw [hnext] at hzero
    cases hzero
  · rw [hnext, hcount]
    omega

theorem Bounded.step (H : Bounded h s) (hstep : HistoryStep s l s')
    (hboots : boots (l :: h) < 2 ^ 32 - 1) (hrecords : records (l :: h) < 2 ^ 64) :
    Bounded (l :: h) s' := by
  have hstored (bytes) (hbytes : s.stored = some bytes) : SealedImage (l :: h) bytes :=
    (H.stored bytes hbytes).cons
  have hsnapshot (b g) (hheld : s.worker.Holds b g) :
      ∃ b₀ : HistoryBlob, b₀.Bounded (l :: h) ∧ b = sealBlob b₀ := by
    obtain ⟨b₀, hb₀, heq⟩ := H.snapshot b g hheld
    exact ⟨b₀, hb₀.cons, heq⟩
  cases hstep with
  | @boot task =>
    have hboots' := Nat.lt_of_le_of_lt boots_le_cons hboots
    refine ⟨fun _ => (H.booted hboots' task).lock, fun _ => H.boot hboots' task _,
      fun b g hheld => ?_, hstored⟩
    dsimp only at hheld
    split at hheld <;> cases hheld
  | @record call haccepted hlock =>
    have hmemory := H.memory hlock
    have hcount : records (.record call :: h) = records h + 1 := List.countP_cons_of_pos rfl
    have hlt : s.runtime.blob.totalErrors.toNat + 1 < 2 ^ 64 := by
      have hle := hmemory.total_le
      omega
    refine ⟨H.lock, fun _ => ?_, hsnapshot, hstored⟩
    refine ⟨hmemory.consistent.append hmemory.boot_ne hlt haccepted, hmemory.boot_ne,
      Nat.le_trans hmemory.boot_le boots_le_cons, ?_⟩
    rw [appendRecord_totalErrors hlt, hcount]
    exact Nat.succ_le_succ hmemory.total_le
  | json => exact ⟨H.lock, fun hlock => (H.memory hlock).cons, hsnapshot, hstored⟩
  | quiet hr hpc hheld _ =>
    refine ⟨fun h => ?_, fun hlock => ?_, fun b g hb => hsnapshot b g (hheld b g hb), hstored⟩
    · rw [hr.lock]
      exact H.lock (hpc h)
    · rw [hr.lock] at hlock
      rw [hr.blob]
      exact (H.memory hlock).cons
  | copy hpc =>
    refine ⟨fun _ => H.lock hpc, fun hlock => (H.memory hlock).cons, ?_, hstored⟩
    rintro b g ⟨rfl, -⟩
    exact ⟨_, (H.memory (H.lock hpc)).cons, rfl⟩
  | commit hworker =>
    have hlock := H.lock fun habsent => by rw [hworker] at habsent; cases habsent
    refine ⟨fun _ => hlock, fun _ => (H.memory hlock).cons, fun _ _ hb => False.elim hb, ?_⟩
    rintro bytes hbytes
    cases hbytes
    obtain ⟨b₀, hb₀, heq⟩ := H.snapshot _ _ (by rw [hworker]; exact ⟨rfl, rfl⟩)
    exact ⟨b₀, hb₀.cons, by rw [heq]⟩
  | @finish generation err hworker =>
    have hlock := H.lock fun habsent => by rw [hworker] at habsent; cases habsent
    have hsame : (finishFlush s.runtime generation err).lock = s.runtime.lock ∧
        (finishFlush s.runtime generation err).blob = s.runtime.blob := by
      unfold finishFlush
      split <;> exact ⟨rfl, rfl⟩
    refine ⟨fun _ => hsame.1.trans hlock, fun _ => ?_, fun _ _ hb => False.elim hb, hstored⟩
    rw [hsame.2]
    exact (H.memory hlock).cons

theorem Bounded.ofRun (run : historySystem.Run h s) (hboots : boots h < 2 ^ 32 - 1)
    (hrecords : records h < 2 ^ 64) : Bounded h s := by
  induction run with
  | init hinit =>
    cases hinit
    exact ⟨fun h => absurd rfl h, fun h => Bool.noConfusion h, fun _ _ h => False.elim h,
      fun _ h => by cases h⟩
  | step hrun hstep ih =>
    obtain ⟨i, hnext⟩ := hstep
    exact (ih (Nat.lt_of_le_of_lt boots_le_cons hboots)
      (Nat.lt_of_le_of_lt records_le_cons hrecords)).step (.ofNext hnext) hboots hrecords

/-! ## Where the stored blob stands -/

/-- The generation of a boot in which `n` errors were recorded. -/
def generationOf (n : Nat) : UInt64 := UInt64.ofNat (1 + n)

/-- A generation saved by then: the ring of `older` is stored, and it is no older than that. -/
def SavedBy (stored : Option (List UInt8)) (older : List HistoryLabel) (g : UInt64) : Prop :=
  stored = some (blobCodec.encode (sealBlob (memoryOf older))) ∧
    ∃ n ≤ bootRecords older, g = generationOf n

/-- The boot has saved nothing, or a generation of at most `n` records. -/
def SavedAtMost (h : List HistoryLabel) (r : HistoryRuntime) (n : Nat) : Prop :=
  (flushedInBoot h = false ∧ r.savedGeneration = 0) ∨
    ∃ m ≤ n, r.savedGeneration = generationOf m

/-- The stored blob is the ring of `older`, with no restart and no committed flush since. -/
structure Durable (newer older : List HistoryLabel) (s : HistoryState) : Prop where
  sameBoot : SameBoot newer
  noFlush : NoCommittedFlush newer
  history : (storedBlob s.stored).SameHistory (memoryOf older)
  saved : (flushedInBoot (newer ++ older) = false ∧ s.runtime.savedGeneration = 0) ∨
    SavedBy s.stored older s.runtime.savedGeneration
  finishing : ∀ g, s.worker = .finish g ESP_OK → SavedBy s.stored older g

/-- The snapshot the worker holds was taken of `older`, in the same boot. -/
structure Held (h newer older : List HistoryLabel) (s : HistoryState) (b : HistoryBlob)
    (g : UInt64) : Prop where
  split : h = newer ++ .copy :: older
  sameBoot : SameBoot newer
  noCopy : ∀ l ∈ newer, l ≠ .copy
  snapshot : b = sealBlob (memoryOf older)
  generation : g = generationOf (bootRecords older)
  saved : SavedAtMost h s.runtime (bootRecords older)

/-- The invariant: memory and generation follow the history, and so do store and snapshot. -/
structure Tracks (h : List HistoryLabel) (s : HistoryState) : Prop where
  ready : s.worker ≠ .absent → s.runtime.initialized = true
  blob : s.runtime.blob = memoryOf h
  generation : s.runtime.initialized = true → s.runtime.generation = generationOf (bootRecords h)
  durable : ∃ newer older, h = newer ++ older ∧ Durable newer older s
  held : ∀ b g, s.worker.Holds b g → ∃ newer older, Held h newer older s b g

/-- A step that leaves the store, what is saved and the worker's promises alone. -/
theorem Durable.cons (H : Durable newer older s) (hboot : l.isBoot = false) (hl : l ≠ .commit)
    (hflushed : flushedInBoot (l :: (newer ++ older)) = flushedInBoot (newer ++ older))
    (hstored : s'.stored = s.stored)
    (hsaved : s'.runtime.savedGeneration = s.runtime.savedGeneration)
    (hfinish : ∀ g, s'.worker = .finish g ESP_OK → s.worker = .finish g ESP_OK) :
    Durable (l :: newer) older s' where
  sameBoot := H.sameBoot.cons hboot
  noFlush := H.noFlush.cons hl
  history := by rw [hstored]; exact H.history
  saved := by rw [hstored, hsaved, List.cons_append, hflushed]; exact H.saved
  finishing g hg := by rw [hstored]; exact H.finishing g (hfinish g hg)

theorem Held.cons (H : Held h newer older s b g) (hboot : l.isBoot = false) (hl : l ≠ .copy)
    (hflushed : flushedInBoot (l :: h) = flushedInBoot h)
    (hsaved : s'.runtime.savedGeneration = s.runtime.savedGeneration) :
    Held (l :: h) (l :: newer) older s' b g where
  split := by rw [H.split]; rfl
  sameBoot := H.sameBoot.cons hboot
  noCopy l' hl' := by
    rcases List.mem_cons.mp hl' with rfl | hl'
    · exact hl
    · exact H.noCopy l' hl'
  snapshot := H.snapshot
  generation := H.generation
  saved := by
    unfold SavedAtMost
    rw [hflushed, hsaved]
    exact H.saved

theorem Durable.savedAtMost (H : Durable newer older s) :
    SavedAtMost (newer ++ older) s.runtime (bootRecords (newer ++ older)) := by
  rcases H.saved with hnone | ⟨-, n, hn, hsaved⟩
  · exact .inl hnone
  · have hle := bootRecords_append H.sameBoot older
    exact .inr ⟨n, by omega, hsaved⟩

/-- A restart loads what is stored. -/
theorem Durable.boot {s : HistoryState} (hboot : Booted s.stored r) :
    Durable [] (.boot r.blob :: h)
      { s with runtime := r, worker := if r.writable then .idle else .absent } where
  sameBoot _ hl := by cases hl
  noFlush after _ _ heq := by cases after <;> cases heq
  history := by
    simp only [memoryOf]
    rw [hboot.blob]
    exact ⟨rfl, rfl, rfl, rfl⟩
  saved := .inl ⟨rfl, hboot.savedGeneration⟩
  finishing g hg := by
    dsimp only at hg
    split at hg <;> cases hg

/-- A commit makes the snapshot the stored blob. -/
theorem Held.commit (H : Held h newer older s b g)
    (hflushed : flushedInBoot (.commit :: h) = flushedInBoot h) :
    Durable (.commit :: newer) (.copy :: older)
      { s with stored := some (blobCodec.encode b), worker := .finish g ESP_OK } where
  sameBoot := H.sameBoot.cons rfl
  noFlush after between before heq := by
    have hmem : HistoryLabel.copy ∈ HistoryLabel.commit :: newer := by
      rw [heq]
      simp
    rcases List.mem_cons.mp hmem with hc | hmem
    · cases hc
    · exact H.noCopy _ hmem rfl
  history := by
    simp only [storedBlob, Codec.decode_encode, memoryOf]
    rw [H.snapshot]
    exact sealBlob_sameHistory _
  saved := by
    have hsaved := H.saved
    have hsplit : HistoryLabel.commit :: newer ++ .copy :: older = .commit :: h := by
      rw [H.split]
      rfl
    rw [hsplit, hflushed]
    rcases hsaved with hnone | ⟨m, hm, hsaved⟩
    · exact .inl hnone
    · exact .inr ⟨by rw [H.snapshot]; rfl, m, hm, hsaved⟩
  finishing g' hg' := by
    cases hg'
    exact ⟨by rw [H.snapshot]; rfl, _, Nat.le_refl _, H.generation⟩

/-- The last section of a flush saves the generation it promised. -/
theorem Durable.finish (H : Durable newer older s) (hworker : s.worker = .finish g ESP_OK) :
    Durable (.finish ESP_OK :: newer) older
      { s with runtime := finishFlush s.runtime g ESP_OK, worker := .idle } where
  sameBoot := H.sameBoot.cons rfl
  noFlush := H.noFlush.cons fun h => by cases h
  history := H.history
  saved := .inr (H.finishing g hworker)
  finishing g' hg' := by cases hg'

theorem generationOf_succ (n : Nat) : generationOf n + 1 = generationOf (n + 1) := by
  apply UInt64.toNat_inj.mp
  have h1 : (1 : UInt64).toNat = 1 := rfl
  simp only [generationOf, UInt64.toNat_add, UInt64.toNat_ofNat', h1]
  omega

theorem Tracks.step (H : Tracks h s) (hstep : HistoryStep s l s')
    (hbooted : ∀ task, Booted s.stored (bootRuntime s.stored task)) : Tracks (l :: h) s' := by
  obtain ⟨newer, older, hsplit, hdurable⟩ := H.durable
  cases hstep with
  | @boot task =>
    have hboot := hbooted task
    refine ⟨fun _ => hboot.initialized, rfl, fun _ => hboot.generation,
      ⟨[], _, rfl, Durable.boot hboot⟩, fun b g hheld => ?_⟩
    dsimp only at hheld
    split at hheld <;> cases hheld
  | @record call haccepted hlock =>
    refine ⟨H.ready, ?_, fun hinit => ?_, ?_, fun b g hheld => ?_⟩
    · simp only [memoryOf, H.blob]
    · simp only [bootRecords, ← generationOf_succ, ← H.generation hinit]
    · refine ⟨.record call :: newer, older, by rw [hsplit]; rfl, ?_⟩
      exact hdurable.cons rfl (fun h => by cases h) rfl rfl rfl fun _ h => h
    · obtain ⟨n, o, hh⟩ := H.held b g hheld
      exact ⟨_, _, hh.cons rfl (fun h => by cases h) rfl rfl⟩
  | json =>
    refine ⟨H.ready, H.blob, H.generation, ?_, fun b g hheld => ?_⟩
    · refine ⟨_ :: newer, older, by rw [hsplit]; rfl, ?_⟩
      exact hdurable.cons rfl (fun h => by cases h) rfl rfl rfl fun _ h => h
    · obtain ⟨n, o, hh⟩ := H.held b g hheld
      exact ⟨_, _, hh.cons rfl (fun h => by cases h) rfl rfl⟩
  | quiet hr hpc hholds hfinish =>
    refine ⟨fun h => hr.initialized.trans (H.ready (hpc h)), hr.blob.trans H.blob,
      fun hinit => ?_, ?_, fun b g hheld => ?_⟩
    · rw [hr.initialized] at hinit
      exact hr.generation.trans (H.generation hinit)
    · refine ⟨.quiet :: newer, older, by rw [hsplit]; rfl, ?_⟩
      exact hdurable.cons rfl (fun h => by cases h) rfl rfl hr.savedGeneration hfinish
    · obtain ⟨n, o, hh⟩ := H.held b g (hholds b g hheld)
      exact ⟨_, _, hh.cons rfl (fun h => by cases h) rfl hr.savedGeneration⟩
  | copy hpc =>
    refine ⟨fun _ => H.ready hpc, H.blob, H.generation, ?_, ?_⟩
    · refine ⟨.copy :: newer, older, by rw [hsplit]; rfl, ?_⟩
      exact hdurable.cons rfl (fun h => by cases h) rfl rfl rfl fun _ h => by cases h
    · rintro b g ⟨rfl, rfl⟩
      refine ⟨[], h, rfl, fun _ hl => (by cases hl), fun _ hl => (by cases hl), by rw [H.blob],
        H.generation (H.ready hpc), ?_⟩
      have hsaved := hdurable.savedAtMost
      rw [← hsplit] at hsaved
      exact hsaved
  | commit hworker =>
    obtain ⟨n, o, hh⟩ := H.held _ _ (by rw [hworker]; exact ⟨rfl, rfl⟩)
    have hready := H.ready fun habsent => by rw [hworker] at habsent; cases habsent
    refine ⟨fun _ => hready, H.blob, H.generation, ⟨.commit :: n, .copy :: o, ?_, hh.commit rfl⟩,
      fun _ _ hheld => False.elim hheld⟩
    rw [hh.split]
    rfl
  | @finish generation err hworker =>
    have hready := H.ready fun habsent => by rw [hworker] at habsent; cases habsent
    by_cases hok : err = ESP_OK
    · subst hok
      refine ⟨fun _ => hready, H.blob, H.generation, ⟨.finish ESP_OK :: newer, older, by rw [hsplit]; rfl,
        hdurable.finish hworker⟩, fun _ _ hheld => False.elim hheld⟩
    · have hr := finishFlush_sameMemory hok s.runtime generation
      have hflushed (h : List HistoryLabel) :
          flushedInBoot (.finish err :: h) = flushedInBoot h := by
        simp [flushedInBoot, hok]
      refine ⟨fun _ => hr.initialized.trans hready, hr.blob.trans H.blob, fun hinit => ?_, ?_,
        fun _ _ hheld => False.elim hheld⟩
      · rw [hr.initialized] at hinit
        exact hr.generation.trans (H.generation hinit)
      · refine ⟨.finish err :: newer, older, by rw [hsplit]; rfl, ?_⟩
        exact hdurable.cons rfl (fun h => by cases h) (hflushed _) rfl hr.savedGeneration
          fun _ h => by cases h

theorem Tracks.ofRun (run : historySystem.Run h s) (hboots : boots h < 2 ^ 32 - 1)
    (hrecords : records h < 2 ^ 64) : Tracks h s := by
  induction run with
  | init hinit =>
    cases hinit
    refine ⟨fun h => absurd rfl h, rfl, fun h => Bool.noConfusion h, ⟨[], [], rfl, ?_⟩,
      fun _ _ h => False.elim h⟩
    exact ⟨fun _ h => (by cases h), fun after _ _ h => (by cases after <;> cases h),
      ⟨rfl, rfl, rfl, rfl⟩, .inl ⟨rfl, rfl⟩, fun _ h => (by cases h)⟩
  | step hrun hstep ih =>
    obtain ⟨i, hnext⟩ := hstep
    have hboots' := Nat.lt_of_le_of_lt boots_le_cons hboots
    have hrecords' := Nat.lt_of_le_of_lt records_le_cons hrecords
    exact (ih hboots' hrecords').step (.ofNext hnext)
      ((Bounded.ofRun hrun hboots' hrecords').booted hboots')

/-! ## Crash consistency -/

theorem generationOf_inj (h : generationOf m = generationOf n) (hm : m < 2 ^ 64) (hn : n < 2 ^ 64) :
    m = n := by
  have hnat := congrArg UInt64.toNat h
  simp only [generationOf, UInt64.toNat_ofNat'] at hnat
  omega

/-- A history that is not pending is stored as it is in memory, unless the boot has saved nothing
and its generation has come back to 0. -/
theorem Tracks.saved (H : Tracks h s) (hrecords : records h < 2 ^ 64)
    (hinit : s.runtime.initialized = true) (hclean : pendingPersistence s.runtime = false) :
    s.stored = some (blobCodec.encode (sealBlob s.runtime.blob)) ∨
      (bootRecords h = 2 ^ 64 - 1 ∧ flushedInBoot h = false) := by
  obtain ⟨newer, older, hsplit, hdurable⟩ := H.durable
  have hle := bootRecords_le h
  have hgeneration : s.runtime.savedGeneration = generationOf (bootRecords h) := by
    have hequal : s.runtime.generation = s.runtime.savedGeneration := by
      simpa [pendingPersistence] using hclean
    rw [← hequal]
    exact H.generation hinit
  rcases hdurable.saved with ⟨hflushed, hzero⟩ | ⟨hstored, n, hn, hsaved⟩
  · right
    refine ⟨?_, by rw [hsplit]; exact hflushed⟩
    have hnat := congrArg UInt64.toNat (hzero.symm.trans hgeneration)
    have h0 : (0 : UInt64).toNat = 0 := rfl
    simp only [generationOf, UInt64.toNat_ofNat', h0] at hnat
    omega
  · left
    have happend := bootRecords_append hdurable.sameBoot older
    rw [← hsplit] at happend
    have hequal := generationOf_inj (hsaved.symm.trans hgeneration) (by omega) (by omega)
    have hnone : records newer = 0 := by omega
    rw [hstored, H.blob, hsplit, memoryOf_append hdurable.sameBoot hnone]

/-- The errors of a history are consistent across crashes. Whenever nothing is pending, the stored
blob is the one in memory, sealed, except in a boot that has saved nothing and recorded exactly
`2^64 - 1` errors. After a restart the ring is that of an earlier moment of the boot that crashed, and
no flush of that boot both took its snapshot after this moment and committed it. What is stored is
always accepted. -/
theorem history_crashConsistent (run : historySystem.Run h s) (hboots : boots h < 2 ^ 32 - 1)
    (hrecords : records h < 2 ^ 64) :
    (s.runtime.initialized = true → pendingPersistence s.runtime = false →
      s.stored = some (blobCodec.encode (sealBlob s.runtime.blob)) ∨
        (bootRecords h = 2 ^ 64 - 1 ∧ flushedInBoot h = false)) ∧
    (∀ loaded h₀, h = .boot loaded :: h₀ → s.runtime.blob = loaded ∧
      ∃ newer older s₀, h₀ = newer ++ older ∧ SameBoot newer ∧ NoCommittedFlush newer ∧
        historySystem.Run older s₀ ∧ loaded.SameHistory s₀.runtime.blob) ∧
    ∀ bytes, s.stored = some bytes →
      bytes.length = HISTORY_BLOB_SIZE ∧ validBlob (blobCodec.decode bytes) = true := by
  have H := Tracks.ofRun run hboots hrecords
  have hbounded := Bounded.ofRun run hboots hrecords
  refine ⟨H.saved hrecords, ?_, hbounded.acceptable⟩
  rintro loaded h₀ rfl
  obtain ⟨s₁, hrun, i, hnext⟩ := run.cons_inv
  have hboots' := Nat.lt_of_le_of_lt boots_le_cons hboots
  have hrecords' := Nat.lt_of_le_of_lt records_le_cons hrecords
  have H₁ := Tracks.ofRun hrun hboots' hrecords'
  obtain ⟨newer, older, hsplit, hdurable⟩ := H₁.durable
  rw [hsplit] at hrun hboots' hrecords'
  obtain ⟨s₀, hrun₀⟩ := StepSystem.Run.of_append hrun
  have hboots₀ : boots older < 2 ^ 32 - 1 := by
    simp only [boots, List.countP_append] at hboots' ⊢
    omega
  have hrecords₀ : records older < 2 ^ 64 := by
    simp only [records, List.countP_append] at hrecords' ⊢
    omega
  refine ⟨H.blob, newer, older, s₀, hsplit, hdurable.sameBoot, hdurable.noFlush, hrun₀, ?_⟩
  rw [(Tracks.ofRun hrun₀ hboots₀ hrecords₀).blob]
  cases HistoryStep.ofNext hnext with
  | boot =>
    have hbooted := (Bounded.ofRun hrun hboots' hrecords').booted hboots'
    rw [(hbooted _).blob]
    have hhistory := hdurable.history
    exact ⟨hhistory.count, hhistory.next, hhistory.totalErrors, hhistory.events⟩

/-! ## Runs on fixed inputs -/

/-- A connection that was refused. -/
def refusedCall : RecordCall where
  request := HistoryEvent.zero.request
  result := { HistoryEvent.zero.result with error := 4 }
  uptimeMs := 20
  utcMs := 0

/-- One error, recorded and flushed. -/
def flushInputs : List HistoryInput :=
  [.boot true, .record refusedCall, .flush 20, .allocate true, .copy, .setBlob ESP_OK,
    .commit ESP_OK, .finish]

def historyAfter (is : List HistoryInput) : List HistoryLabel × HistoryState :=
  StepSystem.feed historyNext is ([], {})

theorem historySystem_run (is : List HistoryInput) :
    historySystem.Run (historyAfter is).1 (historyAfter is).2 :=
  StepSystem.Run.feed is (.init rfl)

/-- Two more errors, one of them behind the snapshot of a flush that is cut before its commit. -/
def crashInputs : List HistoryInput :=
  flushInputs ++ [.record refusedCall, .flush 60020, .allocate true, .copy, .record refusedCall, .setBlob ESP_OK]

/-- After the first flush the stored ring is that in memory. The crash loses the two errors behind it. -/
theorem history_crashConsistent_crashed :
    (historyAfter flushInputs).2.stored =
      some (blobCodec.encode (sealBlob (historyAfter flushInputs).2.runtime.blob)) ∧
    (historyAfter crashInputs).2.runtime.blob.totalErrors = 3 ∧
    (bootRuntime (historyAfter crashInputs).2.stored true).blob.totalErrors = 1 ∧
    ∃ newer older s₀, (historyAfter crashInputs).1 = newer ++ older ∧ SameBoot newer ∧
      NoCommittedFlush newer ∧ historySystem.Run older s₀ ∧
      (bootRuntime (historyAfter crashInputs).2.stored true).blob.SameHistory s₀.runtime.blob := by
  have hclean : (historyAfter flushInputs).2.stored =
      some (blobCodec.encode (sealBlob (historyAfter flushInputs).2.runtime.blob)) := by
    have hboots : boots (historyAfter flushInputs).1 < 2 ^ 32 - 1 := by decide +kernel
    have hrecords : records (historyAfter flushInputs).1 < 2 ^ 64 := by decide +kernel
    have hflushed : flushedInBoot (historyAfter flushInputs).1 = true := by decide +kernel
    obtain ⟨hsaved, -, -⟩ := history_crashConsistent (historySystem_run flushInputs) hboots hrecords
    rcases hsaved (by decide +kernel) (by decide +kernel) with hstored | ⟨-, hnone⟩
    · exact hstored
    · rw [hflushed] at hnone
      cases hnone
  have hboots : boots (.boot (bootRuntime (historyAfter crashInputs).2.stored true).blob ::
      (historyAfter crashInputs).1) < 2 ^ 32 - 1 := by decide +kernel
  have hrecords : records (.boot (bootRuntime (historyAfter crashInputs).2.stored true).blob ::
      (historyAfter crashInputs).1) < 2 ^ 64 := by decide +kernel
  have hrun := (historySystem_run crashInputs).step ⟨.boot true, rfl⟩
  obtain ⟨-, hloaded, hvalid⟩ := history_crashConsistent hrun hboots hrecords
  refine ⟨hclean, by decide +kernel, ?_, (hloaded _ _ rfl).2⟩
  -- The codec gives the first snapshot back, and the boot takes its ring over.
  have hkept : storedBlob (historyAfter crashInputs).2.stored =
      sealBlob (historyAfter flushInputs).2.runtime.blob := by
    have hstored : (historyAfter crashInputs).2.stored = _ := hclean
    rw [hstored, storedBlob, Codec.decode_encode]
  have hid : (storedBlob (historyAfter crashInputs).2.stored).bootId ≠ 0xffffffff := by
    rw [hkept]
    decide +kernel
  rw [(bootRuntime_booted hvalid hid true).blob]
  show (storedBlob (historyAfter crashInputs).2.stored).totalErrors = 1
  rw [hkept]
  decide +kernel

theorem record_run (hrun : historySystem.Run h s) (hlock : s.runtime.lock = true) (hcall : call.accepted = true) :
    historySystem.Run (.record call :: h) { s with runtime := errorHistoryRecord s.runtime call } := by
  have hnext : historyNext s (.record call) =
      some (.record call, { s with runtime := errorHistoryRecord s.runtime call }) := by
    simp only [historyNext, hcall, hlock, Bool.and_self, if_true]
  exact hrun.step ⟨_, hnext⟩

/-- A boot that records `n` errors and flushes none. -/
theorem unflushed_run (hcall : call.accepted = true) (n : Nat) : ∃ s : HistoryState,
    historySystem.Run
      (List.replicate n (.record call) ++ [.boot (bootRuntime none true).blob]) s ∧
    s.runtime.lock = true ∧ s.runtime.initialized = true ∧ s.runtime.savedGeneration = 0 ∧
    s.stored = none ∧ s.runtime.generation = generationOf n := by
  have hbooted : Booted none (bootRuntime none true) :=
    bootRuntime_booted (fun _ h => by cases h) (by decide) true
  induction n with
  | zero =>
    refine ⟨_, .step (.init rfl) ⟨.boot true, rfl⟩, hbooted.lock, hbooted.initialized,
      hbooted.savedGeneration, rfl, hbooted.generation⟩
  | succ n ih =>
    obtain ⟨s, hrun, hlock, hinit, hsaved, hstored, hgeneration⟩ := ih
    have hrecord : errorHistoryRecord s.runtime call =
        { s.runtime with
          blob := appendRecord s.runtime.blob call
          generation := s.runtime.generation + 1 } := by
      unfold errorHistoryRecord
      rw [if_neg (by simp [hcall, hlock])]
    refine ⟨_, record_run hrun hlock hcall, ?_⟩
    simp only [hrecord]
    exact ⟨hlock, hinit, hsaved, hstored, by rw [hgeneration, generationOf_succ]⟩

/-- After `2 ^ 64 - 1` errors without a flush the generation is 0 again, and nothing is stored. -/
theorem history_falselyClean : ¬ ∀ h s, historySystem.Run h s → boots h < 2 ^ 32 - 1 →
    records h < 2 ^ 64 → s.runtime.initialized = true → pendingPersistence s.runtime = false →
    s.stored = some (blobCodec.encode (sealBlob s.runtime.blob)) := by
  intro hclaim
  have hcall : refusedCall.accepted = true := by decide
  obtain ⟨s, hrun, -, hinit, hsaved, hstored, hgeneration⟩ := unflushed_run hcall (2 ^ 64 - 1)
  have hclean : pendingPersistence s.runtime = false := by
    unfold pendingPersistence
    rw [hgeneration, hsaved]
    decide
  have hboots : boots (List.replicate (2 ^ 64 - 1) (.record refusedCall) ++
      [.boot (bootRuntime none true).blob]) = 1 := by
    rw [boots, List.countP_append, List.countP_replicate]
    rfl
  have hrecords : records (List.replicate (2 ^ 64 - 1) (.record refusedCall) ++
      [.boot (bootRuntime none true).blob]) = 2 ^ 64 - 1 := by
    rw [records, List.countP_append, List.countP_replicate]
    rfl
  have hequal := hclaim _ s hrun (by omega) (by omega) hinit hclean
  rw [hstored] at hequal
  cases hequal

end ModbusGateway
