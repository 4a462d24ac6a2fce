import ModbusGateway.Verify.HistoryCrash

/-!
# One boot of the history

A boot that starts with any outcome of the calls of `error_history_init`. The storage is writable
afterwards only if nothing was stored, or if the stored blob was read back completely, accepted, and
its boot counter can still count. In any other boot no step writes or commits, and the ring in memory
works on.
-/

namespace ModbusGateway

/-! ## What initialisation may rely on -/

/-- NVS answers as documented: the size query finds the blob and its length, and a read that succeeds
has copied that many bytes of it. -/
structure InitCalls.Answers (calls : InitCalls) (stored : Option (List UInt8)) : Prop where
  notFound : calls.size.1 = ESP_ERR_NVS_NOT_FOUND → stored = none
  found : calls.size.1 = ESP_OK → ∃ bytes, stored = some bytes ∧ calls.size.2 = bytes.length
  copied : calls.read.1 = ESP_OK → ∃ bytes, stored = some bytes ∧
    calls.read.2.1 ≤ bytes.length ∧ calls.read.2.2 = bytes.take calls.read.2.1

/-- The calls read the stored bytes back completely. -/
structure InitCalls.ReadsBack (calls : InitCalls) (bytes : List UInt8) : Prop where
  mutex : calls.mutex = true
  opened : calls.opened = ESP_OK
  size : calls.size = (ESP_OK, bytes.length)
  buffer : calls.buffer = true
  read : calls.read = (ESP_OK, bytes.length, bytes)

/-- The stored bytes are a whole blob that `valid_blob` accepts. -/
structure AcceptedBytes (bytes : List UInt8) : Prop where
  length : bytes.length = HISTORY_BLOB_SIZE
  valid : validBlob (blobCodec.decode bytes) = true

/-- The stored blob was read back completely and accepted, and its boot counter can count. -/
def LoadsBlob (stored : Option (List UInt8)) (calls : InitCalls) : Prop :=
  ∃ bytes, stored = some bytes ∧ calls.ReadsBack bytes ∧ AcceptedBytes bytes ∧
    (blobCodec.decode bytes).bootId ≠ 0xffffffff

/-! ## The load -/

/-- The load of a blob that was read back and accepted. -/
theorem loadHistory_readsBack (hread : calls.ReadsBack bytes) (haccepted : AcceptedBytes bytes)
    (r : HistoryRuntime) :
    loadHistory r calls = { r with blob := blobCodec.decode bytes, writable := true } := by
  have hfound : ¬ ESP_OK = ESP_ERR_NVS_NOT_FOUND := by decide
  simp [loadHistory, hread.opened, hread.size, hread.buffer, hread.read, haccepted.length,
    haccepted.valid, hfound]

/-- The other exits of the load. -/
theorem loadHistory_cases (hanswers : calls.Answers stored) (hmutex : calls.mutex = true)
    (r : HistoryRuntime) :
    (∃ persistenceError, loadHistory r calls = { r with persistenceError }) ∨
    (stored = none ∧ loadHistory r calls = { r with writable := true }) ∨
    ∃ bytes, stored = some bytes ∧ calls.ReadsBack bytes ∧ AcceptedBytes bytes := by
  unfold loadHistory
  split
  · exact .inl ⟨_, rfl⟩
  next hopen =>
  split
  · next hmissing => exact .inr (.inl ⟨hanswers.notFound hmissing, rfl⟩)
  split
  · exact .inl ⟨_, rfl⟩
  next hsize =>
  split
  · exact .inl ⟨_, rfl⟩
  next hlength =>
  split
  · exact .inl ⟨_, rfl⟩
  next hbuffer =>
  split
  · exact .inl ⟨_, rfl⟩
  next hread =>
  split
  · exact .inl ⟨_, rfl⟩
  next hblob =>
  right; right
  obtain ⟨hcopied, hvalid⟩ := not_or.mp hblob
  obtain ⟨bytes, hstored, hsizeOf⟩ := hanswers.found (not_not.mp hsize)
  obtain ⟨bytes', hstored', -, hbytes⟩ := hanswers.copied (not_not.mp hread)
  have hsame : bytes' = bytes := Option.some.inj (hstored'.symm.trans hstored)
  have hlen : bytes.length = HISTORY_BLOB_SIZE := hsizeOf.symm.trans (not_not.mp hlength)
  have hwhole : calls.read.2.2 = bytes := by
    rw [hbytes, hsame, not_not.mp hcopied, ← hlen, List.take_length]
  refine ⟨bytes, hstored, ⟨hmutex, not_not.mp hopen, Prod.ext (not_not.mp hsize) hsizeOf,
    not_not.mp hbuffer, ?_⟩, hlen, ?_⟩
  · exact Prod.ext (not_not.mp hread)
      (Prod.ext ((not_not.mp hcopied).trans hlen.symm) hwhole)
  · rw [← hwhole]
    exact not_not.mp hvalid

/-! ## The whole initialisation -/

/-- The memory before the load. -/
def beforeLoad : HistoryRuntime :=
  { ({} : HistoryRuntime) with lock := true, initialized := true, blob := .fresh }

theorem errorHistoryInit_mutex (hmutex : calls.mutex = true) :
    ∃ writable persistenceError, errorHistoryInit {} calls =
      { countBoot (loadHistory beforeLoad calls) with writable, persistenceError } ∧
      (writable = true → (countBoot (loadHistory beforeLoad calls)).writable = true) := by
  have hinit : errorHistoryInit {} calls =
      if (countBoot (loadHistory beforeLoad calls)).writable ∧ ¬ calls.task then
        storageError { countBoot (loadHistory beforeLoad calls) with writable := false }
          "History worker allocation" ESP_ERR_NO_MEM
      else countBoot (loadHistory beforeLoad calls) := by
    simp only [errorHistoryInit, hmutex]
    rfl
  rw [hinit]
  split
  · exact ⟨false, _, rfl, fun h => by cases h⟩
  · exact ⟨_, _, rfl, id⟩

theorem errorHistoryInit_noMutex (hmutex : calls.mutex = false) :
    (errorHistoryInit {} calls).writable = false := by
  simp [errorHistoryInit, hmutex, storageError]

theorem countBoot_exhausted (hid : r.blob.bootId = 0xffffffff) : (countBoot r).writable = false := by
  unfold countBoot
  rw [if_pos hid]

theorem countBoot_counts (hid : r.blob.bootId ≠ 0xffffffff) :
    countBoot r =
      { r with
        blob := { r.blob with bootId := r.blob.bootId + 1 }
        generation := r.generation + 1 } := by
  unfold countBoot
  rw [if_neg hid]

/-- The storage is writable only if nothing was stored or the stored blob was loaded. -/
theorem errorHistoryInit_writable (hanswers : calls.Answers stored)
    (hwritable : (errorHistoryInit {} calls).writable = true) :
    stored = none ∨ LoadsBlob stored calls := by
  cases hmutex : calls.mutex with
  | false =>
    rw [errorHistoryInit_noMutex hmutex] at hwritable
    cases hwritable
  | true =>
    obtain ⟨writable, _, hinit, hcount⟩ := errorHistoryInit_mutex hmutex
    rw [hinit] at hwritable
    have hloaded := hcount hwritable
    have hid : (loadHistory beforeLoad calls).blob.bootId ≠ 0xffffffff := by
      intro hexhausted
      rw [countBoot_exhausted hexhausted] at hloaded
      cases hloaded
    rw [countBoot_counts hid] at hloaded
    rcases loadHistory_cases hanswers hmutex beforeLoad with
      ⟨_, hload⟩ | ⟨hnone, -⟩ | ⟨bytes, hstored, hread, haccepted⟩
    · rw [hload] at hloaded
      cases hloaded
    · exact .inl hnone
    · rw [loadHistory_readsBack hread haccepted] at hid
      exact .inr ⟨bytes, hstored, hread, haccepted, hid⟩

/-- The memory starts from the blob that was loaded, with one boot more. -/
theorem errorHistoryInit_blob (hread : calls.ReadsBack bytes) (haccepted : AcceptedBytes bytes)
    (hid : (blobCodec.decode bytes).bootId ≠ 0xffffffff) :
    (errorHistoryInit {} calls).blob =
      { blobCodec.decode bytes with bootId := (blobCodec.decode bytes).bootId + 1 } := by
  obtain ⟨_, _, hinit, -⟩ := errorHistoryInit_mutex hread.mutex
  have hload := loadHistory_readsBack hread haccepted beforeLoad
  have hid' : (loadHistory beforeLoad calls).blob.bootId ≠ 0xffffffff := by
    rw [hload]
    exact hid
  rw [hinit, countBoot_counts hid', hload]

theorem errorHistoryInit_lock (hmutex : calls.mutex = true) :
    (errorHistoryInit {} calls).lock = true := by
  have hcount (r : HistoryRuntime) : (countBoot r).lock = r.lock := by
    unfold countBoot
    split <;> rfl
  have hload : (loadHistory beforeLoad calls).lock = true := by
    unfold loadHistory storageError
    split_ifs <;> rfl
  obtain ⟨_, _, hinit, -⟩ := errorHistoryInit_mutex hmutex
  rw [hinit]
  exact (hcount _).trans hload

/-! ## The boot -/

/-- The steps of one boot; `flush_pending` may be called although no worker was created. -/
def bootNext (s : HistoryState) : HistoryInput → Option (HistoryLabel × HistoryState)
  | .boot _ => none
  | i => historyNext s i

def bootSystem (stored : Option (List UInt8)) (calls : InitCalls) :
    StepSystem HistoryState HistoryLabel :=
  .ofFun { stored, runtime := errorHistoryInit {} calls, worker := .idle } bootNext

theorem historyNext_ofBoot (h : bootNext s i = some (l, s')) : historyNext s i = some (l, s') := by
  cases i with
  | boot => cases h
  | _ => exact h

/-- The worker does not get past the test of `writable`. -/
structure ReadOnly (kept : Option (List UInt8)) (s : HistoryState) : Prop where
  worker : s.worker = .idle
  writable : s.runtime.writable = false
  stored : s.stored = kept

theorem startFlush_readOnly {r : HistoryRuntime} (h : r.writable = false) (nowMs : UInt64) :
    startFlush r nowMs = none := by
  unfold startFlush
  exact if_pos (.inl (by rw [h]; exact Bool.false_ne_true))

theorem ReadOnly.step (H : ReadOnly kept s) (hstep : bootNext s i = some (l, s')) :
    ReadOnly kept s' := by
  have hnext := historyNext_ofBoot hstep
  cases i with
  | boot => cases hstep
  | record call =>
    cases hnext
    refine ⟨H.worker, ?_, H.stored⟩
    dsimp only
    unfold errorHistoryRecord
    split
    · exact H.writable
    · exact H.writable
  | json => cases hnext; exact H
  | flush nowMs =>
    simp only [historyNext, H.worker, startFlush_readOnly H.writable] at hnext
    cases hnext
    exact H
  | _ =>
    simp only [historyNext, H.worker] at hnext
    cases hnext

theorem ReadOnly.ofRun (hanswers : calls.Answers kept) (hstored : kept ≠ none)
    (hrefused : ¬ LoadsBlob kept calls) (run : (bootSystem kept calls).Run h s) :
    ReadOnly kept s := by
  induction run with
  | init hinit =>
    cases hinit
    refine ⟨rfl, Bool.eq_false_iff.mpr fun hwritable => ?_, rfl⟩
    rcases errorHistoryInit_writable hanswers hwritable with hnone | hloads
    · exact hstored hnone
    · exact hrefused hloads
  | step _ hstep ih =>
    obtain ⟨i, hnext⟩ := hstep
    exact ih.step hnext

theorem HistoryStep.memory (hstep : HistoryStep s l s') (h : s.runtime.blob = memoryOf older) :
    s'.runtime.blob = memoryOf (l :: older) := by
  cases hstep with
  | boot => rfl
  | record => simp only [memoryOf, ← h]
  | quiet hr => exact hr.blob.trans h
  | finish =>
    unfold finishFlush
    split
    · exact h
    · exact h
  | _ => exact h

theorem historyNext_boot (h : historyNext s i = some (.boot loaded, s')) :
    ∃ task, i = .boot task := by
  cases i with
  | boot task => exact ⟨task, rfl⟩
  | record call =>
    simp only [historyNext, Option.some.injEq, Prod.mk.injEq] at h
    have hlabel := h.1
    split at hlabel
    · cases hlabel
    · cases hlabel
  | json => cases h
  | _ => grind [historyNext]

/-- A step of the boot leaves the mutex. -/
theorem bootNext_lock (hstep : bootNext s i = some (l, s')) :
    s'.runtime.lock = s.runtime.lock := by
  have hnext := historyNext_ofBoot hstep
  cases HistoryStep.ofNext hnext with
  | boot =>
    obtain ⟨_, rfl⟩ := historyNext_boot hnext
    cases hstep
  | quiet hr => exact hr.lock
  | finish =>
    unfold finishFlush
    split
    · rfl
    · rfl
  | _ => rfl

/-- The ring in memory during the boot. -/
theorem bootSystem_memory (run : (bootSystem stored calls).Run h s) :
    s.runtime.blob = memoryOf (h ++ [.boot (errorHistoryInit {} calls).blob]) ∧
      s.runtime.lock = (errorHistoryInit {} calls).lock := by
  induction run with
  | init hinit => cases hinit; exact ⟨rfl, rfl⟩
  | step _ hstep ih =>
    obtain ⟨i, hnext⟩ := hstep
    have hmemory := (HistoryStep.ofNext (historyNext_ofBoot hnext)).memory ih.1
    exact ⟨hmemory, (bootNext_lock hnext).trans ih.2⟩

/-- Recording works in every boot that has a mutex. -/
theorem bootNext_record {s : HistoryState} (hlock : s.runtime.lock = true)
    (hcall : call.accepted = true) : bootNext s (.record call) =
      some (.record call,
        { s with
          runtime :=
            { s.runtime with
              blob := appendRecord s.runtime.blob call
              generation := s.runtime.generation + 1 } }) := by
  have hskip : ¬ (¬ call.accepted = true ∨ ¬ s.runtime.lock = true) :=
    not_or.mpr ⟨not_not.mpr hcall, not_not.mpr hlock⟩
  have hlabel : (call.accepted && s.runtime.lock) = true := Bool.and_eq_true_iff.mpr ⟨hcall, hlock⟩
  simp only [bootNext, historyNext, errorHistoryRecord]
  rw [if_neg hskip, if_pos hlabel]

/-! ## Unreadable history is kept -/

/-- If something is stored that the initialisation did not load, no step of the boot writes or
commits and the stored bytes stay as they were. With a mutex, the ring in memory takes every error and
is what a report shows. A blob that was loaded is the start of the ring, with one boot more. -/
theorem unreadableHistory_kept (hanswers : calls.Answers stored)
    (run : (bootSystem stored calls).Run h s) :
    (stored ≠ none → ¬ LoadsBlob stored calls → s.stored = stored ∧
      (∀ err, bootNext s (.setBlob err) = none) ∧ ∀ err, bootNext s (.commit err) = none) ∧
    (calls.mutex = true →
      s.runtime.blob = memoryOf (h ++ [.boot (errorHistoryInit {} calls).blob]) ∧
      (∀ call, call.accepted = true → bootNext s (.record call) =
        some (.record call,
          { s with
            runtime :=
              { s.runtime with
                blob := appendRecord s.runtime.blob call
                generation := s.runtime.generation + 1 } })) ∧
      ∃ pending persistenceError, bootNext s .json =
        some (.json s.runtime.blob pending persistenceError, s)) ∧
    ∀ bytes, calls.ReadsBack bytes → AcceptedBytes bytes →
      (blobCodec.decode bytes).bootId ≠ 0xffffffff →
      (errorHistoryInit {} calls).blob =
        { blobCodec.decode bytes with bootId := (blobCodec.decode bytes).bootId + 1 } := by
  refine ⟨fun hstored hrefused => ?_, fun hmutex => ?_, fun bytes => errorHistoryInit_blob⟩
  · have H := ReadOnly.ofRun hanswers hstored hrefused run
    refine ⟨H.stored, fun err => ?_, fun err => ?_⟩
    · simp only [bootNext, historyNext, H.worker]
    · simp only [bootNext, historyNext, H.worker]
  · obtain ⟨hmemory, hlock⟩ := bootSystem_memory run
    have hready := hlock.trans (errorHistoryInit_lock hmutex)
    exact ⟨hmemory, fun call => bootNext_record hready, _, _, rfl⟩

/-- The calls of an initialisation that finds three bytes. -/
def shortCalls : InitCalls where
  mutex := true
  opened := ESP_OK
  size := (ESP_OK, 3)
  buffer := true
  read := (ESP_ERR_NO_MEM, 0, [])
  task := true

/-- The boot after it, with one error and one flush. -/
def shortBoot : List HistoryLabel × HistoryState :=
  StepSystem.feed bootNext [.record refusedCall, .flush 40000]
    ([], { stored := some [1, 2, 3], runtime := errorHistoryInit {} shortCalls, worker := .idle })

theorem unreadableHistory_kept_short :
    shortBoot.2.stored = some [1, 2, 3] ∧ bootNext shortBoot.2 (.commit ESP_OK) = none := by
  have hanswers : shortCalls.Answers (some [1, 2, 3]) :=
    ⟨fun h => absurd h (by decide), fun _ => ⟨_, rfl, rfl⟩, fun h => absurd h (by decide)⟩
  have hrefused : ¬ LoadsBlob (some [1, 2, 3]) shortCalls := by
    rintro ⟨bytes, hstored, -, haccepted, -⟩
    cases hstored
    exact absurd haccepted.length (by decide)
  have run : (bootSystem (some [1, 2, 3]) shortCalls).Run shortBoot.1 shortBoot.2 :=
    StepSystem.Run.feed _ (.init rfl)
  obtain ⟨hstored, -, hcommit⟩ :=
    (unreadableHistory_kept hanswers run).1 (fun h => by cases h) hrefused
  exact ⟨hstored, hcommit ESP_OK⟩

end ModbusGateway
