import ModbusGateway.Theory.Binary64
import ModbusGateway.History.Report
import ModbusGateway.Verify.HistoryInit

/-!
# The history as an append-only log

`HistoryLog` is what the history stands for: the errors so far, newest first, and the boot. A flush
keeps the log of its snapshot, and a restart goes back to the log that was kept. The ring represents
its last 32 entries (`Represents`), in memory, in a snapshot and in flash, and the report is a function
of the log.
-/

namespace ModbusGateway

/-! ## The log -/

/-- A call that was recorded, and the boot it fell into. -/
structure LoggedCall where
  call : RecordCall
  bootId : UInt32

/-- The errors so far, newest first, and the running boot. -/
structure HistoryLog where
  entries : List LoggedCall := []
  bootId : UInt32 := 0

def HistoryLog.record (L : HistoryLog) (call : RecordCall) : HistoryLog :=
  { L with entries := ⟨call, L.bootId⟩ :: L.entries }

/-- The boot counter stops at its last value. -/
def nextBoot (bootId : UInt32) : UInt32 := if bootId = 0xffffffff then bootId else bootId + 1

def HistoryLog.restart (L : HistoryLog) : HistoryLog := { L with bootId := nextBoot L.bootId }

/-- The log in memory, in the last snapshot and in flash. -/
structure HistoryLogs where
  memory : HistoryLog := {}
  snapshot : HistoryLog := {}
  flushed : HistoryLog := {}

/-- The logs of a history. -/
def logsOf : List HistoryLabel → HistoryLogs
  | [] => {}
  | .boot _ :: h => { logsOf h with memory := (logsOf h).flushed.restart }
  | .record call :: h => { logsOf h with memory := (logsOf h).memory.record call }
  | .copy :: h => { logsOf h with snapshot := (logsOf h).memory }
  | .commit :: h => { logsOf h with flushed := (logsOf h).snapshot }
  | _ :: h => logsOf h

/-- A log is no longer than the errors of the run. -/
theorem logsOf_length (h : List HistoryLabel) :
    (logsOf h).memory.entries.length ≤ records h ∧
      (logsOf h).snapshot.entries.length ≤ records h ∧
      (logsOf h).flushed.entries.length ≤ records h := by
  induction h with
  | nil => exact ⟨Nat.zero_le _, Nat.zero_le _, Nat.zero_le _⟩
  | cons l h ih =>
    obtain ⟨hmemory, hsnapshot, hflushed⟩ := ih
    have hle : records h ≤ records (l :: h) := records_le_cons
    cases l with
    | record call =>
      have hcount : records (.record call :: h) = records h + 1 := List.countP_cons_of_pos rfl
      refine ⟨?_, hsnapshot.trans hle, hflushed.trans hle⟩
      simp only [logsOf, HistoryLog.record, List.length_cons, hcount]
      exact Nat.succ_le_succ hmemory
    | boot => exact ⟨hflushed.trans hle, hsnapshot.trans hle, hflushed.trans hle⟩
    | copy => exact ⟨hmemory.trans hle, hmemory.trans hle, hflushed.trans hle⟩
    | commit => exact ⟨hmemory.trans hle, hsnapshot.trans hle, hsnapshot.trans hle⟩
    | _ => exact ⟨hmemory.trans hle, hsnapshot.trans hle, hflushed.trans hle⟩

/-! ## The report of a log -/

/-- A text as a field of that size keeps it. -/
def truncated (source : Fin n → UInt8) : List UInt8 :=
  ((List.ofFn source).take (n - 1)).takeWhile (· ≠ 0)

/-- The entry of the report for the error with a sequence number. -/
def LoggedCall.json (e : LoggedCall) (sequence : Nat) : Cjson :=
  .object
    [("sequence", .number (UInt64.ofNat sequence).toFloat),
      ("boot_id", .number e.bootId.toFloat),
      ("uptime_ms", .number e.call.uptimeMs.toFloat),
      ("utc_ms", if 0 < e.call.utcMs then .number (.ofModel (.ofInt64 e.call.utcMs)) else .null),
      ("host", .string (truncated e.call.request.host)),
      ("port", .number e.call.request.port.toFloat),
      ("unit", .number e.call.request.unit.toFloat),
      ("function", .number e.call.request.function.toFloat),
      ("offset", .number e.call.request.offset.toFloat),
      ("quantity", .number e.call.request.quantity.toFloat),
      ("transaction_id", .number e.call.request.transactionId.toFloat),
      ("config_revision", .number e.call.request.configRevision.toFloat),
      ("profile", .string (truncated e.call.request.profile)),
      ("phase", .string (truncated e.call.request.phase)),
      ("error", .string (literalBytes (mbErrorString e.call.result.error))),
      ("error_code", .number e.call.result.error.toFloat),
      ("exception_code", .number e.call.result.exceptionCode.toFloat),
      ("system_error", .number (.ofModel (.ofInt32 e.call.result.systemError))),
      ("elapsed_ms", .number e.call.result.elapsedMs.toFloat)]

/-- The report: the last 32 errors, newest first and numbered down from their number. -/
def HistoryLog.json (L : HistoryLog) (pending : Bool) (persistenceError : String)
    (clockSynchronized : Bool) : Cjson :=
  .object
    [("events", .array ((L.entries.take 32).mapIdx fun age e => e.json (L.entries.length - age))),
      ("capacity", .number (32 : UInt32).toFloat),
      ("count", .number (UInt32.ofNat (min L.entries.length 32)).toFloat),
      ("total_errors", .number (UInt64.ofNat L.entries.length).toFloat),
      ("overwritten", .number (UInt64.ofNat (L.entries.length - min L.entries.length 32)).toFloat),
      ("boot_id", .number L.bootId.toFloat),
      ("clock_synchronized", .bool clockSynchronized),
      ("pending_persistence", .bool pending),
      ("persistence_error", .string (literalBytes persistenceError))]

/-! ## What the ring represents -/

/-- The event of an entry. -/
def LoggedCall.event (e : LoggedCall) (sequence : Nat) : HistoryEvent :=
  { recordedEvent { HistoryBlob.zero with bootId := e.bootId } e.call with
    sequence := UInt64.ofNat sequence }

/-- The ring holds the last 32 entries of the log. -/
structure Represents (b : HistoryBlob) (L : HistoryLog) : Prop where
  consistent : b.Consistent
  boot : b.bootId = L.bootId
  total : b.totalErrors.toNat = L.entries.length
  events : ∀ age < 32, ∀ e, L.entries[age]? = some e →
    b.events (ringSlot (L.entries.length - age)) = e.event (L.entries.length - age)

theorem HistoryBlob.fresh_represents : Represents .fresh {} where
  consistent := HistoryBlob.fresh_consistent
  boot := rfl
  total := rfl
  events age _ e he := by
    rw [List.getElem?_nil] at he
    cases he

theorem Represents.record (H : Represents b L) (hboot : b.bootId ≠ 0)
    (htotal : b.totalErrors.toNat + 1 < 2 ^ 64) (hcall : call.accepted = true) :
    Represents (appendRecord b call) (L.record call) where
  consistent := H.consistent.append hboot htotal hcall
  boot := H.boot
  total := by
    rw [appendRecord_totalErrors htotal, H.total]
    rfl
  events age hage e he := by
    have hlength : (L.record call).entries.length = L.entries.length + 1 := rfl
    rw [hlength]
    match age with
    | 0 =>
      have hentry : e = ⟨call, L.bootId⟩ := (Option.some.inj he).symm
      have hnew := H.consistent.append_new call
      rw [H.total] at hnew
      have hsequence : b.totalErrors + 1 = UInt64.ofNat (L.entries.length + 1) := by
        apply UInt64.toNat_inj.mp
        have hone : (1 : UInt64).toNat = 1 := rfl
        rw [UInt64.toNat_add, UInt64.toNat_ofNat', H.total, hone]
      rw [Nat.sub_zero, hnew, hentry, LoggedCall.event, ← hsequence, ← H.boot]
      rfl
    | age + 1 =>
      have hin : L.entries[age]? = some e := he
      have hlt : age < L.entries.length := (List.getElem?_eq_some_iff.mp hin).1
      have hcount := H.total
      have hage' : L.entries.length + 1 - (age + 1) = L.entries.length - age := by omega
      rw [hage', H.consistent.append_old (by omega) (by omega) (by omega)]
      exact H.events age (by omega) e hin

theorem le_nextBoot (bootId : UInt32) : bootId ≤ nextBoot bootId := by
  unfold nextBoot
  split
  · exact UInt32.le_refl _
  · next hid =>
    have hmax : bootId.toNat ≠ 2 ^ 32 - 1 := fun h => hid (UInt32.toNat_inj.mp h)
    have hlt := bootId.toNat_lt
    have hone : (1 : UInt32).toNat = 1 := rfl
    rw [UInt32.le_iff_toNat_le, UInt32.toNat_add, hone]
    omega

theorem nextBoot_ne_zero (bootId : UInt32) : nextBoot bootId ≠ 0 := by
  intro hzero
  have hle := UInt32.le_iff_toNat_le.mp (le_nextBoot bootId)
  have h0 : (0 : UInt32).toNat = 0 := rfl
  rw [hzero, h0] at hle
  have hid : bootId = 0 := UInt32.toNat_inj.mp (by omega)
  rw [hid] at hzero
  cases hzero

theorem Represents.restart {b : HistoryBlob} (H : Represents b L) :
    Represents { b with bootId := nextBoot b.bootId } L.restart :=
  { H with
    consistent := H.consistent.boot (le_nextBoot _)
    boot := congrArg nextBoot H.boot }

theorem Represents.withChecksum (H : Represents b L) (sum : UInt32) :
    Represents (b.withChecksum sum) L :=
  ⟨H.consistent.withChecksum sum, H.boot, H.total, H.events⟩

theorem Represents.seal (H : Represents b L) : Represents (sealBlob b) L :=
  H.withChecksum (blobChecksum b)

/-! ## The report of the ring -/

theorem copyText_succ (source : Fin (n + 1) → UInt8) (hhead : source 0 ≠ 0) (i : Fin n) :
    copyText source i.succ = copyText (fun i => source i.succ) i := by
  have hall : (∀ j ≤ i.succ, source j ≠ 0) ↔ ∀ j ≤ i, source j.succ ≠ 0 := by
    rw [Fin.forall_fin_succ]
    simp [hhead]
  refine if_congr (and_congr ?_ hall) rfl rfl
  rw [Fin.val_succ]
  omega

/-- What `copy_text` stores is read back as the truncated text. -/
theorem arrayText_copyText (source : Fin n → UInt8) :
    arrayText (copyText source) = truncated source := by
  induction n with
  | zero => rfl
  | succ n ih =>
    have htail := ih fun i => source i.succ
    unfold arrayText truncated at htail ⊢
    rw [List.ofFn_succ, List.ofFn_succ, Nat.add_sub_cancel]
    by_cases hroom : 0 < n
    · rw [List.take_cons hroom]
      by_cases hhead : source 0 = 0
      · have hcopy : copyText source 0 = 0 := if_neg fun h => h.2 0 (Fin.le_refl 0) hhead
        rw [List.takeWhile_cons_of_neg (by simp [hcopy]), List.takeWhile_cons_of_neg (by simp [hhead])]
      · have hcopy : copyText source 0 = source 0 := by
          refine if_pos ⟨by simpa using hroom, fun j hj => ?_⟩
          rw [Fin.le_zero_iff.mp hj]
          exact hhead
        rw [List.takeWhile_cons_of_pos (by simp [hcopy, hhead]),
          List.takeWhile_cons_of_pos (by simp [hhead]), hcopy]
        simp only [copyText_succ source hhead, htail]
    · have hcopy : copyText source 0 = 0 := if_neg fun h => hroom (by simpa using h.1)
      have hnone : n = 0 := by omega
      rw [List.takeWhile_cons_of_neg (by simp [hcopy]), List.take_eq_nil_iff.mpr (.inl hnone),
        List.takeWhile_nil]

theorem eventJson_event (e : LoggedCall) (sequence : Nat) :
    eventJson (e.event sequence) = e.json sequence := by
  have hutc : (if (e.event sequence).utcMs ≠ 0 then
      Cjson.number (.ofModel (.ofInt64 (e.event sequence).utcMs)) else .null) =
      if 0 < e.call.utcMs then .number (.ofModel (.ofInt64 e.call.utcMs)) else .null := by
    have hstored : (e.event sequence).utcMs = if 0 < e.call.utcMs then e.call.utcMs else 0 := rfl
    rw [hstored]
    by_cases hpos : 0 < e.call.utcMs
    · have hne : e.call.utcMs ≠ 0 := fun h => Int64.lt_irrefl (h ▸ hpos)
      rw [if_pos hpos, if_pos hpos, if_pos hne]
    · rw [if_neg hpos, if_neg hpos, if_neg (not_not.mpr rfl)]
  have hhost := arrayText_copyText e.call.request.host
  have hprofile := arrayText_copyText e.call.request.profile
  have hphase := arrayText_copyText e.call.request.phase
  unfold eventJson LoggedCall.json
  rw [hutc, ← hhost, ← hprofile, ← hphase]
  rfl

/-- The report of a ring is the report of its log. -/
theorem Represents.snapshotJson (H : Represents b L) (pending : Bool) (persistenceError : String)
    (clockSynchronized : Bool) :
    snapshotJson b pending persistenceError clockSynchronized =
      L.json pending persistenceError clockSynchronized := by
  have htotal : b.totalErrors = UInt64.ofNat L.entries.length := by
    rw [← H.total, UInt64.ofNat_toNat]
  have hcount : b.count.toNat = min L.entries.length 32 := by
    rw [H.consistent.count, H.total]
  have hcount' : b.count = UInt32.ofNat (min L.entries.length 32) := by
    rw [← hcount, UInt32.ofNat_toNat]
  have hoverwritten : b.totalErrors - b.count.toUInt64 =
      UInt64.ofNat (L.entries.length - min L.entries.length 32) := by
    have hle : b.count.toUInt64 ≤ b.totalErrors := by
      rw [UInt64.le_iff_toNat_le, UInt32.toNat_toUInt64, hcount, H.total]
      exact Nat.min_le_left _ _
    have hsub := UInt64.toNat_sub_of_le _ _ hle
    rw [UInt32.toNat_toUInt64, hcount, H.total] at hsub
    rw [← hsub, UInt64.ofNat_toNat]
  have hevents : (List.range b.count.toNat).map (fun age => eventJson (b.events (eventIndex b age))) =
      (L.entries.take 32).mapIdx fun age e => e.json (L.entries.length - age) := by
    apply List.ext_getElem
    · rw [List.length_map, List.length_range, List.length_mapIdx, List.length_take, hcount]
      omega
    · intro age hleft hright
      rw [List.length_mapIdx, List.length_take] at hright
      have hentry : L.entries[age]? = some L.entries[age] := List.getElem?_eq_getElem (by omega)
      have hnext := H.consistent.next
      rw [List.getElem_map, List.getElem_range, List.getElem_mapIdx, List.getElem_take,
        eventIndex_eq hnext (by omega) (by rw [H.total]; omega), H.total,
        H.events age (by omega) _ hentry, eventJson_event]
  unfold ModbusGateway.snapshotJson HistoryLog.json
  rw [hevents, hoverwritten, htotal, hcount', H.boot]
  rfl

/-! ## Runs -/

/-- What initialisation leaves in memory after an acceptable store, whatever the boot counter. -/
theorem bootRuntime_blob (h : Acceptable stored) (task : Bool) :
    (bootRuntime stored task).lock = true ∧ (bootRuntime stored task).blob =
      { storedBlob stored with bootId := nextBoot (storedBlob stored).bootId } := by
  have hmutex : (bootCalls stored task).mutex = true := rfl
  have hload := loadHistory_stored h task beforeLoad rfl
  obtain ⟨_, _, hinit, -⟩ := errorHistoryInit_mutex hmutex
  refine ⟨errorHistoryInit_lock hmutex, ?_⟩
  unfold bootRuntime
  rw [hinit, hload]
  by_cases hid : (storedBlob stored).bootId = 0xffffffff
  · simp only [countBoot, nextBoot, if_pos hid]
  · simp only [countBoot, nextBoot, if_neg hid]

/-- Memory, snapshot and flash represent the logs of the run. -/
structure Follows (h : List HistoryLabel) (s : HistoryState) : Prop where
  lock : s.worker ≠ .absent → s.runtime.lock = true
  memory : s.runtime.lock = true →
    Represents s.runtime.blob (logsOf h).memory ∧ s.runtime.blob.bootId ≠ 0
  snapshot : ∀ b g, s.worker.Holds b g →
    validBlob b = true ∧ Represents b (logsOf h).snapshot
  flushed : Acceptable s.stored ∧ Represents (storedBlob s.stored) (logsOf h).flushed

/-- A step that leaves the logs, the ring and flash alone. -/
theorem Follows.quiet (H : Follows h s) (hlogs : logsOf (l :: h) = logsOf h)
    (hlock : r.lock = s.runtime.lock) (hblob : r.blob = s.runtime.blob)
    (hpc : worker ≠ .absent → s.worker ≠ .absent)
    (hheld : ∀ b g, worker.Holds b g → s.worker.Holds b g) :
    Follows (l :: h) { s with runtime := r, worker } where
  lock hne := hlock.trans (H.lock (hpc hne))
  memory hready := by
    rw [hlogs]
    dsimp only
    rw [hblob]
    exact H.memory (hlock.symm.trans hready)
  snapshot b g hb := by
    rw [hlogs]
    exact H.snapshot b g (hheld b g hb)
  flushed := by
    rw [hlogs]
    exact H.flushed

theorem Follows.step (H : Follows h s) (hstep : HistoryStep s l s')
    (hrecords : records (l :: h) < 2 ^ 64) : Follows (l :: h) s' := by
  cases hstep with
  | @boot task =>
    obtain ⟨hlock, hblob⟩ := bootRuntime_blob H.flushed.1 task
    refine ⟨fun _ => hlock, fun _ => ⟨?_, ?_⟩, fun b g hheld => ?_, H.flushed⟩
    · rw [hblob]
      exact H.flushed.2.restart
    · rw [hblob]
      exact nextBoot_ne_zero _
    · dsimp only at hheld
      split at hheld
      · cases hheld
      · cases hheld
  | @record call haccepted hlock =>
    obtain ⟨hmemory, hboot⟩ := H.memory hlock
    have hlength := (logsOf_length h).1
    have hcount : records (.record call :: h) = records h + 1 := List.countP_cons_of_pos rfl
    have htotal : s.runtime.blob.totalErrors.toNat + 1 < 2 ^ 64 := by
      rw [hmemory.total]
      omega
    exact ⟨H.lock, fun _ => ⟨hmemory.record hboot htotal haccepted, hboot⟩, H.snapshot, H.flushed⟩
  | json => exact H.quiet rfl rfl rfl id fun _ _ h => h
  | quiet hr hpc hheld _ => exact H.quiet rfl hr.lock hr.blob hpc hheld
  | copy hpc =>
    have hmemory := H.memory (H.lock hpc)
    refine ⟨fun _ => H.lock hpc, fun _ => hmemory, fun b g hheld => ?_, H.flushed⟩
    obtain ⟨rfl, -⟩ := hheld
    exact ⟨validBlob_seal hmemory.1.consistent, hmemory.1.seal⟩
  | @commit snapshot generation hworker =>
    have hlock := H.lock fun habsent => by rw [hworker] at habsent; cases habsent
    obtain ⟨hvalid, hsnapshot⟩ := H.snapshot snapshot generation (by rw [hworker]; exact ⟨rfl, rfl⟩)
    refine ⟨fun _ => hlock, fun _ => H.memory hlock, fun _ _ hheld => False.elim hheld,
      fun bytes hbytes => ?_, ?_⟩
    · cases hbytes
      rw [Codec.decode_encode]
      exact ⟨blobCodec.length_encode _, hvalid⟩
    · simp only [storedBlob, Codec.decode_encode]
      exact hsnapshot
  | @finish generation err hworker =>
    have hsame : (finishFlush s.runtime generation err).lock = s.runtime.lock ∧
        (finishFlush s.runtime generation err).blob = s.runtime.blob := by
      unfold finishFlush
      split
      · exact ⟨rfl, rfl⟩
      · exact ⟨rfl, rfl⟩
    have hpc : s.worker ≠ .absent := fun habsent => by rw [hworker] at habsent; cases habsent
    exact H.quiet rfl hsame.1 hsame.2 (fun _ => hpc) fun _ _ hheld => False.elim hheld

theorem Follows.ofRun (run : historySystem.Run h s) (hrecords : records h < 2 ^ 64) :
    Follows h s := by
  induction run with
  | init hinit =>
    cases hinit
    exact ⟨fun h => absurd rfl h, fun h => Bool.noConfusion h, fun _ _ h => False.elim h,
      fun _ h => (by cases h), HistoryBlob.fresh_represents⟩
  | step _ hstep ih =>
    obtain ⟨i, hnext⟩ := hstep
    exact (ih (Nat.lt_of_le_of_lt records_le_cons hrecords)).step (.ofNext hnext) hrecords

/-! ## The history refines the log -/

/-- In every boot the report is that of the log: the last 32 errors, newest first, numbered down from the
number of errors; integers go through `double`, which is exact below `2 ^ 53`. The ring in memory, sealed,
is always accepted. What is in flash is accepted, represents the log that was flushed, and is the ring of
the next boot. -/
theorem history_refinesLog (run : historySystem.Run h s) (hrecords : records h < 2 ^ 64) :
    (s.runtime.lock = true → validBlob (sealBlob s.runtime.blob) = true ∧
      ∀ clockSynchronized, errorHistoryJson s.runtime clockSynchronized true =
        some ((logsOf h).memory.json (pendingPersistence s.runtime) s.runtime.persistenceError
          clockSynchronized)) ∧
    (∀ bytes, s.stored = some bytes → bytes.length = HISTORY_BLOB_SIZE ∧
      validBlob (blobCodec.decode bytes) = true ∧
      Represents (blobCodec.decode bytes) (logsOf h).flushed ∧
      ∀ task, (bootRuntime s.stored task).blob.SameHistory (blobCodec.decode bytes)) ∧
    ∀ n < 2 ^ 53, Binary64.Holds (UInt64.ofNat n).toFloat n := by
  have H := Follows.ofRun run hrecords
  refine ⟨fun hlock => ?_, fun bytes hbytes => ?_, fun n => Binary64.holds_ofUInt64⟩
  · obtain ⟨hmemory, -⟩ := H.memory hlock
    refine ⟨validBlob_seal hmemory.consistent, fun clockSynchronized => ?_⟩
    simp only [errorHistoryJson, if_true, hmemory.snapshotJson]
  · obtain ⟨haccepted, hflushed⟩ := H.flushed
    obtain ⟨hlength, hvalid⟩ := haccepted bytes hbytes
    rw [hbytes] at hflushed
    refine ⟨hlength, hvalid, hflushed, fun task => ?_⟩
    rw [(bootRuntime_blob haccepted task).2, hbytes]
    exact ⟨rfl, rfl, rfl, rfl⟩

/-- A restart and an error. -/
theorem restarted_run (hrun : historySystem.Run h s) (hcall : call.accepted = true) : ∃ s',
    historySystem.Run (.record call :: .boot (bootRuntime s.stored true).blob :: h) s' ∧
      s'.runtime.lock = true ∧ s'.stored = s.stored := by
  have hlock : (bootRuntime s.stored true).lock = true := errorHistoryInit_lock rfl
  generalize hr : bootRuntime s.stored true = r at hlock
  have hboot : historySystem.Run (.boot r.blob :: h)
      { s with runtime := r, worker := if r.writable then .idle else .absent } :=
    hrun.step ⟨.boot true, by rw [← hr]; rfl⟩
  refine ⟨_, record_run hboot hlock hcall, ?_, rfl⟩
  show (errorHistoryRecord r call).lock = true
  unfold errorHistoryRecord
  split
  · exact hlock
  · exact hlock

/-- An error `k` ms after the boot. -/
def timedCall (k : Nat) : RecordCall := { refusedCall with uptimeMs := UInt64.ofNat k }

/-- A boot with 37 errors; the flush behind 36 of them is the last. -/
def fullRing : List HistoryInput :=
  .boot true :: (List.range 36).map (fun k => .record (timedCall k)) ++
    [.flush 40000, .allocate true, .copy, .setBlob ESP_OK, .commit ESP_OK, .finish, .record (timedCall 36)]

/-- After a restart and one more error the log has 37 entries, of which the report has the last 32, and flash
holds those of the flush. -/
theorem history_refinesLog_restarted : ∃ h s, historySystem.Run h s ∧
    (logsOf h).memory.entries.map (fun e => (e.call.uptimeMs, e.bootId)) =
      (20, 2) :: (List.range 36).reverse.map (fun k => (UInt64.ofNat k, 1)) ∧
    errorHistoryJson s.runtime false true = some ((logsOf h).memory.json (pendingPersistence s.runtime)
      s.runtime.persistenceError false) ∧
    ∃ bytes, s.stored = some bytes ∧ Represents (blobCodec.decode bytes) (logsOf h).flushed ∧
      (logsOf h).flushed.entries.length = 36 := by
  obtain ⟨s, hrun, hlock, hstored⟩ :=
    restarted_run (historySystem_run fullRing) (by decide : refusedCall.accepted = true)
  obtain ⟨hreport, hflash, -⟩ := history_refinesLog hrun (by decide +kernel)
  obtain ⟨bytes, hbytes⟩ : ∃ bytes, (historyAfter fullRing).2.stored = some bytes :=
    Option.isSome_iff_exists.mp (by decide +kernel)
  have hbytes := hstored.trans hbytes
  exact ⟨_, s, hrun, by decide +kernel, (hreport hlock).2 false, bytes, hbytes, (hflash bytes hbytes).2.2.1,
    by decide +kernel⟩

/-! ## Beyond 53 bits -/

/-- `cJSON_GetObjectItem`. -/
def Cjson.field : Cjson → String → Option Cjson
  | .object members, key => (members.find? fun m => m.1 = key).map Prod.snd
  | _, _ => none

/-- A boot that has recorded `n` errors. -/
theorem logsOf_unflushed (call : RecordCall) (loaded : HistoryBlob) (n : Nat) :
    (logsOf (List.replicate n (.record call) ++ [.boot loaded])).memory.entries.length = n := by
  induction n with
  | zero => rfl
  | succ n ih =>
    rw [List.replicate_succ, List.cons_append]
    simp only [logsOf, HistoryLog.record, List.length_cons, ih]

/-- The double next to `2 ^ 53 + 1` is `2 ^ 53`. -/
theorem holds_rounded :
    Binary64.Holds (UInt64.ofNat (2 ^ 53 + 1)).toFloat (2 ^ 53) := by
  have hnumber : Binary64.number (UInt64.ofNat (2 ^ 53 + 1)).toFloat.toModel.unpack =
      some (Binary64.scaled .positive (2 ^ 52) 1) := rfl
  unfold Binary64.Holds
  rw [hnumber, Binary64.scaled_positive]
  norm_num

/-- After `2 ^ 53 + 1` errors the report gives another number of errors. -/
theorem history_totalRounded : ¬ ∀ h s, historySystem.Run h s → records h < 2 ^ 64 →
    s.runtime.lock = true →
    ∃ v, (errorHistoryJson s.runtime false true).bind (·.field "total_errors") = some (.number v) ∧
      Binary64.Holds v (logsOf h).memory.entries.length := by
  intro hclaim
  have hcall : refusedCall.accepted = true := by decide
  obtain ⟨s, hrun, hlock, -⟩ := unflushed_run hcall (2 ^ 53 + 1)
  have hrecords : records (List.replicate (2 ^ 53 + 1) (.record refusedCall) ++
      [.boot (bootRuntime none true).blob]) < 2 ^ 64 := by
    rw [records, List.countP_append, List.countP_replicate]
    decide
  have hlength := logsOf_unflushed refusedCall (bootRuntime none true).blob (2 ^ 53 + 1)
  obtain ⟨v, hfield, hholds⟩ := hclaim _ s hrun hrecords hlock
  have hmemory := ((Follows.ofRun hrun hrecords).memory hlock).1
  have hreport : (errorHistoryJson s.runtime false true).bind (·.field "total_errors") =
      some (.number s.runtime.blob.totalErrors.toFloat) := rfl
  have htotal : s.runtime.blob.totalErrors = UInt64.ofNat (2 ^ 53 + 1) := by
    rw [← hlength, ← hmemory.total, UInt64.ofNat_toNat]
  rw [hreport, htotal] at hfield
  cases hfield
  rw [hlength] at hholds
  have hequal := hholds.unique holds_rounded
  norm_num at hequal

end ModbusGateway
