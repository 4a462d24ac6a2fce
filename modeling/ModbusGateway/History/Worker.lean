import ModbusGateway.Basic
import ModbusGateway.History.Blob
import ModbusGateway.Theory.Run

/-!
# The history runtime and its worker

The rest of `error_history.c`: initialisation from NVS, recording, the locked section of
`error_history_json` and `flush_pending`. `historySystem` interleaves them: a locked section is one
step, and so are the allocation, `nvs_set_blob` and `nvs_commit` of the one worker. A crash followed
by `error_history_init` is a single step, since nothing is written in between.
-/

namespace ModbusGateway

/-- `history_runtime_t`; `lock` says whether the mutex exists. -/
structure HistoryRuntime where
  lock : Bool := false
  blob : HistoryBlob := .zero
  initialized : Bool := false
  writable : Bool := false
  attempted : Bool := false
  generation : UInt64 := 0
  savedGeneration : UInt64 := 0
  lastAttemptMs : UInt64 := 0
  persistenceError : String := ""

/-- `storage_error`. -/
def storageError (h : HistoryRuntime) (operation : String) (error : EspErr) : HistoryRuntime :=
  { h with
    persistenceError := operation ++ ": 0x" ++ String.ofList (Nat.toDigits 16 error) }

/-! ## Initialisation -/

/-- What the calls of `error_history_init` return: the mutex, the handle, the size query, the
buffer, the read (error, length, bytes) and the task. -/
structure InitCalls where
  mutex : Bool
  opened : EspErr
  size : EspErr × Nat
  buffer : Bool
  read : EspErr × Nat × List UInt8
  task : Bool

/-- The part of `error_history_init` that loads the stored blob. -/
def loadHistory (h : HistoryRuntime) (calls : InitCalls) : HistoryRuntime :=
  if calls.opened ≠ ESP_OK then storageError h "History storage open" calls.opened
  else if calls.size.1 = ESP_ERR_NVS_NOT_FOUND then { h with writable := true }
  else if calls.size.1 ≠ ESP_OK then storageError h "History storage read" calls.size.1
  else if calls.size.2 ≠ HISTORY_BLOB_SIZE then
    { h with
      persistenceError := "Stored history has incompatible size; preserved without writes" }
  else if ¬ calls.buffer then storageError h "History load allocation" ESP_ERR_NO_MEM
  else if calls.read.1 ≠ ESP_OK then storageError h "History storage read" calls.read.1
  else if calls.read.2.1 ≠ HISTORY_BLOB_SIZE ∨
      ¬ validBlob (blobCodec.decode calls.read.2.2) then
    { h with
      persistenceError :=
        "Stored history is corrupt or incompatible; preserved without writes" }
  else { h with blob := blobCodec.decode calls.read.2.2, writable := true }

/-- The boot counter and the generation, after the load. -/
def countBoot (h : HistoryRuntime) : HistoryRuntime :=
  let h :=
    if h.blob.bootId = 0xffffffff then
      { h with writable := false, persistenceError := "History boot counter exhausted" }
    else { h with blob := { h.blob with bootId := h.blob.bootId + 1 } }
  { h with generation := h.generation + 1 }

/-- `error_history_init`. -/
def errorHistoryInit (h : HistoryRuntime) (calls : InitCalls) : HistoryRuntime :=
  if h.initialized then h
  else
    let h :=
      { h with
        initialized := true
        blob :=
          { h.blob with
            magic := HISTORY_MAGIC
            version := HISTORY_VERSION
            size := UInt32.ofNat HISTORY_BLOB_SIZE } }
    if ¬ calls.mutex then storageError h "History mutex allocation" ESP_ERR_NO_MEM
    else
      let h := countBoot (loadHistory { h with lock := true } calls)
      if h.writable ∧ ¬ calls.task then
        storageError { h with writable := false } "History worker allocation" ESP_ERR_NO_MEM
      else h

/-! ## Recording and reporting -/

/-- `error_history_record`. -/
def errorHistoryRecord (h : HistoryRuntime) (call : RecordCall) : HistoryRuntime :=
  if ¬ call.accepted ∨ ¬ h.lock then h
  else { h with blob := appendRecord h.blob call, generation := h.generation + 1 }

/-- `pending_persistence`. -/
def pendingPersistence (h : HistoryRuntime) : Bool := h.generation != h.savedGeneration

/-! ## The worker -/

/-- The first locked section of `flush_pending`; `none` is its early return. -/
def startFlush (h : HistoryRuntime) (nowMs : UInt64) : Option HistoryRuntime :=
  if ¬ h.writable ∨ h.savedGeneration = h.generation ∨
      (h.attempted ∧ nowMs - h.lastAttemptMs < ERROR_HISTORY_FLUSH_INTERVAL_MS) then none
  else some { h with attempted := true, lastAttemptMs := nowMs }

/-- `snapshot->checksum = blob_checksum(snapshot)`. -/
def sealBlob (blob : HistoryBlob) : HistoryBlob := blob.withChecksum (blobChecksum blob)

/-- The last locked section of `flush_pending`. -/
def finishFlush (h : HistoryRuntime) (generation : UInt64) (err : EspErr) : HistoryRuntime :=
  if err = ESP_OK then { h with savedGeneration := generation, persistenceError := "" }
  else storageError h "History persistence" err

/-- Where the worker stands in `flush_pending`; `absent` is a worker that was not created. -/
inductive WorkerPc where
  | absent
  | idle
  | allocate
  | noMemory
  | copy
  | write (snapshot : HistoryBlob) (generation : UInt64)
  | commit (snapshot : HistoryBlob) (generation : UInt64)
  | finish (generation : UInt64) (err : EspErr)

/-- The committed blob, the memory of the running boot and the worker. -/
structure HistoryState where
  stored : Option (List UInt8) := none
  runtime : HistoryRuntime := {}
  worker : WorkerPc := .absent

inductive HistoryInput where
  | boot (task : Bool)
  | record (call : RecordCall)
  | json
  | flush (nowMs : UInt64)
  | allocate (ok : Bool)
  | noMemory
  | copy
  | setBlob (err : EspErr)
  | commit (err : EspErr)
  | finish

/-- One step as seen from outside. `boot` carries what initialisation left in memory, `record` a call
that was recorded, `copy` is the snapshot of a flush and `commit` its successful commit. -/
inductive HistoryLabel where
  | boot (loaded : HistoryBlob)
  | record (call : RecordCall)
  | json (blob : HistoryBlob) (pending : Bool) (persistenceError : String)
  | copy
  | commit
  | finish (err : EspErr)
  | quiet

/-- The calls of an initialisation in which only the creation of the worker may fail. -/
def bootCalls (stored : Option (List UInt8)) (task : Bool) : InitCalls where
  mutex := true
  opened := ESP_OK
  size :=
    match stored with
    | none => (ESP_ERR_NVS_NOT_FOUND, 0)
    | some bytes => (ESP_OK, bytes.length)
  buffer := true
  read := (ESP_OK, (stored.getD []).length, stored.getD [])
  task

def bootRuntime (stored : Option (List UInt8)) (task : Bool) : HistoryRuntime :=
  errorHistoryInit {} (bootCalls stored task)

def historyNext (s : HistoryState) : HistoryInput → Option (HistoryLabel × HistoryState)
  | .boot task =>
    let runtime := bootRuntime s.stored task
    some (.boot runtime.blob,
      { s with runtime, worker := if runtime.writable then .idle else .absent })
  | .record call =>
    let s' := { s with runtime := errorHistoryRecord s.runtime call }
    some (if call.accepted && s.runtime.lock then .record call else .quiet, s')
  | .json =>
    some (.json s.runtime.blob (pendingPersistence s.runtime) s.runtime.persistenceError, s)
  | .flush nowMs =>
    match s.worker with
    | .idle =>
      match startFlush s.runtime nowMs with
      | none => some (.quiet, s)
      | some runtime => some (.quiet, { s with runtime, worker := .allocate })
    | _ => none
  | .allocate ok =>
    match s.worker with
    | .allocate => some (.quiet, { s with worker := if ok then .copy else .noMemory })
    | _ => none
  | .noMemory =>
    match s.worker with
    | .noMemory =>
      some (.quiet,
        { s with
          runtime := storageError s.runtime "History snapshot allocation" ESP_ERR_NO_MEM
          worker := .idle })
    | _ => none
  | .copy =>
    match s.worker with
    | .copy => some (.copy, { s with worker := .write (sealBlob s.runtime.blob) s.runtime.generation })
    | _ => none
  | .setBlob err =>
    match s.worker with
    | .write snapshot generation =>
      some (.quiet,
        { s with
          worker := if err = ESP_OK then .commit snapshot generation else .finish generation err })
    | _ => none
  | .commit err =>
    match s.worker with
    | .commit snapshot generation =>
      if err = ESP_OK then
        some (.commit,
          { s with
            stored := some (blobCodec.encode snapshot)
            worker := .finish generation ESP_OK })
      else some (.quiet, { s with worker := .finish generation err })
    | _ => none
  | .finish =>
    match s.worker with
    | .finish generation err =>
      some (.finish err,
        { s with runtime := finishFlush s.runtime generation err, worker := .idle })
    | _ => none

/-- Every interleaving, from absent storage. -/
def historySystem : StepSystem HistoryState HistoryLabel :=
  .ofFun {} historyNext

end ModbusGateway
