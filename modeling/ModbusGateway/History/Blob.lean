import ModbusGateway.Basic
import ModbusGateway.Theory.Layout

/-!
# The history blob

The flash format of `error_history.c`. The structures are the C structures on the 32-bit target,
padding included, and `blobCodec` is their memory image; an array is a function of its index. The
checksum and the consistency test of a stored blob are `blobChecksum` and `validBlob`.
-/

namespace ModbusGateway

def ERROR_HISTORY_CAPACITY : Nat := 32
def ERROR_HISTORY_FLUSH_INTERVAL_MS : UInt64 := 30000
def HISTORY_MAGIC : UInt32 := 0x4d424548
def HISTORY_VERSION : UInt32 := 1

instance (priority := high) neZeroCapacity : NeZero 32 := ⟨by decide⟩

/-- `error_history_request_t`. -/
structure HistoryRequest where
  host : Fin 16 → UInt8
  port : UInt16
  offset : UInt16
  quantity : UInt16
  transactionId : UInt16
  unit : UInt8
  function : UInt8
  pad : Fin 2 → UInt8
  configRevision : UInt32
  profile : Fin 32 → UInt8
  phase : Fin 16 → UInt8

/-- `mb_result_t` as it lies in memory; the error need not be an enumerator. -/
structure RawResult where
  error : UInt32
  exceptionCode : UInt8
  pad : Fin 3 → UInt8
  elapsedMs : UInt32
  systemError : Int32

/-- `history_event_t`. -/
structure HistoryEvent where
  sequence : UInt64
  uptimeMs : UInt64
  utcMs : Int64
  bootId : UInt32
  request : HistoryRequest
  result : RawResult
  pad : Fin 4 → UInt8

/-- `history_blob_t`. -/
structure HistoryBlob where
  magic : UInt32
  version : UInt32
  size : UInt32
  checksum : UInt32
  bootId : UInt32
  count : UInt32
  next : UInt32
  reserved : UInt32
  totalErrors : UInt64
  events : Fin 32 → HistoryEvent

/-! ## The memory image -/

open Codec in
def requestCodec : Codec HistoryRequest 80 :=
  ((array 16 byte).pair (word16.pair (word16.pair (word16.pair (word16.pair (byte.pair (byte.pair
    ((array 2 byte).pair (word32.pair ((array 32 byte).pair (array 16 byte))))))))))).iso
  { toFun := fun ⟨a, b, c, d, e, f, g, h, i, j, k⟩ => ⟨a, b, c, d, e, f, g, h, i, j, k⟩
    invFun := fun ⟨a, b, c, d, e, f, g, h, i, j, k⟩ => ⟨a, b, c, d, e, f, g, h, i, j, k⟩
    left_inv := fun _ => rfl
    right_inv := fun _ => rfl }

open Codec in
def resultCodec : Codec RawResult 16 :=
  (word32.pair (byte.pair ((array 3 byte).pair (word32.pair int32)))).iso
  { toFun := fun ⟨a, b, c, d, e⟩ => ⟨a, b, c, d, e⟩
    invFun := fun ⟨a, b, c, d, e⟩ => ⟨a, b, c, d, e⟩
    left_inv := fun _ => rfl
    right_inv := fun _ => rfl }

open Codec in
def eventCodec : Codec HistoryEvent 128 :=
  (word64.pair (word64.pair (int64.pair (word32.pair (requestCodec.pair (resultCodec.pair
    (array 4 byte))))))).iso
  { toFun := fun ⟨a, b, c, d, e, f, g⟩ => ⟨a, b, c, d, e, f, g⟩
    invFun := fun ⟨a, b, c, d, e, f, g⟩ => ⟨a, b, c, d, e, f, g⟩
    left_inv := fun _ => rfl
    right_inv := fun _ => rfl }

/-- `sizeof(history_blob_t)`. -/
def HISTORY_BLOB_SIZE : Nat := 4136

open Codec in
def blobCodec : Codec HistoryBlob 4136 :=
  (word32.pair (word32.pair (word32.pair (word32.pair (word32.pair (word32.pair (word32.pair (word32.pair (word64.pair
    (array 32 eventCodec)))))))))).iso
  { toFun := fun ⟨a, b, c, d, e, f, g, h, i, j⟩ => ⟨a, b, c, d, e, f, g, h, i, j⟩
    invFun := fun ⟨a, b, c, d, e, f, g, h, i, j⟩ => ⟨a, b, c, d, e, f, g, h, i, j⟩
    left_inv := fun _ => rfl
    right_inv := fun _ => rfl }

/-- The object after `memset(object, 0, size)`. -/
def HistoryEvent.zero : HistoryEvent where
  sequence := 0
  uptimeMs := 0
  utcMs := 0
  bootId := 0
  request :=
    { host := fun _ => 0, port := 0, offset := 0, quantity := 0, transactionId := 0, unit := 0
      function := 0, pad := fun _ => 0, configRevision := 0, profile := fun _ => 0
      phase := fun _ => 0 }
  result :=
    { error := 0, exceptionCode := 0, pad := fun _ => 0, elapsedMs := 0, systemError := 0 }
  pad _ := 0

def HistoryBlob.zero : HistoryBlob where
  magic := 0
  version := 0
  size := 0
  checksum := 0
  bootId := 0
  count := 0
  next := 0
  reserved := 0
  totalErrors := 0
  events _ := .zero

/-! ## Checksum and consistency -/

/-- One byte of the reflected CRC-32. -/
def crcByte (crc : UInt32) (byte : UInt8) : UInt32 :=
  (List.range 8).foldl
    (fun crc _ => (crc >>> 1) ^^^ (0xedb88320 &&& (0 - (crc &&& 1)))) (crc ^^^ byte.toUInt32)

def HistoryBlob.withChecksum (blob : HistoryBlob) (checksum : UInt32) : HistoryBlob :=
  { blob with checksum }

/-- `blob_checksum`: the bytes of the checksum itself count as zero. -/
def blobChecksum (blob : HistoryBlob) : UInt32 :=
  ~~~ ((blobCodec.encode (blob.withChecksum 0)).foldl crcByte 0xffffffff)

/-- The slot of the event that is `age` events old. -/
def eventIndex (blob : HistoryBlob) (age : Nat) : Fin 32 :=
  Fin.ofNat 32 (blob.next.toNat + ERROR_HISTORY_CAPACITY - 1 - age)

/-- The test of `valid_blob` on the event that is `age` events old. -/
def validEvent (blob : HistoryBlob) (age : Nat) : Bool :=
  let event := blob.events (eventIndex blob age)
  event.sequence == blob.totalErrors - UInt64.ofNat age && event.bootId != 0 &&
    event.bootId ≤ blob.bootId && !(event.utcMs < 0) && event.request.host 15 == 0 &&
    event.request.profile 31 == 0 && event.request.phase 15 == 0 && 0 < event.result.error &&
    event.result.error ≤ 12

/-- The tests of `valid_blob` on the counters. -/
def validCounters (blob : HistoryBlob) : Bool :=
  blob.count ≤ 32 && blob.next < 32 && blob.count.toUInt64 ≤ blob.totalErrors &&
    blob.count.toUInt64 == (if blob.totalErrors < 32 then blob.totalErrors else 32) &&
    blob.next.toUInt64 == blob.totalErrors % 32

/-- `valid_blob`. -/
def validBlob (blob : HistoryBlob) : Bool :=
  blob.magic == HISTORY_MAGIC && blob.version == HISTORY_VERSION &&
    blob.size == UInt32.ofNat HISTORY_BLOB_SIZE && blob.checksum == blobChecksum blob &&
    validCounters blob && (List.range blob.count.toNat).all (validEvent blob)

/-! ## Recording -/

/-- The arguments of `error_history_record`. -/
structure RecordCall where
  request : HistoryRequest
  result : RawResult
  uptimeMs : UInt64
  utcMs : Int64

/-- The result is an error of the enumeration. -/
def RecordCall.accepted (call : RecordCall) : Bool :=
  0 < call.result.error && call.result.error ≤ 12

/-- `copy_text` into a zeroed array of the same capacity. -/
def copyText (source : Fin n → UInt8) (i : Fin n) : UInt8 :=
  if i.val + 1 < n ∧ ∀ j ≤ i, source j ≠ 0 then source i else 0

/-- The event `error_history_record` stores. -/
def recordedEvent (blob : HistoryBlob) (call : RecordCall) : HistoryEvent where
  sequence := blob.totalErrors + 1
  uptimeMs := call.uptimeMs
  utcMs := if 0 < call.utcMs then call.utcMs else 0
  bootId := blob.bootId
  request :=
    { call.request with
      host := copyText call.request.host
      profile := copyText call.request.profile
      phase := copyText call.request.phase
      pad := fun _ => 0 }
  result := { call.result with pad := fun _ => 0 }
  pad _ := 0

/-- The ring after a call that was accepted. -/
def appendRecord (blob : HistoryBlob) (call : RecordCall) : HistoryBlob :=
  { blob with
    events := Function.update blob.events (Fin.ofNat 32 blob.next.toNat) (recordedEvent blob call)
    totalErrors := blob.totalErrors + 1
    next := (blob.next + 1) % 32
    count := if blob.count < 32 then blob.count + 1 else blob.count }

end ModbusGateway
