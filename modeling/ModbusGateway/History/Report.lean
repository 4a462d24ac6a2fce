import ModbusGateway.History.Worker

/-!
# The history report

`error_history_json`. A cJSON number is a double, so every integer of the report goes through the
conversion to `double`; a cJSON string is the bytes before the NUL.
-/

namespace ModbusGateway

/-- A tree that cJSON has built. -/
inductive Cjson where
  | null
  | bool (b : Bool)
  | number (value : Float)
  | string (bytes : List UInt8)
  | array (items : List Cjson)
  | object (members : List (String × Cjson))

/-- The bytes of a string literal. -/
def literalBytes (s : String) : List UInt8 := s.toList.map fun c => UInt8.ofNat c.toNat

/-- The string that a `char` array holds. -/
def arrayText (source : Fin n → UInt8) : List UInt8 := (List.ofFn source).takeWhile (· ≠ 0)

/-- `mb_error_string` of an error as it lies in memory. -/
def mbErrorString (error : UInt32) : String :=
  match error.toNat with
  | 0 => "ok"
  | 1 => "argument"
  | 2 => "connect"
  | 3 => "io"
  | 4 => "timeout"
  | 5 => "truncated"
  | 6 => "transaction"
  | 7 => "protocol"
  | 8 => "unit"
  | 9 => "length"
  | 10 => "function"
  | 11 => "byte_count"
  | 12 => "exception"
  | _ => "unknown"

/-- The entry of one event in the report. -/
def eventJson (event : HistoryEvent) : Cjson :=
  .object
    [("sequence", .number event.sequence.toFloat),
      ("boot_id", .number event.bootId.toFloat),
      ("uptime_ms", .number event.uptimeMs.toFloat),
      ("utc_ms",
        if event.utcMs ≠ 0 then .number (.ofModel (.ofInt64 event.utcMs)) else .null),
      ("host", .string (arrayText event.request.host)),
      ("port", .number event.request.port.toFloat),
      ("unit", .number event.request.unit.toFloat),
      ("function", .number event.request.function.toFloat),
      ("offset", .number event.request.offset.toFloat),
      ("quantity", .number event.request.quantity.toFloat),
      ("transaction_id", .number event.request.transactionId.toFloat),
      ("config_revision", .number event.request.configRevision.toFloat),
      ("profile", .string (arrayText event.request.profile)),
      ("phase", .string (arrayText event.request.phase)),
      ("error", .string (literalBytes (mbErrorString event.result.error))),
      ("error_code", .number event.result.error.toFloat),
      ("exception_code", .number event.result.exceptionCode.toFloat),
      ("system_error", .number (.ofModel (.ofInt32 event.result.systemError))),
      ("elapsed_ms", .number event.result.elapsedMs.toFloat)]

/-- What `error_history_json` makes of its snapshot. -/
def snapshotJson (snapshot : HistoryBlob) (pending : Bool) (persistenceError : String)
    (clockSynchronized : Bool) : Cjson :=
  .object
    [("events", .array ((List.range snapshot.count.toNat).map fun age =>
        eventJson (snapshot.events (eventIndex snapshot age)))),
      ("capacity", .number (UInt32.ofNat ERROR_HISTORY_CAPACITY).toFloat),
      ("count", .number snapshot.count.toFloat),
      ("total_errors", .number snapshot.totalErrors.toFloat),
      ("overwritten", .number (snapshot.totalErrors - snapshot.count.toUInt64).toFloat),
      ("boot_id", .number snapshot.bootId.toFloat),
      ("clock_synchronized", .bool clockSynchronized),
      ("pending_persistence", .bool pending),
      ("persistence_error", .string (literalBytes persistenceError))]

/-- `error_history_json`; `allocated` says whether every allocation succeeds. -/
def errorHistoryJson (h : HistoryRuntime) (clockSynchronized allocated : Bool) : Option Cjson :=
  if allocated then
    some (snapshotJson h.blob (pendingPersistence h) h.persistenceError clockSynchronized)
  else none

end ModbusGateway
