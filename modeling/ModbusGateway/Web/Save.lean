import ModbusGateway.Config.Print

/-!
# Saving and loading the configuration

`save_handler` from the complete body on, and `gateway_web_load`. NVS and the heap are seen through the
outcomes of the calls.
-/

namespace ModbusGateway

/-- What the handler works on: the active configuration, `restart_pending` and the committed blob. -/
structure WebState where
  active : GatewayConfig
  restartPending : Bool
  stored : Option (List Char)

/-- A reply: 200 with the new revision, or a status line and a message. -/
inductive SaveReply where
  | saved (revision : Nat)
  | refused (status : String) (message : CString)

/-- The outcomes of the calls of one request. -/
structure SaveCalls where
  candidate : Bool
  map : Bool
  memory : ConfigMemory
  json : Bool
  print : Bool
  opened : EspErr
  set : EspErr
  commit : EspErr

/-- `err` of the writing sequence. -/
def SaveCalls.written (calls : SaveCalls) : EspErr :=
  if calls.opened ≠ ESP_OK then calls.opened
  else if calls.set ≠ ESP_OK then calls.set
  else calls.commit

/-- `sizeof(error)`. -/
def SAVE_ERROR_BYTES : Nat := 192

/-- `save_handler`. A blob that could not be committed is in doubt: `stored` is then what NVS keeps. -/
def saveHandler (env : ConfigEnv) (print : JsonMembers → List Char) (calls : SaveCalls)
    (kept : Option (List Char)) (body : List Char) (s : WebState) : SaveReply × WebState :=
  if s.restartPending then (.refused "409 Conflict" "Restart already scheduled".toList, s)
  else if ¬ calls.candidate ∨ ¬ calls.map then
    (.refused "500 Internal Server Error" "Out of memory".toList, s)
  else
    let r := gatewayConfigParse env calls.memory body s.active gatewayConfigDefaults {} []
      SAVE_ERROR_BYTES
    if ¬ r.ok then (.refused "400 Bad Request" r.error, s)
    else if r.out.revision ≠ s.active.revision then
      (.refused "409 Conflict" "Configuration changed; reload before saving".toList, s)
    else if s.active.revision = UINT32_MAX then
      (.refused "409 Conflict" "Configuration revision exhausted".toList, s)
    else
      let candidate := { r.out with revision := u32 (r.out.revision + 1) }
      if ¬ calls.json ∨ ¬ calls.print then
        (.refused "500 Internal Server Error" "Out of memory".toList, s)
      else if calls.written ≠ ESP_OK then
        (.refused "500 Internal Server Error"
          "Configuration storage failed; restart to verify saved state before retrying".toList,
          { s with stored := kept })
      else
        (.saved (s.active.revision + 1),
          { s with
            stored := some (print (gatewayConfigJson candidate true))
            restartPending := true })

/-- The outcomes of the calls at boot: `gateway_storage_prepare`, the initialisation, opening, the size
query, the buffer, the read with the length it reports, and the memory of the parser. -/
structure LoadCalls where
  prepare : EspErr
  init : EspErr
  opened : EspErr
  size : EspErr × Nat
  buffer : Bool
  read : EspErr × Nat
  memory : ConfigMemory

/-- `gateway_web_load`, `blob` being the bytes that NVS returns and `errName` the names of the error
codes. The configuration is base and destination at once. -/
def gatewayWebLoad (env : ConfigEnv) (errName : EspErr → String) (calls : LoadCalls)
    (blob : List Char) (c : GatewayConfig) (map : CustomMap) (size : Nat) :
    GatewayConfig × CustomMap × CString :=
  let prepared := if calls.prepare = ESP_OK then calls.init else calls.prepare
  if prepared ≠ ESP_OK then
    (c, map, errorText size ("Configuration storage: " ++ errName prepared).toList)
  else if calls.opened ≠ ESP_OK then
    (c, map, errorText size ("Configuration open: " ++ errName calls.opened).toList)
  else if calls.size.1 = ESP_ERR_NVS_NOT_FOUND then (c, map, [])
  else if calls.size.1 ≠ ESP_OK ∨ calls.size.2 = 0 ∨ calls.size.2 > GW_CONFIG_MAX_JSON then
    (c, map, errorText size
      "Stored configuration unreadable; save a valid configuration to repair".toList)
  else if ¬ calls.buffer then (c, map, errorText size "Out of memory loading configuration".toList)
  else if calls.read.1 ≠ ESP_OK ∨ calls.read.2 > calls.size.2 then
    (c, map, errorText size ("Configuration read: " ++ errName calls.read.1).toList)
  else
    let r := gatewayConfigParse env calls.memory (blob.take calls.read.2) c c map [] size
    (r.out, r.map, r.error)

end ModbusGateway
