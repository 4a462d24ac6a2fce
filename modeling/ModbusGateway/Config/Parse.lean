import ModbusGateway.Config.Config
import ModbusGateway.Config.Json
import ModbusGateway.Custom.Parse

/-!
# The configuration parser

`gateway_config_parse`. It reads the base once, before it writes anything, so base and destination may
be one object: that is the case in which the two arguments are equal. cJSON, `inet_pton` and the
outcomes of the allocations are parameters.
-/

namespace ModbusGateway

open Checks

/-- What the parser calls: cJSON, `inet_pton` (the address in host order) and `strtod`. -/
structure ConfigEnv where
  parse : CjsonParse
  inetPton : CString → Option UInt32
  strtod : Strtod

/-- Which allocations succeed: the candidate, the scratch map, and those of the two calls of
`custom_map_parse`. -/
structure ConfigMemory where
  candidate : Bool
  scratch : Bool
  scratchParse : Bool
  mapParse : Bool

/-- Why a configuration is refused: a message, or the text that `custom_map_parse` has left behind, for the
scratch map or for the caller's, with what it has left of that one. -/
inductive ConfigError where
  | why (message : String)
  | scratch (text : CString)
  | map (text : CString) (left : CustomMap)

/-- `keys[]`. -/
def configKeys : List CString :=
  ["profile", "modbus_host", "modbus_port", "modbus_unit", "device_instance", "device_name",
    "bacnet_port", "expected_firmware", "expected_mac_fragment", "revision", "csv"].map String.toList

/-- The loop over the properties, with the keys seen so far. -/
def checkKeys : List CString → JsonMembers → Except String Unit
  | _, [] => .ok ()
  | seen, member :: members => do
    reject (member.1 ∉ configKeys ∨ member.1 ∈ seen) "Unknown or duplicate configuration property"
    checkKeys (member.1 :: seen) members

/-- The checks on the text, up to the object in it. -/
def configMembers (env : ConfigEnv) (text : List Char) : Except String JsonMembers := do
  reject (text = [] ∨ text.length > GW_CONFIG_MAX_JSON ∨ text.contains '\x00')
    "Invalid or oversized configuration JSON"
  reject (gatewayJsonHasNul text = true) "NUL characters are not supported"
  reject (gatewayJsonIsFlat text = false) "Configuration must contain scalar fields only"
  let members ← require (completeObject env.parse text) "Expected one complete JSON object"
  checkKeys [] members
  return members

def parseProfile (s : CString) : Option GwProfile :=
  if s = (gatewayProfileId .full).toList then some .full
  else if s = (gatewayProfileId .electrical).toList then some .electrical
  else if s = (gatewayProfileId .custom).toList then some .custom
  else none

/-- `modbus_host`: a host the gateway may ask. -/
def configHost (env : ConfigEnv) (members : JsonMembers) : Except String CString := do
  let why := "Modbus host must be a unicast IPv4 address"
  let host ← require (jsonString members "modbus_host".toList 16) why
  let ip ← require (env.inetPton host) why
  reject (ip = 0 ∨ ip >>> 24 = 0 ∨ ip >>> 24 ≥ 224) why
  return host

/-- `device_name`. -/
def configName (members : JsonMembers) : Except String CString := do
  let why := "Device name must be 1-95 printable ASCII characters and cannot begin Gateway-"
  let name ← require (jsonString members "device_name".toList 96) why
  reject (CString.hasPrefix name "Gateway-".toList = true) why
  return name

/-- `FIELD`. -/
def configField (members : JsonMembers) (bits : Nat) (name : String) (low high : Nat) :
    Except String Nat := do
  let value ← require (jsonNumber members name.toList low high) ("Invalid " ++ name)
  return narrow bits value

/-- The CSV of the request, or that of the base. -/
def configCsv (members : JsonMembers) (base : GatewayConfig) : Except String CString :=
  match getItem members "csv".toList with
  | none => .ok base.csv
  | some (.string s) =>
    if s.length > CUSTOM_MAX_CSV_BYTES then .error "CSV exceeds 32768 bytes or is not a string"
    else .ok s
  | some _ => .error "CSV exceeds 32768 bytes or is not a string"

/-- The fields of the candidate, in the order of their checks. -/
def configFields (env : ConfigEnv) (members : JsonMembers) (base : GatewayConfig) :
    Except String GatewayConfig := do
  let id ← require (jsonString members "profile".toList 32) "Missing or invalid configuration field"
  let profile ← require (parseProfile id) "Unknown device profile"
  let modbusHost ← configHost env members
  let deviceName ← configName members
  let modbusPort ← configField members 16 "modbus_port" 1 65535
  let modbusUnit ← configField members 8 "modbus_unit" 0 255
  let bacnetPort ← configField members 16 "bacnet_port" 1 65535
  let deviceInstance ← configField members 32 "device_instance" 0 4194302
  let expectedFirmware ← configField members 16 "expected_firmware" 0 65535
  let expectedMacFragment ← configField members 16 "expected_mac_fragment" 0 32767
  let revision ← configField members 32 "revision" 1 UINT32_MAX
  let csv ← configCsv members base
  return {
    profile, modbusHost, modbusPort, bacnetPort, modbusUnit, deviceInstance, revision, deviceName,
    expectedFirmware, expectedMacFragment, csv }

/-- The names of the points of a preset. -/
def presetNames (profile : GwProfile) : List CString :=
  let count := if profile = .full then ATS_POINT_COUNT else GW_ELECTRICAL_POINT_COUNT
  ((List.ofFn atsPoints).take count).map AtsPointDef.name

/-- The check of the CSV against a scratch map. -/
def checkScratch (env : ConfigEnv) (memory : ConfigMemory) (c : GatewayConfig) (size : Nat) :
    Except ConfigError Unit := do
  if c.csv = [] then return ()
  else
    reject (memory.scratch = false) (.why "Out of memory")
    match customMapParse env.strtod memory.scratchParse {} c.csv size with
    | (false, _, text) => .error (.scratch text)
    | (true, scratch, _) =>
      reject (∃ e ∈ scratch.entries, scratch.string e.pointDef.name = c.deviceName)
        (.why "Device name duplicates a CSV point name")

/-- The second parse of the CSV, into the caller's map. -/
def parseInto (env : ConfigEnv) (memory : ConfigMemory) (c : GatewayConfig) (map : CustomMap)
    (size : Nat) : Except ConfigError CustomMap :=
  if c.csv = [] then .ok {}
  else
    match customMapParse env.strtod memory.mapParse map c.csv size with
    | (false, left, text) => .error (.map text left)
    | (true, parsed, _) => .ok parsed

/-- The checks on the candidate as a whole, and its map. -/
def configMap (env : ConfigEnv) (memory : ConfigMemory) (c : GatewayConfig) (map : CustomMap)
    (size : Nat) : Except ConfigError CustomMap := do
  reject (c.profile = .custom ∧ c.csv = [])
    (.why "Upload a CSV point map before selecting Custom CSV")
  checkScratch env memory c size
  reject (c.profile ≠ .custom ∧ c.deviceName ∈ presetNames c.profile)
    (.why "Device name duplicates a preset point name")
  parseInto env memory c map size

/-- All checks in order: the candidate and its map, or why there is none. -/
def configCandidate (env : ConfigEnv) (memory : ConfigMemory) (text : List Char)
    (base : GatewayConfig) (map : CustomMap) (size : Nat) :
    Except ConfigError (GatewayConfig × CustomMap) := do
  let members ← (configMembers env text).mapError .why
  reject (memory.candidate = false) (.why "Out of memory")
  let candidate ← (configFields env members base).mapError .why
  let map ← configMap env memory candidate map size
  return (candidate, map)

/-- What `gateway_config_parse` leaves behind. -/
structure ConfigResult where
  ok : Bool
  out : GatewayConfig
  map : CustomMap
  error : CString

/-- The error buffer after a failure. -/
def ConfigError.text (error : CString) (size : Nat) : ConfigError → CString
  | .why message => if size = 0 then error else errorText size message.toList
  | .scratch text => if size = 0 then error else text
  | .map text _ => if size = 0 then error else text

/-- The caller's map after a failure. -/
def ConfigError.leaves (map : CustomMap) : ConfigError → CustomMap
  | .map _ left => left
  | _ => map

/-- `gateway_config_parse`. -/
def gatewayConfigParse (env : ConfigEnv) (memory : ConfigMemory) (text : List Char)
    (base out : GatewayConfig) (map : CustomMap) (error : CString) (size : Nat) : ConfigResult :=
  match configCandidate env memory text base map size with
  | .ok (candidate, parsed) =>
    { ok := true, out := candidate, map := parsed, error := if size = 0 then error else [] }
  | .error why => { ok := false, out, map := why.leaves map, error := why.text error size }

end ModbusGateway
