import ModbusGateway.Basic
import ModbusGateway.Theory.Checks

/-!
# The storage of the configuration

`gateway_storage.c`. The partition table, the flash and the outcomes of the ESP-IDF calls are a
`StorageEnv`; a call that does not fail does what it is documented to do. What the function reads,
writes and registers is logged, newest first.
-/

namespace ModbusGateway

open Checks

def ESP_ERR_INVALID_STATE : EspErr := 0x103
def ESP_ERR_INVALID_SIZE : EspErr := 0x104
def ESP_ERR_NOT_SUPPORTED : EspErr := 0x106
def ESP_ERR_NVS_INVALID_LENGTH : EspErr := 0x110c

def ESP_PARTITION_TYPE_APP : Nat := 0x00
def ESP_PARTITION_TYPE_DATA : Nat := 0x01
def ESP_PARTITION_SUBTYPE_APP_FACTORY : Nat := 0x00
def ESP_PARTITION_SUBTYPE_APP_OTA_0 : Nat := 0x10
def ESP_PARTITION_SUBTYPE_APP_OTA_1 : Nat := 0x11
def ESP_PARTITION_SUBTYPE_DATA_OTA : Nat := 0x00
def ESP_PARTITION_SUBTYPE_DATA_PHY : Nat := 0x01
def ESP_PARTITION_SUBTYPE_DATA_NVS : Nat := 0x02

def GATEWAY_STORAGE_LABEL : CString := "gateway_cfg".toList
def GATEWAY_STORAGE_FACTORY_ADDRESS : UInt32 := 0x410000
def GATEWAY_STORAGE_OTA_ADDRESS : UInt32 := 0x820000
def GATEWAY_STORAGE_SIZE : UInt32 := 0x40000

def MAX_PRIMARY_PARTITIONS : Nat := 32
def SECTOR_SIZE : UInt32 := 4096
def MARKER_NAMESPACE : String := "gw_migration"
def MARKER_KEY : String := "owned_v1"

/-- `ownership_marker`. -/
def ownershipMarker : List UInt8 := [71, 87, 67, 70, 1, 0, 0, 0, 0, 0, 0x82, 0, 0, 0, 4, 0]

/-- `esp_partition_t`; a chip is known by a number, `none` being the null pointer. -/
structure Partition where
  flashChip : Option Nat
  type : Nat
  subtype : Nat
  address : UInt32
  size : UInt32
  label : CString
  readonly : Bool
  encrypted : Bool
  deriving DecidableEq

/-- `layout_t`. -/
structure StorageLayout where
  items : List Partition := []
  gateway : Option Partition := none

/-- What the function calls: `esp_flash_default_chip`, the partitions as they are iterated over, the
contents of the flash, and the outcome of every call. `kept` is the marker that NVS holds after it could
not be written. -/
structure StorageEnv where
  chip : Option Nat
  flashSize : EspErr × UInt32
  partitions : List (Option Partition)
  flash : Nat → UInt8
  flashRead : Nat → EspErr
  openReadonly : EspErr
  getBlob : EspErr
  openReadwrite : EspErr
  setBlob : EspErr
  commit : EspErr
  kept : Option (List UInt8)
  register : EspErr × Option Partition

/-- What is done to the outside. -/
inductive StorageEvent where
  | read (address : Nat) (bytes : List UInt8)
  | nvsOpen (space : String) (readwrite : Bool)
  | setBlob (space key : String) (bytes : List UInt8)
  | commit
  | register (chip : Option Nat) (address size : UInt32) (label : CString) (type subtype : Nat)

/-- The committed marker and the log. -/
structure StorageState where
  marker : Option (List UInt8)
  log : List StorageEvent := []

/-! ## The partition table -/

/-- `overlap`, with the ends in 64 bits. -/
def overlap (a as b bs : UInt32) : Bool :=
  a.toNat < b.toNat + bs.toNat && b.toNat < a.toNat + as.toNat

/-- `layout->gateway = p` for a partition with the label. -/
def StorageLayout.note (layout : StorageLayout) (p : Partition) : StorageLayout :=
  if p.label = GATEWAY_STORAGE_LABEL then { layout with gateway := some p } else layout

/-- `layout->items[layout->count++] = p`. -/
def StorageLayout.add (layout : StorageLayout) (p : Partition) : StorageLayout :=
  { layout with items := layout.items ++ [p] }

/-- The loop of `inventory`. -/
def inventoryLoop (chip : Option Nat) (flashSize : UInt32) :
    StorageLayout → List (Option Partition) → Except EspErr StorageLayout
  | layout, [] => .ok layout
  | layout, p :: rest => do
    let p ← require p ESP_ERR_INVALID_STATE
    reject (p.label = GATEWAY_STORAGE_LABEL ∧
      (layout.gateway.isSome = true ∨ p.flashChip ≠ chip)) ESP_ERR_INVALID_STATE
    let layout := layout.note p
    if p.flashChip = chip then
      reject (p.size = 0 ∨ p.address % SECTOR_SIZE ≠ 0 ∨ p.size % SECTOR_SIZE ≠ 0 ∨
        p.address.toNat + p.size.toNat > flashSize.toNat ∨
        layout.items.length = MAX_PRIMARY_PARTITIONS) ESP_ERR_INVALID_SIZE
      reject (∃ other ∈ layout.items, overlap p.address p.size other.address other.size = true)
        ESP_ERR_INVALID_STATE
      inventoryLoop chip flashSize (layout.add p) rest
    else inventoryLoop chip flashSize layout rest

/-- `inventory`. -/
def inventory (env : StorageEnv) (flashSize : UInt32) : Except EspErr StorageLayout :=
  inventoryLoop env.chip flashSize {} env.partitions

/-- The loop of `exact`, with the matches so far. -/
def exactLoop (type subtype : Nat) (address size : UInt32) (label : Option CString) :
    Nat → List Partition → Bool
  | matched, [] => matched == 1
  | matched, p :: rest =>
    if p.type = type ∧ p.subtype = subtype then
      if ∃ l ∈ label, p.label ≠ l then exactLoop type subtype address size label matched rest
      else if p.address ≠ address ∨ p.size ≠ size ∨ p.readonly then false
      else exactLoop type subtype address size label (matched + 1) rest
    else exactLoop type subtype address size label matched rest

/-- `exact`. -/
def exactPartition (layout : StorageLayout) (type subtype : Nat) (address size : UInt32)
    (label : Option CString) : Bool :=
  exactLoop type subtype address size label 0 layout.items

/-- `factory_layout`. -/
def factoryLayout (layout : StorageLayout) : Bool :=
  exactPartition layout ESP_PARTITION_TYPE_APP ESP_PARTITION_SUBTYPE_APP_FACTORY 0x10000 0x400000
    none &&
  exactPartition layout ESP_PARTITION_TYPE_DATA ESP_PARTITION_SUBTYPE_DATA_NVS 0x9000 0x6000
    (some "nvs".toList) &&
  exactPartition layout ESP_PARTITION_TYPE_DATA ESP_PARTITION_SUBTYPE_DATA_PHY 0xf000 0x1000 none

/-- `ota_layout`. -/
def otaLayout (layout : StorageLayout) : Bool :=
  exactPartition layout ESP_PARTITION_TYPE_APP ESP_PARTITION_SUBTYPE_APP_OTA_0 0x20000 0x400000
    none &&
  exactPartition layout ESP_PARTITION_TYPE_APP ESP_PARTITION_SUBTYPE_APP_OTA_1 0x420000 0x400000
    none &&
  exactPartition layout ESP_PARTITION_TYPE_DATA ESP_PARTITION_SUBTYPE_DATA_NVS 0x9000 0x6000
    (some "nvs".toList) &&
  exactPartition layout ESP_PARTITION_TYPE_DATA ESP_PARTITION_SUBTYPE_DATA_OTA 0xf000 0x2000 none &&
  exactPartition layout ESP_PARTITION_TYPE_DATA ESP_PARTITION_SUBTYPE_DATA_PHY 0x11000 0x1000 none

/-! ## The marker -/

/-- `nvs_get_blob` into a buffer. -/
def nvsGetBlob (failure : EspErr) (stored : Option (List UInt8)) (capacity : Nat) :
    Except EspErr (List UInt8) :=
  if failure ≠ ESP_OK then .error failure
  else
    match stored with
    | none => .error ESP_ERR_NVS_NOT_FOUND
    | some bytes => if bytes.length ≤ capacity then .ok bytes else .error ESP_ERR_NVS_INVALID_LENGTH

/-- `check_marker`. -/
def checkMarker (env : StorageEnv) (s : StorageState) : Except EspErr Bool :=
  if env.openReadonly = ESP_ERR_NVS_NOT_FOUND then .ok false
  else if env.openReadonly ≠ ESP_OK then .error env.openReadonly
  else
    match nvsGetBlob env.getBlob s.marker ownershipMarker.length with
    | .error e => if e = ESP_ERR_NVS_NOT_FOUND then .ok false else .error e
    | .ok bytes => if bytes ≠ ownershipMarker then .error ESP_ERR_INVALID_STATE else .ok true

/-- `sizeof(buffer)`. -/
def BLANK_BUFFER : Nat := 512

/-- The reading loop of `claim_blank_region`. -/
def blankLoop (env : StorageEnv) : List Nat → StorageState → EspErr × StorageState
  | [], s => (ESP_OK, s)
  | offset :: offsets, s =>
    let address := GATEWAY_STORAGE_OTA_ADDRESS.toNat + offset
    if env.flashRead address ≠ ESP_OK then (env.flashRead address, s)
    else
      let bytes := (List.range BLANK_BUFFER).map fun i => env.flash (address + i)
      let s := { s with log := .read address bytes :: s.log }
      if ∃ b ∈ bytes, b ≠ 0xff then (ESP_ERR_INVALID_STATE, s) else blankLoop env offsets s

/-- The offsets of the loop. -/
def blankOffsets : List Nat :=
  (List.range (GATEWAY_STORAGE_SIZE.toNat / BLANK_BUFFER)).map (· * BLANK_BUFFER)

/-- `claim_blank_region`. -/
def claimBlankRegion (env : StorageEnv) (s : StorageState) : EspErr × StorageState :=
  let (error, s) := blankLoop env blankOffsets s
  if error ≠ ESP_OK then (error, s)
  else
    let s := { s with log := .nvsOpen MARKER_NAMESPACE true :: s.log }
    if env.openReadwrite ≠ ESP_OK then (env.openReadwrite, s)
    else
      let s := { s with log := .setBlob MARKER_NAMESPACE MARKER_KEY ownershipMarker :: s.log }
      if env.setBlob ≠ ESP_OK then (env.setBlob, { s with marker := env.kept })
      else
        let s := { s with log := .commit :: s.log }
        if env.commit ≠ ESP_OK then (env.commit, { s with marker := env.kept })
        else (ESP_OK, { s with marker := some ownershipMarker })

/-! ## Preparing -/

/-- `gateway_storage_prepare` up to the marker: whether the region outside the table is to be used. -/
def storageLayout (env : StorageEnv) : Except EspErr Bool := do
  reject (env.chip = none) ESP_ERR_INVALID_STATE
  reject (env.flashSize.1 ≠ ESP_OK) env.flashSize.1
  let layout ← inventory env env.flashSize.2
  match layout.gateway with
  | some p =>
    reject (p.type ≠ ESP_PARTITION_TYPE_DATA ∨ p.subtype ≠ ESP_PARTITION_SUBTYPE_DATA_NVS ∨
      p.size ≠ GATEWAY_STORAGE_SIZE ∨ p.readonly ∨ p.encrypted) ESP_ERR_INVALID_STATE
    reject (¬ (p.address = GATEWAY_STORAGE_FACTORY_ADDRESS ∧ factoryLayout layout) ∧
      ¬ (p.address = GATEWAY_STORAGE_OTA_ADDRESS ∧ otaLayout layout)) ESP_ERR_INVALID_STATE
    return false
  | none =>
    reject (¬ otaLayout layout) ESP_ERR_NOT_SUPPORTED
    reject (GATEWAY_STORAGE_OTA_ADDRESS.toNat + GATEWAY_STORAGE_SIZE.toNat > env.flashSize.2.toNat)
      ESP_ERR_INVALID_SIZE
    reject (∃ p ∈ layout.items,
      overlap GATEWAY_STORAGE_OTA_ADDRESS GATEWAY_STORAGE_SIZE p.address p.size = true)
      ESP_ERR_INVALID_STATE
    return true

/-- The checks on what `esp_partition_register_external` returns. -/
def registeredError (env : StorageEnv) : EspErr :=
  if env.register.1 ≠ ESP_OK then env.register.1
  else
    match env.register.2 with
    | none => ESP_ERR_INVALID_STATE
    | some p =>
      if p.address ≠ GATEWAY_STORAGE_OTA_ADDRESS ∨ p.size ≠ GATEWAY_STORAGE_SIZE ∨
        p.flashChip ≠ env.chip ∨ p.type ≠ ESP_PARTITION_TYPE_DATA ∨
        p.subtype ≠ ESP_PARTITION_SUBTYPE_DATA_NVS ∨ p.readonly ∨ p.encrypted ∨
        p.label ≠ GATEWAY_STORAGE_LABEL then ESP_ERR_INVALID_STATE
      else ESP_OK

/-- `gateway_storage_prepare`. -/
def gatewayStoragePrepare (env : StorageEnv) (s : StorageState) : EspErr × StorageState :=
  match storageLayout env with
  | .error e => (e, s)
  | .ok false => (ESP_OK, s)
  | .ok true =>
    let s := { s with log := .nvsOpen MARKER_NAMESPACE false :: s.log }
    match checkMarker env s with
    | .error e => (e, s)
    | .ok owned =>
      let (error, s) := if owned then (ESP_OK, s) else claimBlankRegion env s
      if error ≠ ESP_OK then (error, s)
      else
        (registeredError env,
          { s with
            log := .register env.chip GATEWAY_STORAGE_OTA_ADDRESS GATEWAY_STORAGE_SIZE
              GATEWAY_STORAGE_LABEL ESP_PARTITION_TYPE_DATA ESP_PARTITION_SUBTYPE_DATA_NVS :: s.log })

end ModbusGateway
