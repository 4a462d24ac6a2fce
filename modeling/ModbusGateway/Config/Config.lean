import ModbusGateway.Poll.Gateway
import ModbusGateway.Custom.Map

/-!
# The gateway configuration

`gateway_config_t` and its defaults. A string field is the C string it holds; a numeric field is a
`Nat` within the range of its C type.
-/

namespace ModbusGateway

/-- `gw_profile_t`. -/
inductive GwProfile where
  | full
  | electrical
  | custom
  deriving DecidableEq, Repr

def gatewayProfileId : GwProfile → String
  | .full => "mpac1500_full"
  | .electrical => "mpac1500_electrical"
  | .custom => "custom"

def GW_CONFIG_MAX_JSON : Nat := 96 * 1024
def GW_ELECTRICAL_POINT_COUNT : Nat := 24

/-- `gateway_config_t`. -/
structure GatewayConfig where
  profile : GwProfile
  modbusHost : CString
  modbusPort : Nat
  bacnetPort : Nat
  modbusUnit : Nat
  deviceInstance : Nat
  revision : Nat
  deviceName : CString
  expectedFirmware : Nat
  expectedMacFragment : Nat
  csv : CString
  deriving DecidableEq

def gatewayConfigDefaults : GatewayConfig where
  profile := .full
  modbusHost := "192.0.2.81".toList
  modbusPort := 502
  bacnetPort := 47808
  modbusUnit := 41
  deviceInstance := 75181
  revision := 1
  deviceName := "Kohler-MPAC1500-Gateway".toList
  expectedFirmware := 515
  expectedMacFragment := 0
  csv := []

/-- What `app_main` fixes before it starts the tasks: `settings`, `custom_map`, `config_error`. -/
structure Boot where
  settings : GatewayConfig
  customMap : CustomMap
  configError : CString

namespace Boot
variable (c : Boot)

def isCustom : Bool := c.settings.profile == .custom

/-- `active_points`. -/
def activePoints : List AtsPointDef :=
  match c.settings.profile with
  | .custom => c.customMap.entries.map fun e => c.customMap.resolve e.pointDef
  | .electrical => (List.ofFn atsPoints).take GW_ELECTRICAL_POINT_COUNT
  | .full => List.ofFn atsPoints

/-- `active_count`. -/
def activeCount : Nat :=
  match c.settings.profile with
  | .custom => c.customMap.count
  | .electrical => GW_ELECTRICAL_POINT_COUNT
  | .full => ATS_POINT_COUNT

/-- The poller's view of the settings. -/
def pollConfig : GatewayPollConfig where
  expectedFirmware := UInt16.ofNat c.settings.expectedFirmware
  expectedMacFragment := UInt16.ofNat c.settings.expectedMacFragment

end Boot

/-- A boot that finds no stored configuration. -/
def defaultBoot : Boot where
  settings := gatewayConfigDefaults
  customMap := {}
  configError := []

end ModbusGateway
