import ModbusGateway.Config.Config

/-!
# The catalogue check of the BACnet side

`valid_string`, `valid_catalog` and the check at the head of `gateway_bacnet_init`, and the packing of
state texts in `create_point`. What is read behind the end of a state table counts as NULL. The limits
of the stack are parameters.
-/

namespace ModbusGateway

def BACNET_MAX_INSTANCE : Nat := 4194303
def DIAGNOSTIC_BASE : Nat := 9001
def STATE_TEXT_BYTES : Nat := 1024
def GATEWAY_BACNET_MAX_PEERS : Nat := 4
def GATEWAY_BACNET_MAX_POINTS : Nat := 256
def GATEWAY_BACNET_POINT_NAME_MAX : Nat := 95
def GATEWAY_BACNET_POINT_DESCRIPTION_MAX : Nat := 511
def GATEWAY_BACNET_STATE_NAME_MAX : Nat := 63
def GATEWAY_BACNET_MAX_STATES : Nat := 64

/-- `valid_string` of a string that is there. -/
def validString (value : CString) (maximum : Nat) (nonempty : Bool) : Bool :=
  (!nonempty || value ≠ []) && value.length ≤ maximum

/-- The loop over the state texts: `left` more from index `n` on, `bytes` counted before. -/
def validLabels (texts : List CString) : Nat → Nat → Nat → Bool
  | 0, _, _ => true
  | left + 1, n, bytes =>
    match texts[n]? with
    | none => false
    | some text =>
      validString text GATEWAY_BACNET_STATE_NAME_MAX true &&
        decide (bytes + (text.length + 1) ≤ STATE_TEXT_BYTES) && text ∉ texts.take n &&
        validLabels texts left (n + 1) (bytes + (text.length + 1))

/-- The states of a point. -/
def validStates (point : AtsPointDef) : Bool :=
  if point.objectType = OBJECT_MULTI_STATE_INPUT then
    match point.stateText with
    | none => false
    | some texts =>
      point.stateCount ≠ 0 && point.stateCount ≤ GATEWAY_BACNET_MAX_STATES &&
        validLabels texts point.stateCount 0 1
  else point.stateCount = 0 && point.stateText.isNone

/-- The checks on a point alone. -/
def validPoint (point : AtsPointDef) : Bool :=
  (point.objectType = OBJECT_ANALOG_INPUT || point.objectType = OBJECT_BINARY_INPUT ||
      point.objectType = OBJECT_MULTI_STATE_INPUT ||
      point.objectType = OBJECT_CHARACTERSTRING_VALUE) &&
    point.instanceNumber < BACNET_MAX_INSTANCE &&
    !(DIAGNOSTIC_BASE ≤ point.instanceNumber && point.instanceNumber < DIAGNOSTIC_BASE + 4) &&
    validString point.name GATEWAY_BACNET_POINT_NAME_MAX true &&
    validString point.description GATEWAY_BACNET_POINT_DESCRIPTION_MAX false &&
    !CString.hasPrefix point.name "Gateway-".toList

/-- The comparison with an earlier point. -/
def clashes (point earlier : AtsPointDef) : Bool :=
  point.name = earlier.name ||
    (point.objectType = earlier.objectType && point.instanceNumber = earlier.instanceNumber)

/-- The loop over the points. -/
def validPoints (name : CString) (earlier : List AtsPointDef) : List AtsPointDef → Bool
  | [] => true
  | point :: points =>
    validPoint point && point.name ≠ name && !earlier.any (clashes point) && validStates point &&
      validPoints name (earlier ++ [point]) points

/-- `valid_catalog` of an array that is there. -/
def validCatalog (points : List AtsPointDef) (count : Nat) (name : CString) : Bool :=
  count ≠ 0 && count ≤ GATEWAY_BACNET_MAX_POINTS && validPoints name [] (points.take count)

/-- The string limits of the stack: `MAX_DEV_VER_LEN`, `MAX_DEV_LOC_LEN`, `MAX_DEV_MOD_LEN` and
`MAX_DEV_DESC_LEN`. -/
structure BacnetStack where
  verLen : Nat
  locLen : Nat
  modLen : Nat
  descLen : Nat

/-- What `gateway_bacnet_init` checks of a `gateway_bacnet_config_t`; `points` is `none` for NULL. -/
structure BacnetConfig where
  deviceInstance : Nat
  deviceName : CString
  firmwareVersion : Option CString
  location : Option CString
  localIp : Nat
  udpPort : Nat
  peerCount : Nat
  points : Option (List AtsPointDef)
  pointCount : Nat
  modelName : Option CString
  description : Option CString

/-- The check at the head of `gateway_bacnet_init`. -/
def validInput (stack : BacnetStack) (initialized : Bool) (input : BacnetConfig) : Bool :=
  !initialized && input.deviceInstance < BACNET_MAX_INSTANCE &&
    validString input.deviceName 95 true && !CString.hasPrefix input.deviceName "Gateway-".toList &&
    input.udpPort ≠ 0 && input.localIp ≠ 0 && input.peerCount ≤ GATEWAY_BACNET_MAX_PEERS &&
    input.firmwareVersion.all (validString · stack.verLen false) &&
    input.location.all (validString · stack.locLen false) &&
    input.modelName.all (validString · stack.modLen true) &&
    input.description.all (validString · stack.descLen false) &&
    (input.points.isNone == (input.pointCount == 0))

/-- The checks of `gateway_bacnet_init` before it changes anything. -/
def bacnetInitChecks (stack : BacnetStack) (initialized : Bool) (input : BacnetConfig) : Bool :=
  validInput stack initialized input &&
    match input.points with
    | some points => validCatalog points input.pointCount input.deviceName
    | none => validCatalog (List.ofFn atsPoints) ATS_POINT_COUNT input.deviceName

/-- The packing loop of `create_point`, `states` being what is packed so far. -/
def packStates (texts : List CString) : Nat → Nat → List Char → Option (List Char)
  | 0, _, states => some states
  | left + 1, n, states =>
    match texts[n]? with
    | none => none
    | some text =>
      if states.length + (text.length + 1) ≥ STATE_TEXT_BYTES then none
      else packStates texts left (n + 1) (states ++ text ++ ['\x00'])

/-- The state texts of a Multi-state Input in `create_point`; `none` is a return of false. -/
def createStates (point : AtsPointDef) : Option (List Char) :=
  match point.stateText with
  | none => none
  | some texts => if point.stateCount = 0 then none else packStates texts point.stateCount 0 []

end ModbusGateway
