import ModbusGateway.Config.Parse

/-!
# Printing a configuration

`gateway_config_json`, and what cJSON is relied on to print: `flatText` is the unformatted text of a
flat object, and `CjsonRoundTrip` that it is printed so and parsed back.
-/

namespace ModbusGateway

/-- `cJSON_AddNumberToObject` of an unsigned field. -/
def jsonField (name : String) (value : Nat) : CString × JsonValue :=
  (name.toList, .number (some (value : Rat)))

/-- `gateway_config_json`, the members of the object. -/
def gatewayConfigJson (c : GatewayConfig) (includeCsv : Bool) : JsonMembers :=
  [("profile".toList, .string (gatewayProfileId c.profile).toList),
    ("modbus_host".toList, .string c.modbusHost),
    ("device_name".toList, .string c.deviceName),
    jsonField "modbus_port" c.modbusPort,
    jsonField "modbus_unit" c.modbusUnit,
    jsonField "device_instance" c.deviceInstance,
    jsonField "bacnet_port" c.bacnetPort,
    jsonField "expected_firmware" c.expectedFirmware,
    jsonField "expected_mac_fragment" c.expectedMacFragment,
    jsonField "revision" c.revision] ++
  if includeCsv then [("csv".toList, .string c.csv)] else []

/-! ## The text of a flat object -/

/-- A character inside a JSON string. -/
def escapeChar (c : Char) : List Char :=
  if c = '"' ∨ c = '\\' then ['\\', c]
  else if c = '\r' then ['\\', 'r']
  else if c = '\n' then ['\\', 'n']
  else [c]

def jsonQuote (s : CString) : List Char := '"' :: (s.flatMap escapeChar ++ ['"'])

def valueText : JsonValue → List Char
  | .string s => jsonQuote s
  | .number value => Nat.toDigits 10 ((value.getD 0).floor.toNat)
  | .other => []

def memberText (m : CString × JsonValue) : List Char := jsonQuote m.1 ++ ':' :: valueText m.2

/-- The unformatted text of an object. -/
def flatText (members : JsonMembers) : List Char :=
  '{' :: ([','].intercalate (members.map memberText) ++ ['}'])

/-- Printable ASCII, CR and LF. -/
def plainText (s : CString) : Prop := ∀ c ∈ s, printable c = true ∨ c = '\r' ∨ c = '\n'

/-- A string of plain text or an unsigned number of 32 bits. -/
inductive FlatValue : JsonValue → Prop
  | string : plainText s → FlatValue (.string s)
  | number : n < 2 ^ 32 → FlatValue (.number (some ((n : Nat) : Rat)))

/-- An object of such values. -/
def FlatMembers (members : JsonMembers) : Prop :=
  ∀ m ∈ members, plainText m.1 ∧ FlatValue m.2

/-- What is relied on of cJSON: it prints a flat object as its unformatted text and parses this text
back, to its end. -/
structure CjsonRoundTrip (parse : CjsonParse) (print : JsonMembers → List Char) : Prop where
  print_eq : FlatMembers members → print members = flatText members
  parse_print : FlatMembers members →
    parse (print members) = ⟨some members, some (print members).length⟩

end ModbusGateway
