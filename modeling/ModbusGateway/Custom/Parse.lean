import ModbusGateway.Custom.Map
import ModbusGateway.Theory.Checks
import ModbusGateway.Verify.CsvRow

/-!
# The map parser

The rest of the parser of `custom_map.c`. Strings and labels go to two bump allocators of the map. The
errors are the texts of the source, in the order of its checks.
-/

namespace ModbusGateway

open Checks

/-- `sizeof(map->strings)`. -/
def STRINGS_BYTES : Nat := CUSTOM_MAX_CSV_BYTES + 1

def CUSTOM_CSV_HEADER : CString :=
  ("instance,name,object_type,function,address,data_type,byte_order,scale,offset,units,bit," ++
    "states,length,poll_ms,description").toList

/-! ## Numbers -/

/-- The loop of `integer`: the digits after `n`. -/
def integerLoop (maximum : Nat) : Nat → CString → Option Nat
  | n, [] => some n
  | n, c :: s =>
    if c < '0' ∨ c > '9' then none
    else
      let digit := c.toNat - '0'.toNat
      if digit > maximum ∨ n > (maximum - digit) / 10 then none
      else
        let n := u32 (n * 10 + digit)
        if n > maximum then none else integerLoop maximum n s

/-- `integer`. -/
def integer (s : CString) (minimum maximum : Nat) : Option Nat :=
  if s = [] then none
  else
    match integerLoop maximum 0 s with
    | none => none
    | some n => if n < minimum then none else some n

/-- What `strtod` makes of a string: the value, the characters it used and whether it set `errno`. -/
structure StrtodResult where
  value : Float
  used : Nat
  errno : Bool

abbrev Strtod := CString → StrtodResult

/-- `number`. -/
def number (strtod : Strtod) (s : CString) (fallback : Float) : Option Float :=
  if s = [] then some fallback
  else
    let n := strtod s
    if n.errno ∨ n.used = 0 ∨ n.used < s.length ∨ ¬ n.value.isFinite then none else some n.value

/-! ## One point -/

/-- `save_string`: the offset of the string in the map. -/
def saveString (map : CustomMap) (s : CString) : Option (Nat × CustomMap) :=
  if s.length + 1 > STRINGS_BYTES - map.stringsUsed then none
  else some (map.stringsUsed, { map with strings := map.strings ++ s ++ ['\x00'] })

/-- The enumeration order of `custom_data_type_t`. -/
def CustomDataType.index : CustomDataType → Nat
  | .u16 => 0
  | .s16 => 1
  | .u32 => 2
  | .s32 => 3
  | .f32 => 4
  | .bit => 5
  | .ascii => 6
  | .bool => 7

/-- `kind >= CUSTOM_U32 && kind <= CUSTOM_F32`. -/
def CustomDataType.wide (kind : CustomDataType) : Bool := 2 ≤ kind.index && kind.index ≤ 4

def parseObjectType (s : CString) : Option Nat :=
  if s = ['A', 'I'] then some 0
  else if s = ['B', 'I'] then some 3
  else if s = ['M', 'S', 'I'] then some 13
  else if s = ['C', 'S', 'V'] then some 40
  else none

/-- The search in `types[]`. -/
def parseDataType (s : CString) : Option CustomDataType :=
  if s = ['u', '1', '6'] then some .u16
  else if s = ['s', '1', '6'] then some .s16
  else if s = ['u', '3', '2'] then some .u32
  else if s = ['s', '3', '2'] then some .s32
  else if s = ['f', '3', '2'] then some .f32
  else if s = ['b', 'i', 't'] then some .bit
  else if s = ['a', 's', 'c', 'i', 'i'] then some .ascii
  else if s = ['b', 'o', 'o', 'l'] then some .bool
  else none

/-- The loop over the earlier rows. -/
def checkUnique (map : CustomMap) (name : CString) (objectType instanceNumber : Nat) :
    List CustomEntry → Except String Unit
  | [] => .ok ()
  | e :: entries => do
    reject (map.string e.pointDef.name = name) "Duplicate point name"
    reject (e.pointDef.objectType = objectType ∧ e.pointDef.instanceNumber = instanceNumber)
      "Duplicate BACnet object identifier"
    checkUnique map name objectType instanceNumber entries

/-- The checks of `add_row` on the identity of a point: its instance and object type. -/
def rowIdentity (map : CustomMap) (row : CsvRow) : Except String (Nat × Nat) := do
  reject (map.count = CUSTOM_MAX_POINTS) "Maximum 128 points exceeded"
  let instanceNumber ← require (integer (row.field 0) 1 4194302) "Invalid/reserved instance"
  reject (instanceNumber ≥ 9001 ∧ instanceNumber ≤ 9004) "Invalid/reserved instance"
  reject (row.field 1 = [] ∨ (row.field 1).length > 63 ∨
    CString.hasPrefix (row.field 1) "Gateway-".toList)
    "Name must be 1..63 characters and not start Gateway-"
  reject ((row.field 14).length > 127) "Description exceeds 127 characters"
  let objectType ← require (parseObjectType (row.field 2))
    "object_type must be AI, BI, MSI or CSV"
  checkUnique map (row.field 1) objectType instanceNumber map.entries
  return (instanceNumber, objectType)

/-- The checks on what is read: function, offset and data type. -/
def rowSource (row : CsvRow) (objectType : Nat) :
    Except String (Nat × Nat × CustomDataType) := do
  let function ← require (integer (row.field 3) 1 4) "Only read functions 1..4 allowed"
  let offset ← require (integer (row.field 4) 0 65535) "Address must be zero-based 0..65535"
  let kind ← require (parseDataType (row.field 5)) "Unknown data_type"
  reject (function ≤ 2 ∧ (kind ≠ .bool ∨ objectType ≠ 3)) "FC1/2 require BI bool"
  reject (function ≥ 3 ∧ kind = .bool) "bool requires FC1/2; use bit for a register"
  reject (decide (objectType = 40) ≠ decide (kind = .ascii))
    "CSV objects require ascii and vice versa"
  reject (objectType = 3 ∧ kind ≠ .bit ∧ kind ≠ .bool) "BI requires bit or bool"
  reject (objectType = 13 ∧ kind.index > CustomDataType.s32.index)
    "MSI requires an integer data_type"
  reject (objectType = 0 ∧ kind.index > CustomDataType.f32.index)
    "AI requires a numeric data_type"
  return (function, offset, kind)

/-- `units`; 95 is `no-units`. -/
def rowUnits (row : CsvRow) : Except String Nat :=
  if row.field 9 = [] then .ok 95
  else require (integer (row.field 9) 0 65535) "Units must be a BACnet units enumeration"

/-- The checks on the value: scale, offset and units. -/
def rowScaling (strtod : Strtod) (row : CsvRow) (objectType : Nat) (kind : CustomDataType) :
    Except String (Float × Float × Nat) := do
  let scale ← require (number strtod (row.field 7) 1) "Scale/offset must be finite numbers"
  let offset ← require (number strtod (row.field 8) 0) "Scale/offset must be finite numbers"
  reject ((kind = .bit ∨ kind = .bool ∨ kind = .ascii) ∧ (scale != 1 ∨ offset != 0))
    "Bit/bool/ascii require scale=1 and offset=0"
  let units ← rowUnits row
  reject (objectType ≠ 0 ∧ units ≠ 95) "Only AI can have engineering units"
  return (scale, offset, units)

/-- `order`. -/
def rowOrder (row : CsvRow) (kind : CustomDataType) : Except String Nat :=
  let order := row.field 6
  if kind = .bool then
    if order = [] then .ok 0 else .error "bool byte_order must be empty"
  else if kind.wide then
    if order = ['A', 'B', 'C', 'D'] then .ok 0
    else if order = ['B', 'A', 'D', 'C'] then .ok 1
    else if order = ['C', 'D', 'A', 'B'] then .ok 2
    else if order = ['D', 'C', 'B', 'A'] then .ok 3
    else .error "32-bit byte_order must be ABCD, BADC, CDAB or DCBA"
  else if order = ['A', 'B'] then .ok 0
  else if order = ['B', 'A'] then .ok 1
  else .error "16-bit/ascii byte_order must be AB or BA"

/-- The layout of the words of a point. -/
structure RowLayout where
  bitLsb : Nat
  bitWidth : Nat
  length : Nat
  wordCount : Nat
  order : Nat
  pollMs : Nat

/-- `bit_lsb`. -/
def rowBit (row : CsvRow) (kind : CustomDataType) : Except String Nat :=
  if kind = .bit then require (integer (row.field 10) 0 15) "bit must be 0..15"
  else if row.field 10 = [] then .ok 0
  else .error "bit field is valid only for bit data_type"

/-- `length`. -/
def rowLength (row : CsvRow) (kind : CustomDataType) : Except String Nat :=
  if kind = .ascii then
    require (integer (row.field 12) 1 (ATS_MAX_POINT_WORDS * 2))
      "ASCII length must be 1..20 characters"
  else if row.field 12 = [] then .ok 0
  else .error "length field is valid only for ascii"

/-- `word_count`. -/
def wordCount (kind : CustomDataType) (length : Nat) : Nat :=
  if kind = .ascii then (length + 1) / 2 else if kind.wide then 2 else 1

/-- The checks on the layout and the poll interval. -/
def rowLayout (row : CsvRow) (offset : Nat) (kind : CustomDataType) :
    Except String RowLayout := do
  let bitLsb ← rowBit row kind
  let length ← rowLength row kind
  reject (wordCount kind length + offset > 65536) "Point extends past address 65535"
  let order ← rowOrder row kind
  let pollMs ← require (integer (row.field 13) 1000 3600000) "poll_ms must be 1000..3600000"
  return {
    bitLsb, length, order, pollMs
    bitWidth := if kind = .bit then 1 else 0
    wordCount := wordCount kind length }

/-- The loop over the labels of the states field, `strchr` finding the end of each in turn. The first
label of the point is at `first` and `count` are stored. -/
def addLabels (first : Nat) : List CString → Nat → CustomMap → Except String (Nat × CustomMap)
  | [], count, map => .ok (count, map)
  | label :: labels, count, map => do
    reject (label = [] ∨ label.length > 63 ∨ count = CUSTOM_MAX_STATES ∨
      map.statesUsed = CUSTOM_MAX_TOTAL_STATES)
      "Invalid state label/count; max16 per point,512 total"
    reject (∃ previous ∈ (map.stateText.drop first).take count, map.string previous = label)
      "Duplicate MSI state label"
    let (offset, map) ← require (saveString map label) "String storage limit exceeded"
    addLabels first labels (count + 1) { map with stateText := map.stateText ++ [offset] }

/-- The states of a point: how many there are, where they start and the map with them. -/
def rowStates (map : CustomMap) (row : CsvRow) (objectType : Nat) :
    Except String (Nat × Option Nat × CustomMap) :=
  if objectType = 13 then do
    reject (row.field 11 = []) "MSI states must contain 1..16 pipe-separated labels"
    let (count, map') ← addLabels map.statesUsed ((row.field 11).splitOn '|') 0 map
    return (count, some map.statesUsed, map')
  else do
    reject (row.field 11 ≠ []) "states field is valid only for MSI"
    return (0, none, map)

/-- `add_row`. -/
def addRow (strtod : Strtod) (map : CustomMap) (row : CsvRow) : Except String CustomMap := do
  let (instanceNumber, objectType) ← rowIdentity map row
  let (function, offset, kind) ← rowSource row objectType
  let (scale, shift, units) ← rowScaling strtod row objectType kind
  let layout ← rowLayout row offset kind
  let (name, map) ← require (saveString map (row.field 1)) "String storage limit exceeded"
  let (description, map) ← require (saveString map (row.field 14)) "String storage limit exceeded"
  let (stateCount, stateText, map) ← rowStates map row objectType
  let pointDef : CustomDef :=
    { objectType, instanceNumber, name, description, units, stateCount, stateText, offset
      wordCount := layout.wordCount
      bitLsb := layout.bitLsb
      bitWidth := layout.bitWidth }
  let point : CustomPoint :=
    { dataType := kind, function
      order := layout.order
      length := layout.length
      pollMs := layout.pollMs
      scale
      offset := shift }
  return { map with entries := map.entries ++ [{ pointDef, point }] }

/-! ## The whole text -/

def syntaxError : String := "Invalid CSV syntax, field size or non-ASCII text"

/-- The loop over the rows of `custom_map_parse`, the line and the reason being those of the error. -/
def parseRows (strtod : Strtod) (line : Nat) (map : CustomMap) (csv : List Char) :
    Except (Nat × String) CustomMap :=
  if csv = [] then
    if map.count = 0 then .error (line, "At least one point is required") else .ok map
  else
    match hrow : readRow csv with
    | none => .error (line + 1, syntaxError)
    | some (row, rest) =>
      match addRow strtod map row with
      | .error why => .error (line + 1, why)
      | .ok map => parseRows strtod (line + 1) map rest
termination_by csv.length
decreasing_by exact readRow_lt hrow

/-- The body of `custom_map_parse`; `memory` says whether its two allocations succeed. -/
def parseMap (strtod : Strtod) (memory : Bool) (csv : List Char) :
    Except (Nat × String) CustomMap :=
  if csv = [] ∨ csv.length > CUSTOM_MAX_CSV_BYTES then
    .error (1, "CSV size must be 1..32768 bytes")
  else if ¬ memory then .error (1, "Insufficient memory")
  else if ¬ CUSTOM_CSV_HEADER.isPrefixOf csv ∨
      ∃ c ∈ csv[CUSTOM_CSV_HEADER.length]?, c ≠ '\r' ∧ c ≠ '\n' then
    .error (1, "Header must match documented 15 columns exactly")
  else
    match readRow csv with
    | none => .error (1, syntaxError)
    | some (_, rest) => parseRows strtod 1 {} rest

/-- `snprintf(error, size, ...)` into a buffer that is empty before. -/
def errorText (size : Nat) (text : CString) : CString := text.take (size - 1)

/-- `custom_map_parse`: whether it succeeds, the caller's map and the error text. -/
def customMapParse (strtod : Strtod) (memory : Bool) (map : CustomMap) (csv : List Char)
    (errorSize : Nat) : Bool × CustomMap × CString :=
  match parseMap strtod memory csv with
  | .ok parsed => (true, parsed, [])
  | .error (line, why) =>
    (false, map, errorText errorSize ("Line " ++ toString line ++ ": " ++ why).toList)

end ModbusGateway
