import ModbusGateway.Verify.MapParse

/-!
# Points as they are documented

A point of a map in its own terms, the limits a point must meet, and the rows and texts a list of
points may be written as. `Shows` says that an entry of a map is a given point, with every string
inside the map.
-/

namespace ModbusGateway

inductive ObjectKind where
  | analogInput
  | binaryInput
  | multiStateInput
  | characterString
  deriving DecidableEq

namespace ObjectKind

def text : ObjectKind → CString
  | analogInput => ['A', 'I']
  | binaryInput => ['B', 'I']
  | multiStateInput => ['M', 'S', 'I']
  | characterString => ['C', 'S', 'V']

def code : ObjectKind → Nat
  | analogInput => OBJECT_ANALOG_INPUT
  | binaryInput => OBJECT_BINARY_INPUT
  | multiStateInput => OBJECT_MULTI_STATE_INPUT
  | characterString => OBJECT_CHARACTERSTRING_VALUE

end ObjectKind

inductive ByteOrder where
  | none
  | AB
  | BA
  | ABCD
  | BADC
  | CDAB
  | DCBA
  deriving DecidableEq

namespace ByteOrder

def text : ByteOrder → CString
  | none => []
  | AB => ['A', 'B']
  | BA => ['B', 'A']
  | ABCD => ['A', 'B', 'C', 'D']
  | BADC => ['B', 'A', 'D', 'C']
  | CDAB => ['C', 'D', 'A', 'B']
  | DCBA => ['D', 'C', 'B', 'A']

def code : ByteOrder → Nat
  | none | AB | ABCD => 0
  | BA | BADC => 1
  | CDAB => 2
  | DCBA => 3

end ByteOrder

def CustomDataType.text : CustomDataType → CString
  | .u16 => ['u', '1', '6']
  | .s16 => ['s', '1', '6']
  | .u32 => ['u', '3', '2']
  | .s32 => ['s', '3', '2']
  | .f32 => ['f', '3', '2']
  | .bit => ['b', 'i', 't']
  | .ascii => ['a', 's', 'c', 'i', 'i']
  | .bool => ['b', 'o', 'o', 'l']

/-- The data types an object of some kind can be read as, with what function. -/
inductive ReadableAs : ObjectKind → Nat → CustomDataType → Prop
  | discrete : function = 1 ∨ function = 2 → ReadableAs .binaryInput function .bool
  | bit : function = 3 ∨ function = 4 → ReadableAs .binaryInput function .bit
  | text : function = 3 ∨ function = 4 → ReadableAs .characterString function .ascii
  | number : function = 3 ∨ function = 4 → kind ∈ [.u16, .s16, .u32, .s32, .f32] →
    ReadableAs .analogInput function kind
  | state : function = 3 ∨ function = 4 → kind ∈ [.u16, .s16, .u32, .s32] →
    ReadableAs .multiStateInput function kind

/-- The byte orders of a data type. -/
inductive Ordered : CustomDataType → ByteOrder → Prop
  | bool : Ordered .bool .none
  | word : kind ∈ [.u16, .s16, .bit, .ascii] → order ∈ [.AB, .BA] → Ordered kind order
  | double : kind ∈ [.u32, .s32, .f32] → order ∈ [.ABCD, .BADC, .CDAB, .DCBA] →
    Ordered kind order

/-- A point of a map. -/
structure PointSpec where
  instanceNumber : Nat
  name : CString
  object : ObjectKind
  function : Nat
  address : Nat
  kind : CustomDataType
  order : ByteOrder
  scale : Float
  offset : Float
  units : Nat
  bit : Nat
  states : List CString
  length : Nat
  pollMs : Nat
  description : CString

namespace PointSpec
variable (p : PointSpec)

/-- The words it is read from. -/
def words : Nat :=
  match p.kind with
  | .ascii => (p.length + 1) / 2
  | .u32 | .s32 | .f32 => 2
  | _ => 1

/-- Data that is not a number. -/
def Unscaled : Prop := p.kind = .bit ∨ p.kind = .bool ∨ p.kind = .ascii

/-- The documented limits. -/
structure Valid : Prop where
  instance_ge : 1 ≤ p.instanceNumber
  instance_le : p.instanceNumber ≤ 4194302
  unreserved : p.instanceNumber < 9001 ∨ 9004 < p.instanceNumber
  name_ge : 1 ≤ p.name.length
  name_le : p.name.length ≤ 63
  name_unreserved : ¬ "Gateway-".toList <+: p.name
  description_le : p.description.length ≤ 127
  readable : ReadableAs p.object p.function p.kind
  address_le : p.address + p.words ≤ 65536
  ordered : Ordered p.kind p.order
  unscaled : p.Unscaled → (p.scale == 1) = true ∧ (p.offset == 0) = true
  units_le : p.units ≤ 65535
  unitless : p.object ≠ .analogInput → p.units = 95
  bit_le : p.bit ≤ 15
  bit_eq : p.kind ≠ .bit → p.bit = 0
  states_count : p.states.length ≤ 16
  states_each : ∀ s ∈ p.states, 1 ≤ s.length ∧ s.length ≤ 63 ∧ '|' ∉ s
  states_nodup : p.states.Nodup
  states_iff : p.states ≠ [] ↔ p.object = .multiStateInput
  length_le : p.length ≤ 20
  length_iff : 1 ≤ p.length ↔ p.kind = .ascii
  poll_ge : 1000 ≤ p.pollMs
  poll_le : p.pollMs ≤ 3600000

/-- The fields of a row for the point. Numerals are decimal; `units` may be left out for 95, and what
`strtod` makes of a field is taken as given. -/
structure IsRow (strtod : Strtod) (row : CsvRow) : Prop where
  fits : FittingRow row FIELD_COUNT
  instanceNumber : Decimal (row.field 0) p.instanceNumber
  name : row.field 1 = p.name
  object : row.field 2 = p.object.text
  function : Decimal (row.field 3) p.function
  address : Decimal (row.field 4) p.address
  kind : row.field 5 = p.kind.text
  order : row.field 6 = p.order.text
  scale : number strtod (row.field 7) 1 = some p.scale
  offset : number strtod (row.field 8) 0 = some p.offset
  units : Decimal (row.field 9) p.units ∨ row.field 9 = [] ∧ p.units = 95
  bit : if p.kind = .bit then Decimal (row.field 10) p.bit else row.field 10 = []
  states : row.field 11 = ['|'].intercalate p.states
  length : if p.kind = .ascii then Decimal (row.field 12) p.length else row.field 12 = []
  pollMs : Decimal (row.field 13) p.pollMs
  description : row.field 14 = p.description

end PointSpec

/-- The documented limits on all points of a map together. -/
structure ValidPoints (points : List PointSpec) : Prop where
  each : ∀ p ∈ points, p.Valid
  count_ge : 1 ≤ points.length
  count_le : points.length ≤ 128
  names : points.Pairwise fun p q => p.name ≠ q.name
  identifiers : points.Pairwise fun p q => (p.object, p.instanceNumber) ≠ (q.object, q.instanceNumber)
  states : (points.map fun p => p.states.length).sum ≤ 512

/-- The text is the exact header and a row for each point, with any line ends and quotes. -/
def Rendering (strtod : Strtod) (points : List PointSpec) (csv : List Char) : Prop :=
  ∃ e rows body, csv = CUSTOM_CSV_HEADER ++ (e ++ body) ∧ Csv.Eol e ∧ Csv.Lines Plain rows body ∧
    List.Forall₂ (fun row p => p.IsRow strtod row) rows points

/-- The entry is this point, and its strings and labels lie in the map. -/
structure CustomMap.Shows (map : CustomMap) (e : CustomEntry) (p : PointSpec) : Prop where
  instanceNumber : e.pointDef.instanceNumber = p.instanceNumber
  name : map.Stored e.pointDef.name p.name
  description : map.Stored e.pointDef.description p.description
  objectType : e.pointDef.objectType = p.object.code
  function : e.point.function = p.function
  offset : e.pointDef.offset = p.address
  dataType : e.point.dataType = p.kind
  wordCount : e.pointDef.wordCount = p.words
  order : e.point.order = p.order.code
  scale : e.point.scale = p.scale
  shift : e.point.offset = p.offset
  units : e.pointDef.units = p.units
  bitLsb : e.pointDef.bitLsb = p.bit
  bitWidth : e.pointDef.bitWidth = if p.kind = .bit then 1 else 0
  stateCount : e.pointDef.stateCount = p.states.length
  states : map.StatesAt e.pointDef.stateText (if p.states = [] then none else some p.states)
  length : e.point.length = p.length
  pollMs : e.point.pollMs = p.pollMs

end ModbusGateway
