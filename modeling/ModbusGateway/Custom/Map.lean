import ModbusGateway.Ats.Model

/-!
# Custom maps

The types of `custom_map.h`. A string of a map is an offset into the map's own string area and a
state table an index into its label table, so that moving a map moves nothing else: the rebasing of
pointers at the end of the parser is the identity here.
-/

namespace ModbusGateway

def CUSTOM_MAX_POINTS : Nat := 128
def CUSTOM_MAX_CSV_BYTES : Nat := 32768
def CUSTOM_MAX_STATES : Nat := 16
def CUSTOM_MAX_TOTAL_STATES : Nat := 512

/-- `custom_data_type_t`. -/
inductive CustomDataType where
  | u16
  | s16
  | u32
  | s32
  | f32
  | bit
  | ascii
  | bool
  deriving DecidableEq, Repr

/-- `custom_point_t`. -/
structure CustomPoint where
  dataType : CustomDataType
  function : Nat
  order : Nat
  length : Nat
  pollMs : Nat
  scale : Float
  offset : Float

/-- The `ats_point_def_t` of a custom point, with its strings inside the map. -/
structure CustomDef where
  objectType : Nat
  instanceNumber : Nat
  name : Nat
  description : Nat
  units : Nat
  stateCount : Nat
  stateText : Option Nat
  offset : Nat
  wordCount : Nat
  bitLsb : Nat
  bitWidth : Nat

/-- `defs[i]` and `points[i]`. -/
structure CustomEntry where
  pointDef : CustomDef
  point : CustomPoint

/-- `custom_map_t`: the rows that are set, the used part of `strings` and that of `state_text`. -/
structure CustomMap where
  entries : List CustomEntry := []
  strings : List Char := []
  stateText : List Nat := []

namespace CustomMap
variable (map : CustomMap)

abbrev count : Nat := map.entries.length

def defs (i : Fin map.count) : CustomDef := map.entries[i].pointDef
def points (i : Fin map.count) : CustomPoint := map.entries[i].point
def stringsUsed : Nat := map.strings.length
def statesUsed : Nat := map.stateText.length

/-- The C string at an offset of `strings`. -/
def string (offset : Nat) : CString := (map.strings.drop offset).takeWhile (· != '\x00')

/-- `state_text[0]`, ..., `state_text[state_count - 1]` of a point. -/
def labels (d : CustomDef) : Option (List CString) :=
  d.stateText.map fun first => ((map.stateText.drop first).take d.stateCount).map map.string

/-- A custom point as the catalogue entry it is used as. -/
def resolve (d : CustomDef) : AtsPointDef where
  objectType := d.objectType
  instanceNumber := d.instanceNumber
  name := map.string d.name
  description := map.string d.description
  units := d.units
  stateCount := d.stateCount
  stateText := map.labels d
  offset := d.offset
  wordCount := d.wordCount
  bitLsb := d.bitLsb
  bitWidth := d.bitWidth

end CustomMap

/-- `custom_map_stale_ms`. -/
def customMapStaleMs (map : CustomMap) (index : Nat) : Nat :=
  match map.entries[index]? with
  | none => 0
  | some e => max (max (e.point.pollMs * 3) (map.count * 3 * 250 + 1200)) 5000

end ModbusGateway
