import ModbusGateway.Basic
import Mathlib.Data.Rat.Floor

/-!
# JSON as the gateway sees it

The two scanners of `gateway_config.c` that run before cJSON, and what cJSON makes of a text. cJSON
itself is a parameter: `CjsonParse` is the result of `cJSON_ParseWithLengthOpts`.
-/

namespace ModbusGateway

/-! ## The scanners -/

/-- The loop of `gateway_json_has_nul`: an escape is skipped with the character behind it. -/
def hasNulEscape : List Char → Bool
  | [] => false
  | [_] => false
  | c :: c' :: text =>
    if c = '\\' then
      if ['u', '0', '0', '0', '0'].isPrefixOf (c' :: text) then true else hasNulEscape text
    else hasNulEscape (c' :: text)

/-- `gateway_json_has_nul`. -/
def gatewayJsonHasNul (text : List Char) : Bool := text.contains '\x00' || hasNulEscape text

/-- The loop of `gateway_json_is_flat`; `skip` is set behind a backslash in a string. -/
def flatLoop (skip quoted : Bool) (depth : Nat) : List Char → Bool
  | [] => !quoted && depth == 0
  | c :: text =>
    if skip then flatLoop false quoted depth text
    else if quoted ∧ c = '\\' then flatLoop true quoted depth text
    else if c = '"' then flatLoop false (!quoted) depth text
    else if quoted then flatLoop false quoted depth text
    else if c = '{' ∨ c = '[' then
      if depth + 1 > 1 then false else flatLoop false quoted (depth + 1) text
    else if c = '}' ∨ c = ']' then
      if depth = 0 then false else flatLoop false quoted (depth - 1) text
    else flatLoop false quoted depth text

/-- `gateway_json_is_flat`. -/
def gatewayJsonIsFlat (text : List Char) : Bool := flatLoop false false 0 text

/-! ## Parsed values -/

/-- A value of an object: the exact value of a `valuedouble`, if it is finite, or a `valuestring`. -/
inductive JsonValue where
  | number (value : Option Rat)
  | string (s : CString)
  | other
  deriving DecidableEq

/-- The children of an object in order, with their names. -/
abbrev JsonMembers := List (CString × JsonValue)

/-- What `cJSON_ParseWithLengthOpts` returns: the object, if it is one, and where it stopped. -/
structure CjsonResult where
  object : Option JsonMembers
  stop : Option Nat

abbrev CjsonParse := List Char → CjsonResult

/-- `cJSON_GetObjectItemCaseSensitive`. -/
def getItem (members : JsonMembers) (key : CString) : Option JsonValue :=
  (members.find? fun m => m.1 = key).map Prod.snd

def jsonSpace (c : Char) : Bool := c = ' ' || c = '\r' || c = '\n' || c = '\t'

/-- The object of a text that holds nothing else but white space behind it. -/
def completeObject (parse : CjsonParse) (text : List Char) : Option JsonMembers :=
  match parse text with
  | ⟨some members, some stop⟩ =>
    if stop ≤ text.length ∧ (text.drop stop).all jsonSpace then some members else none
  | _ => none

/-- The conversion of a `double` to an unsigned type of some width. -/
def narrow (bits : Nat) (value : Rat) : Nat := value.floor.toNat % 2 ^ bits

/-- `number`. -/
def jsonNumber (members : JsonMembers) (key : CString) (low high : Nat) : Option Rat :=
  match getItem members key with
  | some (.number (some v)) =>
    if v < low ∨ v > high ∨ (v.floor : Rat) ≠ v then none else some v
  | _ => none

/-- `string`. -/
def jsonString (members : JsonMembers) (key : CString) (capacity : Nat) : Option CString :=
  match getItem members key with
  | some (.string s) =>
    if s = [] ∨ s.length ≥ capacity ∨ ∃ c ∈ s, c.toNat < 32 ∨ c.toNat > 126 then none else some s
  | _ => none

end ModbusGateway
