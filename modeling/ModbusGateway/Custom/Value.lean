import ModbusGateway.Custom.Map

/-!
# Decoding a custom point

`custom_map_apply`. The source decodes into a copy of the value and copies it back on success; here
`customDecode` gives the reading and `AtsValue.store` is the copy. A `double` is a `Float`; the
target computes on doubles in software, so a product and a sum are rounded one by one.
-/

namespace ModbusGateway

/-! ## Floating point -/

/-- `FLT_MAX` as a double. -/
def FLT_MAX : Float := Float.ofBits 0x47efffffe0000000

/-- `2^-149`, the unit of a subnormal `float`. -/
def floatUnit32 : Float := Float.ofBits 0x36a0000000000000

/-- The double of a `float` with the given bits. -/
def floatOfBits32 (bits : Nat) : Float :=
  let sign := bits / 2 ^ 31 % 2
  let exponent := bits / 2 ^ 23 % 2 ^ 8
  let fraction := bits % 2 ^ 23
  if exponent = 0 then
    let magnitude := fraction.toFloat * floatUnit32
    if sign = 1 then -magnitude else magnitude
  else
    let exponent := if exponent = 255 then 2047 else exponent + 896
    Float.ofBits (UInt64.ofNat (sign * 2 ^ 63 + exponent * 2 ^ 52 + fraction * 2 ^ 29))

/-- `floor`. From `2^53` on a double has no fraction. -/
def floatFloor (x : Float) : Float :=
  if x.isFinite && x.abs < 9007199254740992.0 then
    let t := x.abs.toUInt64.toNat.toFloat
    if 0.0 ≤ x then t else if t == x.abs then x else -t - 1.0
  else x

/-! ## Readings -/

def swap16 (word : UInt16) : UInt16 := word >>> 8 ||| word <<< 8

/-- What a response says: a number, or the characters of a text. -/
inductive CustomReading where
  | number (n : Float)
  | text (chars : List Char)

/-- The character `i` of a text point. -/
def asciiByte (p : CustomPoint) (words : Nat → UInt16) (i : Nat) : Nat :=
  let word := if p.order ≠ 0 then swap16 (words (i / 2)) else words (i / 2)
  (if i % 2 = 1 then word.toNat else word.toNat / 256) % 256

/-- The text loop from character `i` on, `n` characters before the end. -/
def decodeAscii (p : CustomPoint) (words : Nat → UInt16) (ended : Bool) (i : Nat) :
    Nat → Option (List Char)
  | 0 => some []
  | n + 1 =>
    let ch := asciiByte p words i
    let ended := ended || ch == 0
    if (ch ≠ 0 ∧ (ch < 32 ∨ 126 < ch)) ∨ (ended ∧ ch ≠ 0) then none
    else (decodeAscii p words ended (i + 1) n).map (Char.ofNat ch :: ·)

/-- `a`: the first word in the order of the host. -/
def firstWord (p : CustomPoint) (words : Nat → UInt16) : Nat :=
  (if p.order % 2 = 1 then swap16 (words 0) else words 0).toNat

/-- `full`: the two words of a 32-bit point in the order of the host. -/
def fullWord (p : CustomPoint) (words : Nat → UInt16) (count : Nat) : Nat :=
  if count = 2 then
    let a := firstWord p words
    let b := (if p.order % 2 = 1 then swap16 (words 1) else words 1).toNat
    if p.order / 2 % 2 = 1 then b * 2 ^ 16 + a else a * 2 ^ 16 + b
  else 0

/-- The number on the wire, before it is scaled. -/
def rawNumber (d : CustomDef) (p : CustomPoint) (words : Nat → UInt16) (count : Nat) :
    Option Float :=
  let a := firstWord p words
  let full := fullWord p words count
  match p.dataType with
  | .u16 => some a.toFloat
  | .s16 => some (if 0x8000 ≤ a then a.toFloat - 65536.0 else a.toFloat)
  | .u32 => some full.toFloat
  | .s32 => some (if 0x80000000 ≤ full then full.toFloat - 4294967296.0 else full.toFloat)
  | .f32 => some (floatOfBits32 full)
  | .bit => some (a / 2 ^ d.bitLsb % 2).toFloat
  | .bool => if 1 < words 0 then none else some (words 0).toNat.toFloat
  | .ascii => none

/-- The reading of a response of `count` words; `none` is a jump to `invalid`. -/
def customDecode (d : CustomDef) (p : CustomPoint) (words : Nat → UInt16) (count : Nat) :
    Option CustomReading :=
  if p.dataType = .ascii then (decodeAscii p words false 0 p.length).map .text
  else do
    let n ← rawNumber d p words count
    let n := n * p.scale + p.offset
    if ¬ n.isFinite ∨ FLT_MAX < n.abs then none
    else if d.objectType = OBJECT_MULTI_STATE_INPUT ∧
        (n < 1.0 ∨ d.stateCount.toFloat < n ∨ floatFloor n != n) then none
    else return .number n

/-- The reading in the copy of the value. A text is terminated; what stood behind it stays. -/
def AtsValue.store (value : AtsValue) : CustomReading → AtsValue
  | .number n => { value with numeric := n }
  | .text chars =>
    { value with
      text := fun j => if j ≤ chars.length then chars.getD j '\x00' else value.text j }

/-- A valid response of `count` words that came in at `now`. -/
def AtsValue.accept (value : AtsValue) (reading : CustomReading) (words : Nat → UInt16)
    (count now : Nat) : AtsValue :=
  { value.store reading with
    rawCount := count
    rawWords := fun j => if j < count then words j else value.rawWords j
    quality := .good
    qualityReason := "Validated custom-map value"
    lastGoodMs := now }

/-- `custom_map_apply`: the value afterwards, and the result. -/
def customMapApply (map : CustomMap) (index : Nat) (words : Nat → UInt16) (count now : Nat)
    (value : AtsValue) : AtsValue × Bool :=
  match map.entries[index]? with
  | none => (value, false)
  | some e =>
    if count ≠ e.pointDef.wordCount then (value, false)
    else
      match customDecode e.pointDef e.point words count with
      | some reading => (value.accept reading words count now, true)
      | none =>
        (value.grade .unverified "Invalid/nonfinite decoded value or out-of-range state", false)

end ModbusGateway
