import ModbusGateway.Custom.Value

/-!
# Decoding with checked accesses

`custom_map_apply` once more, now with the response as the array of its words and with every read and
write of an array checked. The outer `none` is an access outside an array or a jump to the `default`
branch of the type switch; everything else is as in `customMapApply`.
-/

namespace ModbusGateway

/-- `next.text[i] = ch`. -/
def textSet (text : Nat → Char) (i : Nat) (ch : Char) : Option (Nat → Char) :=
  if i < ATS_TEXT_CAPACITY then some (Function.update text i ch) else none

/-- The text loop, `n` characters before its end; the inner `none` is a jump to `invalid`. -/
def asciiChecked (p : CustomPoint) (words : List UInt16) :
    Nat → Nat → Bool → (Nat → Char) → Option (Option (Nat → Char))
  | 0, _, _, text => some (some text)
  | n + 1, i, ended, text => do
    let word ← words[i / 2]?
    let word := if p.order ≠ 0 then swap16 word else word
    let ch := (if i % 2 = 1 then word.toNat else word.toNat / 256) % 256
    let ended := ended || ch == 0
    if (ch ≠ 0 ∧ (ch < 32 ∨ 126 < ch)) ∨ (ended ∧ ch ≠ 0) then return none
    else
      let text ← textSet text i (Char.ofNat ch)
      asciiChecked p words n (i + 1) ended text

/-- The numeric branch up to the scaling. -/
def rawChecked (d : CustomDef) (p : CustomPoint) (words : List UInt16) : Option (Option Float) := do
  let w₀ ← words[0]?
  let a := (if p.order % 2 = 1 then swap16 w₀ else w₀).toNat
  let full ←
    if words.length = 2 then do
      let w₁ ← words[1]?
      let b := (if p.order % 2 = 1 then swap16 w₁ else w₁).toNat
      pure (if p.order / 2 % 2 = 1 then b * 2 ^ 16 + a else a * 2 ^ 16 + b)
    else pure 0
  match p.dataType with
  | .u16 => return some a.toFloat
  | .s16 => return some (if 0x8000 ≤ a then a.toFloat - 65536.0 else a.toFloat)
  | .u32 => return some full.toFloat
  | .s32 => return some (if 0x80000000 ≤ full then full.toFloat - 4294967296.0 else full.toFloat)
  | .f32 => return some (floatOfBits32 full)
  | .bit => return some (a / 2 ^ d.bitLsb % 2).toFloat
  | .bool => return if 1 < w₀ then none else some w₀.toNat.toFloat
  | .ascii => none

/-- `memcpy(next.raw_words, words, count * sizeof(*words))`. -/
def rawWordsSet (raw : Nat → UInt16) (words : List UInt16) : Option (Nat → UInt16) :=
  if words.length ≤ ATS_MAX_POINT_WORDS then
    some fun j => if j < words.length then words.getD j 0 else raw j
  else none

/-- The value with its numeric or text part replaced; the inner `none` is a jump to `invalid`. -/
def readingChecked (d : CustomDef) (p : CustomPoint) (words : List UInt16) (value : AtsValue) :
    Option (Option AtsValue) :=
  if p.dataType = .ascii then do
    -- `words[0]` is read before the type is looked at.
    let _ ← words[0]?
    let some text ← asciiChecked p words p.length 0 false value.text | return none
    let text ← textSet text p.length '\x00'
    return some { value with text }
  else do
    let some n ← rawChecked d p words | return none
    let n := n * p.scale + p.offset
    if ¬ n.isFinite ∨ FLT_MAX < n.abs then return none
    else if d.objectType = OBJECT_MULTI_STATE_INPUT ∧
        (n < 1.0 ∨ d.stateCount.toFloat < n ∨ floatFloor n != n) then return none
    else return some { value with numeric := n }

/-- `custom_map_apply` on the `count` words of a response. -/
def customMapApplyChecked (map : CustomMap) (index : Nat) (words : List UInt16) (now : Nat)
    (value : AtsValue) : Option (AtsValue × Bool) :=
  match map.entries[index]? with
  | none => some (value, false)
  | some e =>
    if words.length ≠ e.pointDef.wordCount then some (value, false)
    else do
      match ← readingChecked e.pointDef e.point words value with
      | none =>
        return (value.grade .unverified "Invalid/nonfinite decoded value or out-of-range state",
          false)
      | some next =>
        let rawWords ← rawWordsSet next.rawWords words
        return ({ next with
          rawWords
          rawCount := words.length
          quality := .good
          qualityReason := "Validated custom-map value"
          lastGoodMs := now }, true)

end ModbusGateway
