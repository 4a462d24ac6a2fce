import Mathlib.Data.List.GetD
import ModbusGateway.Theory.Binary64
import ModbusGateway.Verify.MapSafety

/-!
# Decoding what a device sends

A value as the device has it, its bytes with the most significant one first, and the order in which
the letters of a byte order put them on the wire. `customMapApply` finds the value again, for every
point that is not scaled.
-/

namespace ModbusGateway

open Binary64

/-! ## Values on the wire -/

/-- A value of a device. A bit is read together with the register it stands in. -/
inductive DeviceValue where
  | u16 (n : UInt16)
  | s16 (n : Int16)
  | u32 (n : UInt32)
  | s32 (n : Int32)
  | f32 (pattern : UInt32)
  | bit (register : UInt16)
  | bool (b : Bool)
  | ascii (chars : List Char)

namespace DeviceValue

def kind : DeviceValue → CustomDataType
  | u16 _ => .u16
  | s16 _ => .s16
  | u32 _ => .u32
  | s32 _ => .s32
  | f32 _ => .f32
  | bit _ => .bit
  | bool _ => .bool
  | ascii _ => .ascii

/-- The bits of a number, as a natural number. -/
def bits : DeviceValue → Nat
  | u16 n => n.toNat
  | s16 n => n.toUInt16.toNat
  | u32 n => n.toNat
  | s32 n => n.toUInt32.toNat
  | f32 pattern => pattern.toNat
  | bit register => register.toNat
  | bool b => b.toNat
  | ascii _ => 0

/-- Byte `i`, `A` being byte 0. A text is padded with NUL. -/
def byte (v : DeviceValue) (i : Nat) : Nat :=
  match v with
  | ascii chars => (chars.getD i '\x00').toNat
  | u32 _ | s32 _ | f32 _ => v.bits / 256 ^ (3 - i) % 256
  | _ => v.bits / 256 ^ (1 - i) % 256

/-- The number of a value; bit `bitLsb` of a register. -/
def number (bitLsb : Nat) : DeviceValue → Option ℚ
  | u16 n => some n.toNat
  | s16 n => some n.toInt
  | u32 n => some n.toNat
  | s32 n => some n.toInt
  | f32 pattern => patternNumber Float.Model.Format.binary32 pattern.toNat
  | bit register => some (register.toNat / 2 ^ bitLsb % 2 : Nat)
  | bool b => some b.toNat
  | ascii _ => none

/-- The value is one of the point: a `float` is finite, a text is printable and not too long. -/
structure Of (v : DeviceValue) (p : CustomPoint) : Prop where
  kind : v.kind = p.dataType
  finite : ∀ pattern, v = f32 pattern → pattern.toNat / 2 ^ 23 % 2 ^ 8 ≠ 255
  length : ∀ chars, v = ascii chars → chars.length ≤ p.length
  printable : ∀ chars, v = ascii chars → ∀ c ∈ chars, 32 ≤ c.toNat ∧ c.toNat ≤ 126

end DeviceValue

/-- Which byte of a value stands at place `i` of the wire: the letters name the bytes, again and again
for a longer text. -/
def ByteOrder.place (order : ByteOrder) (i : Nat) : Nat :=
  match order.text with
  | [] => i
  | letters =>
    i / letters.length * letters.length +
      ((letters.getD (i % letters.length) 'A').toNat - 'A'.toNat)

/-- Register `i` of a value that is sent in some order. -/
def DeviceValue.word (v : DeviceValue) (order : ByteOrder) (i : Nat) : UInt16 :=
  UInt16.ofNat (v.byte (order.place (2 * i)) * 256 + v.byte (order.place (2 * i + 1)))

example : (DeviceValue.u32 0x12345678).word .CDAB 0 = 0x5678 ∧
    (DeviceValue.ascii ['A', 'B', 'C']).word .BA 1 = 0x0043 := by decide

/-- A number of states has this state. -/
def InStates (d : CustomDef) (v : DeviceValue) : Prop :=
  d.objectType = OBJECT_MULTI_STATE_INPUT →
    ∃ state : Nat, v.number d.bitLsb = some (state : ℚ) ∧ 1 ≤ state ∧ state ≤ d.stateCount

/-- A value has been read: the double is the number, and so is the pattern of a `float`; the text is
terminated by the padding; the rest is that of a good reading of this response. -/
structure DeviceValue.ReadAs (v : DeviceValue) (e : CustomEntry) (words : Nat → UInt16) (now : Nat)
    (value : AtsValue) : Prop where
  numeric : ∀ q, v.number e.pointDef.bitLsb = some q → Holds value.numeric q
  pattern : ∀ pattern, v = .f32 pattern → fullWord e.point words e.pointDef.wordCount = pattern.toNat
  text : ∀ chars, v = .ascii chars → ∀ j, j ≤ e.point.length → value.text j = chars.getD j '\x00'
  rawCount : value.rawCount = e.pointDef.wordCount
  rawWords : ∀ j, j < e.pointDef.wordCount → value.rawWords j = words j
  quality : value.quality = .good
  lastGoodMs : value.lastGoodMs = now

/-! ## Words -/

theorem swap16_toNat (w : UInt16) : (swap16 w).toNat = w.toNat % 256 * 256 + w.toNat / 256 := by
  have hlt := w.toNat_lt
  have hlow : w.toNat / 256 < 2 ^ 8 := by omega
  have hshift : (w <<< 8).toNat = (w.toNat % 256) <<< 8 := by
    rw [UInt16.toNat_shiftLeft]
    show w.toNat <<< 8 % 2 ^ 16 = _
    rw [Nat.shiftLeft_eq, Nat.shiftLeft_eq]
    omega
  have hright : (w >>> 8).toNat = w.toNat / 256 := by
    rw [UInt16.toNat_shiftRight]
    show w.toNat >>> 8 = _
    rw [Nat.shiftRight_eq_div_pow]
  rw [swap16, UInt16.toNat_or, hshift, hright, Nat.or_comm, ← Nat.shiftLeft_add_eq_or_of_lt hlow,
    Nat.shiftLeft_eq]

namespace DeviceValue

variable {v : DeviceValue} {p : CustomPoint} {d : CustomDef} {order : ByteOrder} {words : Nat → UInt16}

theorem Of.byte_lt (H : v.Of p) (i : Nat) : v.byte i < 256 := by
  have hmod (n : Nat) : n % 256 < 256 := Nat.mod_lt _ (by decide)
  cases v with
  | ascii chars =>
    show (chars.getD i '\x00').toNat < 256
    by_cases hi : i < chars.length
    · rw [List.getD_eq_getElem _ _ hi]
      exact Nat.lt_of_le_of_lt (H.printable chars rfl _ (List.getElem_mem hi)).2 (by decide)
    · rw [List.getD_eq_default _ _ (Nat.le_of_not_lt hi)]
      decide
  | _ => exact hmod _

theorem Of.word_toNat (H : v.Of p) (order : ByteOrder) (i : Nat) :
    (v.word order i).toNat =
      v.byte (order.place (2 * i)) * 256 + v.byte (order.place (2 * i + 1)) := by
  have hhigh := H.byte_lt (order.place (2 * i))
  have hlow := H.byte_lt (order.place (2 * i + 1))
  rw [word, UInt16.toNat_ofNat']
  omega

/-- One word in the order of the host. -/
theorem Of.firstWord_eq (H : v.Of p) (hwords : words 0 = v.word order 0) (hcode : order.code = p.order)
    (horder : order = .none ∨ order = .AB ∨ order = .BA) :
    firstWord p words = v.byte 0 * 256 + v.byte 1 := by
  have hhigh := H.byte_lt 0
  have hlow := H.byte_lt 1
  unfold firstWord
  rw [← hcode, hwords]
  rcases horder with rfl | rfl | rfl
  · exact H.word_toNat .none 0
  · exact H.word_toNat .AB 0
  · have hword : (v.word .BA 0).toNat = v.byte 1 * 256 + v.byte 0 := H.word_toNat .BA 0
    show (swap16 (v.word .BA 0)).toNat = _
    rw [swap16_toNat, hword]
    omega

/-- Two words in the order of the host. -/
theorem Of.fullWord_eq (H : v.Of p) (h₀ : words 0 = v.word order 0) (h₁ : words 1 = v.word order 1)
    (hcode : order.code = p.order) (horder : order ∈ [.ABCD, .BADC, .CDAB, .DCBA]) :
    fullWord p words 2 =
      v.byte 0 * 2 ^ 24 + v.byte 1 * 2 ^ 16 + v.byte 2 * 2 ^ 8 + v.byte 3 := by
  have hb₀ := H.byte_lt 0
  have hb₁ := H.byte_lt 1
  have hb₂ := H.byte_lt 2
  have hb₃ := H.byte_lt 3
  unfold fullWord firstWord
  rw [if_pos rfl, ← hcode, h₀, h₁]
  simp only [List.mem_cons, List.not_mem_nil, or_false] at horder
  rcases horder with rfl | rfl | rfl | rfl
  · have hw₀ : (v.word .ABCD 0).toNat = v.byte 0 * 256 + v.byte 1 := H.word_toNat .ABCD 0
    have hw₁ : (v.word .ABCD 1).toNat = v.byte 2 * 256 + v.byte 3 := H.word_toNat .ABCD 1
    show (v.word .ABCD 0).toNat * 2 ^ 16 + (v.word .ABCD 1).toNat = _
    omega
  · have hw₀ : (v.word .BADC 0).toNat = v.byte 1 * 256 + v.byte 0 := H.word_toNat .BADC 0
    have hw₁ : (v.word .BADC 1).toNat = v.byte 3 * 256 + v.byte 2 := H.word_toNat .BADC 1
    show (swap16 (v.word .BADC 0)).toNat * 2 ^ 16 + (swap16 (v.word .BADC 1)).toNat = _
    rw [swap16_toNat, swap16_toNat]
    omega
  · have hw₀ : (v.word .CDAB 0).toNat = v.byte 2 * 256 + v.byte 3 := H.word_toNat .CDAB 0
    have hw₁ : (v.word .CDAB 1).toNat = v.byte 0 * 256 + v.byte 1 := H.word_toNat .CDAB 1
    show (v.word .CDAB 1).toNat * 2 ^ 16 + (v.word .CDAB 0).toNat = _
    omega
  · have hw₀ : (v.word .DCBA 0).toNat = v.byte 3 * 256 + v.byte 2 := H.word_toNat .DCBA 0
    have hw₁ : (v.word .DCBA 1).toNat = v.byte 1 * 256 + v.byte 0 := H.word_toNat .DCBA 1
    show (swap16 (v.word .DCBA 1)).toNat * 2 ^ 16 + (swap16 (v.word .DCBA 0)).toNat = _
    rw [swap16_toNat, swap16_toNat]
    omega

end DeviceValue

theorem sum_two {n : Nat} (hn : n < 2 ^ 16) :
    n / 256 ^ (1 - 0) % 256 * 256 + n / 256 ^ (1 - 1) % 256 = n := by
  norm_num
  omega

theorem sum_four {n : Nat} (hn : n < 2 ^ 32) :
    n / 256 ^ (3 - 0) % 256 * 2 ^ 24 + n / 256 ^ (3 - 1) % 256 * 2 ^ 16 +
      n / 256 ^ (3 - 2) % 256 * 2 ^ 8 + n / 256 ^ (3 - 3) % 256 = n := by
  norm_num
  omega

/-! ## Numbers -/

theorem holds_FLT_MAX : Holds FLT_MAX ((2 ^ 53 - 2 ^ 29 : Nat) * 2 ^ (75 : Int)) := by
  have hvalue := scaled_positive (2 ^ 53 - 2 ^ 29) 75
  exact hvalue ▸ (rfl : Binary64.number FLT_MAX.toModel.unpack = some _)

theorem holds_zero : Holds 0 0 := rfl

theorem holds_one : Holds 1 1 := by
  have hvalue : scaled .positive (2 ^ 52) (-52) = 1 := by
    rw [scaled_positive]
    norm_num
  exact hvalue ▸ (rfl : Binary64.number (1 : Float).toModel.unpack = some _)

/-- `65536.0` -/
theorem holds_two_pow_sixteen : Holds 65536.0 (2 ^ 16) := by
  have hvalue : scaled .positive (2 ^ 52) (-36) = 2 ^ 16 := by
    rw [scaled_positive]
    norm_num
  exact hvalue ▸ (rfl : Binary64.number (65536.0 : Float).toModel.unpack = some _)

/-- `4294967296.0` -/
theorem holds_two_pow_thirtyTwo : Holds 4294967296.0 (2 ^ 32) := by
  have hvalue : scaled .positive (2 ^ 52) (-20) = 2 ^ 32 := by
    rw [scaled_positive]
    norm_num
  exact hvalue ▸ (rfl : Binary64.number (4294967296.0 : Float).toModel.unpack = some _)

/-- `9007199254740992.0` -/
theorem holds_two_pow_fiftyThree : Holds 9007199254740992.0 (2 ^ 53) := by
  have hvalue : scaled .positive (2 ^ 52) 1 = 2 ^ 53 := by
    rw [scaled_positive]
    norm_num
  exact hvalue ▸ (rfl : Binary64.number (9007199254740992.0 : Float).toModel.unpack = some _)

theorem holds_floatUnit32 : Holds floatUnit32 (2 ^ (-149 : Int)) := by
  have hvalue : scaled .positive (2 ^ 52) (-201) = 2 ^ (-149 : Int) := by
    have hmantissa : ((2 ^ 52 : Nat) : ℚ) = 2 ^ (52 : Int) := by norm_num
    rw [scaled_positive, hmantissa, ← zpow_add₀ (by norm_num)]
    rfl
  exact hvalue ▸ (rfl : Binary64.number floatUnit32.toModel.unpack = some _)

theorem pattern_float (bits : Nat) : patternNumber Float.Model.Format.binary32 bits =
    if bits / 2 ^ 23 % 2 ^ 8 = 255 then none
    else if bits / 2 ^ 23 % 2 ^ 8 = 0 then
      some ((if bits / 2 ^ 31 % 2 = 1 then -1 else 1) *
        (((bits % 2 ^ 23 : Nat) : ℚ) * 2 ^ (-149 : Int)))
    else
      some ((if bits / 2 ^ 31 % 2 = 1 then -1 else 1) *
        (((2 ^ 23 + bits % 2 ^ 23 : Nat) : ℚ) * 2 ^ (((bits / 2 ^ 23 % 2 ^ 8 : Nat) : Int) - 150))) := rfl

/-- Only an exponent of ones is not a number. -/
theorem pattern_float_isSome {bits : Nat} (h : bits / 2 ^ 23 % 2 ^ 8 ≠ 255) :
    ∃ q, patternNumber Float.Model.Format.binary32 bits = some q := by
  rw [pattern_float, if_neg h]
  split
  · exact ⟨_, rfl⟩
  · exact ⟨_, rfl⟩

/-- A finite `float` is no larger than `FLT_MAX`. -/
theorem pattern_float_le {bits : Nat} (h : patternNumber Float.Model.Format.binary32 bits = some q) :
    |q| ≤ (2 ^ 53 - 2 ^ 29 : Nat) * 2 ^ (75 : Int) := by
  have hfraction : bits % 2 ^ 23 < 2 ^ 23 := Nat.mod_lt _ (by decide)
  have hexponent : bits / 2 ^ 23 % 2 ^ 8 < 2 ^ 8 := Nat.mod_lt _ (by decide)
  have hbound (m : Nat) (e : Int) (hm : m ≤ 2 ^ 24 - 1) (he : e ≤ 104) :
      |(if bits / 2 ^ 31 % 2 = 1 then -1 else 1) * ((m : ℚ) * 2 ^ e)| ≤
        (2 ^ 53 - 2 ^ 29 : Nat) * 2 ^ (75 : Int) := by
    have hsign : |(if bits / 2 ^ 31 % 2 = 1 then -1 else 1 : ℚ)| = 1 := by
      split
      · rw [abs_neg, abs_one]
      · exact abs_one
    have hmq : (m : ℚ) ≤ 2 ^ 24 - 1 := by
      have hcast : (m : ℚ) ≤ ((2 ^ 24 - 1 : Nat) : ℚ) := by exact_mod_cast hm
      norm_num at hcast ⊢
      exact hcast
    have hpow : (2 : ℚ) ^ e ≤ 2 ^ (104 : Int) := zpow_le_zpow_right₀ (by norm_num) he
    have hnonneg : (0 : ℚ) ≤ m * 2 ^ e := by positivity
    rw [abs_mul, hsign, one_mul, abs_of_nonneg hnonneg]
    calc (m : ℚ) * 2 ^ e ≤ (2 ^ 24 - 1) * 2 ^ (104 : Int) :=
          mul_le_mul hmq hpow (by positivity) (by norm_num)
      _ = (2 ^ 53 - 2 ^ 29 : Nat) * 2 ^ (75 : Int) := by norm_num
  rw [pattern_float] at h
  split at h
  · cases h
  · split at h
    · cases h
      exact hbound _ _ (by omega) (by decide)
    · cases h
      exact hbound _ _ (by omega) (by omega)

/-- The double of a finite `float`. -/
theorem holds_floatOfBits32 {bits : Nat}
    (h : patternNumber Float.Model.Format.binary32 bits = some q) : Holds (floatOfBits32 bits) q := by
  rw [pattern_float] at h
  have hfraction : bits % 2 ^ 23 < 2 ^ 23 := Nat.mod_lt _ (by decide)
  have hexponent : bits / 2 ^ 23 % 2 ^ 8 < 2 ^ 8 := Nat.mod_lt _ (by decide)
  have hsign : bits / 2 ^ 31 % 2 < 2 := Nat.mod_lt _ (by decide)
  unfold floatOfBits32
  generalize bits % 2 ^ 23 = fraction at h hfraction ⊢
  generalize bits / 2 ^ 23 % 2 ^ 8 = exponent at h hexponent ⊢
  generalize bits / 2 ^ 31 % 2 = sign at h hsign ⊢
  dsimp only at h ⊢
  split at h
  · cases h
  · next hfinite =>
    split at h
    · next hzero =>
      -- a subnormal `float` is a normal double
      rw [if_pos hzero]
      have hrep : Representable ((fraction : ℚ) * 2 ^ (-149 : Int)) := by
        rw [← scaled_positive]
        exact representable_scaled .positive (by omega) (by decide) (by decide)
      have hmagnitude := (holds_toFloat (by omega : fraction < 2 ^ 53)).mul holds_floatUnit32 hrep
      cases h
      split
      · rw [neg_one_mul]
        exact hmagnitude.neg
      · rw [one_mul]
        exact hmagnitude
    · next hzero =>
      rw [if_neg hzero, if_neg hfinite]
      cases h
      have hdouble := holds_components hsign (by omega : 0 < exponent + 896) (by omega)
        (by omega : fraction * 2 ^ 29 < 2 ^ 52)
      have hpow : (2 : ℚ) ^ ((exponent : Int) - 150) =
          2 ^ 29 * 2 ^ (((exponent + 896 : Nat) : Int) - 1075) := by
        have hsum : (exponent : Int) - 150 = 29 + (((exponent + 896 : Nat) : Int) - 1075) := by omega
        rw [hsum, zpow_add₀ (by norm_num)]
        norm_num
      have hvalue : ((2 ^ 23 + fraction : Nat) : ℚ) * 2 ^ ((exponent : Int) - 150) =
          ((2 ^ 52 + fraction * 2 ^ 29 : Nat) : ℚ) * 2 ^ (((exponent + 896 : Nat) : Int) - 1075) := by
        rw [hpow]
        push_cast
        ring
      rw [hvalue]
      exact hdouble

/-- `floor` of a number that is not negative. -/
theorem holds_floatFloor_floor (H : Holds x q) (hq : 0 ≤ q) (hlt : q < 2 ^ 53) :
    Holds (floatFloor x) (⌊q⌋.toNat : ℚ) := by
  have hfloor : 0 ≤ ⌊q⌋ := Int.floor_nonneg.mpr hq
  have hsmall : ⌊q⌋.toNat < 2 ^ 53 := by
    have hlt' : ⌊q⌋ < 2 ^ 53 := Int.floor_lt.mpr (by exact_mod_cast hlt)
    omega
  have habs := H.abs
  rw [abs_of_nonneg hq] at habs
  have hcond : (x.isFinite && decide (x.abs < 9007199254740992.0)) = true := by
    rw [H.isFinite, Bool.true_and, decide_eq_true_eq]
    exact (habs.lt_iff holds_two_pow_fiftyThree).mpr hlt
  have htrunc : x.abs.toUInt64.toNat = ⌊q⌋.toNat := habs.toUInt64 hq (hlt.trans (by norm_num))
  have hnonneg : (0.0 : Float) ≤ x := (Holds.le_iff (rfl : Holds 0.0 0) H).mpr hq
  unfold floatFloor
  rw [if_pos hcond, htrunc]
  dsimp only
  rw [if_pos hnonneg]
  exact holds_toFloat hsmall

theorem holds_floatFloor {n : Nat} (H : Holds x n) (hn : n < 2 ^ 53) : Holds (floatFloor x) n := by
  have hfloor := holds_floatFloor_floor H (Nat.cast_nonneg n) (by exact_mod_cast hn)
  rwa [Int.floor_natCast, Int.toNat_natCast] at hfloor

/-! ## The reading of a number -/

theorem toInt_eq_of_lt {w : Nat} (b : BitVec (w + 1)) (h : b.toNat < 2 ^ w) : b.toInt = b.toNat := by
  rw [BitVec.toInt_eq_toNat_cond, if_pos (by omega)]

theorem toInt_eq_of_ge {w : Nat} (b : BitVec (w + 1)) (h : 2 ^ w ≤ b.toNat) :
    b.toInt = b.toNat - 2 ^ (w + 1) := by
  rw [BitVec.toInt_eq_toNat_cond, if_neg (by omega)]
  push_cast
  rfl

/-- A word is subtracted from when its sign bit is set. -/
theorem holds_signed {n : Nat} (hn : n < 2 ^ (w + 1)) (hw : w ≤ 40) {half : Nat} (hhalf : half = 2 ^ w)
    {full : Float} (hfull : Holds full (2 ^ (w + 1))) :
    Holds (if half ≤ n then n.toFloat - full else n.toFloat) ((BitVec.ofNat (w + 1) n).toInt : ℚ) := by
  have hle : 2 ^ (w + 1) ≤ 2 ^ 41 := Nat.pow_le_pow_right (by decide) (by omega)
  have hfloat : Holds n.toFloat n := holds_toFloat (by omega)
  have htoNat : (BitVec.ofNat (w + 1) n).toNat = n := by
    rw [BitVec.toNat_ofNat, Nat.mod_eq_of_lt hn]
  subst hhalf
  split
  · next hge =>
    have hint := toInt_eq_of_ge (BitVec.ofNat (w + 1) n) (by rw [htoNat]; exact hge)
    rw [htoNat] at hint
    have hvalue : ((BitVec.ofNat (w + 1) n).toInt : ℚ) = n - 2 ^ (w + 1) := by
      rw [hint]
      push_cast
      rfl
    rw [hvalue]
    refine hfloat.sub hfull ?_
    rw [← hvalue]
    have hpow : (2 : Int) ^ (w + 1) = ((2 ^ (w + 1) : Nat) : Int) := by push_cast; rfl
    refine representable_int ?_
    rw [hint, hpow]
    omega
  · next hlt =>
    have hint := toInt_eq_of_lt (BitVec.ofNat (w + 1) n) (by rw [htoNat]; omega)
    rw [htoNat] at hint
    rw [hint, Int.cast_natCast]
    exact hfloat

theorem Ordered.narrow (H : Ordered kind order) (hk : kind.wide = false) :
    order = .none ∨ order = .AB ∨ order = .BA := by
  cases H with
  | bool => exact .inl rfl
  | word _ ho =>
    simp only [List.mem_cons, List.not_mem_nil, or_false] at ho
    exact .inr ho
  | double hk' _ =>
    simp only [List.mem_cons, List.not_mem_nil, or_false] at hk'
    rcases hk' with rfl | rfl | rfl <;> cases hk

theorem Ordered.wide (H : Ordered kind order) (hk : kind.wide = true) :
    order ∈ [.ABCD, .BADC, .CDAB, .DCBA] := by
  cases H with
  | bool => cases hk
  | word hk' _ =>
    simp only [List.mem_cons, List.not_mem_nil, or_false] at hk'
    rcases hk' with rfl | rfl | rfl | rfl <;> cases hk
  | double _ ho => exact ho

/-- The value is sent in the order of its point. -/
structure Sent (v : DeviceValue) (p : CustomPoint) (order : ByteOrder) (words : Nat → UInt16)
    (count : Nat) : Prop where
  of : v.Of p
  ordered : Ordered p.dataType order
  code : order.code = p.order
  size : count = wordCount p.dataType p.length
  each : ∀ i, i < count → words i = v.word order i

namespace Sent

variable {v : DeviceValue} {p : CustomPoint} {words : Nat → UInt16}

theorem first (H : Sent v p order words count) (hk : p.dataType.wide = false) (hpos : 0 < count)
    (hbyte : ∀ i, v.byte i = v.bits / 256 ^ (1 - i) % 256) (hbits : v.bits < 2 ^ 16) :
    firstWord p words = v.bits := by
  rw [H.of.firstWord_eq (H.each 0 hpos) H.code (H.ordered.narrow hk), hbyte, hbyte]
  exact sum_two hbits

theorem full (H : Sent v p order words count) (hk : p.dataType.wide = true)
    (hbyte : ∀ i, v.byte i = v.bits / 256 ^ (3 - i) % 256) (hbits : v.bits < 2 ^ 32) :
    fullWord p words count = v.bits := by
  have hascii : p.dataType ≠ .ascii := by
    intro h
    rw [h] at hk
    cases hk
  have hcount : count = 2 := by
    rw [H.size, wordCount, if_neg hascii, if_pos hk]
  subst hcount
  rw [H.of.fullWord_eq (H.each 0 (by decide)) (H.each 1 (by decide)) H.code (H.ordered.wide hk),
    hbyte, hbyte, hbyte, hbyte]
  exact sum_four hbits

/-- The number of a value is found. -/
theorem rawNumber (H : Sent v p order words count) (hq : v.number d.bitLsb = some q) :
    ∃ n, rawNumber d p words count = some n ∧ Holds n q := by
  have hkind := H.of.kind
  have hpos (h : p.dataType ≠ .ascii) : 0 < count := by
    rw [H.size, wordCount, if_neg h]
    split <;> decide
  unfold ModbusGateway.rawNumber
  cases v with
  | u16 n =>
    have hdata : p.dataType = .u16 := hkind.symm
    have hfirst : firstWord p words = n.toNat :=
      H.first (by rw [hdata]; rfl) (hpos (by rw [hdata]; decide)) (fun _ => rfl) n.toNat_lt
    cases hq
    rw [hdata]
    dsimp only
    rw [hfirst]
    exact ⟨_, rfl, holds_toFloat (Nat.lt_trans n.toNat_lt (by decide))⟩
  | s16 n =>
    have hdata : p.dataType = .s16 := hkind.symm
    have hfirst : firstWord p words = n.toBitVec.toNat :=
      H.first (by rw [hdata]; rfl) (hpos (by rw [hdata]; decide)) (fun _ => rfl) n.toBitVec.isLt
    have hback : BitVec.ofNat 16 n.toBitVec.toNat = n.toBitVec := by
      rw [BitVec.ofNat_toNat, BitVec.setWidth_eq]
    have hsigned := holds_signed n.toBitVec.isLt (by decide) rfl holds_two_pow_sixteen
    rw [hback] at hsigned
    cases hq
    rw [hdata]
    dsimp only
    rw [hfirst]
    exact ⟨_, rfl, hsigned⟩
  | u32 n =>
    have hdata : p.dataType = .u32 := hkind.symm
    have hfull : fullWord p words count = n.toNat :=
      H.full (by rw [hdata]; rfl) (fun _ => rfl) n.toNat_lt
    cases hq
    rw [hdata]
    dsimp only
    rw [hfull]
    exact ⟨_, rfl, holds_toFloat (Nat.lt_trans n.toNat_lt (by decide))⟩
  | s32 n =>
    have hdata : p.dataType = .s32 := hkind.symm
    have hfull : fullWord p words count = n.toBitVec.toNat :=
      H.full (by rw [hdata]; rfl) (fun _ => rfl) n.toBitVec.isLt
    have hback : BitVec.ofNat 32 n.toBitVec.toNat = n.toBitVec := by
      rw [BitVec.ofNat_toNat, BitVec.setWidth_eq]
    have hsigned := holds_signed n.toBitVec.isLt (by decide) rfl holds_two_pow_thirtyTwo
    rw [hback] at hsigned
    cases hq
    rw [hdata]
    dsimp only
    rw [hfull]
    exact ⟨_, rfl, hsigned⟩
  | f32 pattern =>
    have hdata : p.dataType = .f32 := hkind.symm
    have hfull : fullWord p words count = pattern.toNat :=
      H.full (by rw [hdata]; rfl) (fun _ => rfl) pattern.toNat_lt
    rw [hdata]
    dsimp only
    rw [hfull]
    exact ⟨_, rfl, holds_floatOfBits32 hq⟩
  | bit register =>
    have hdata : p.dataType = .bit := hkind.symm
    have hfirst : firstWord p words = register.toNat :=
      H.first (by rw [hdata]; rfl) (hpos (by rw [hdata]; decide)) (fun _ => rfl) register.toNat_lt
    have hbit : register.toNat / 2 ^ d.bitLsb % 2 < 2 := Nat.mod_lt _ (by decide)
    cases hq
    rw [hdata]
    dsimp only
    rw [hfirst]
    exact ⟨_, rfl, holds_toFloat (Nat.lt_trans hbit (by decide))⟩
  | bool b =>
    have hdata : p.dataType = .bool := hkind.symm
    have horder : order = .none := by
      have hordered := H.ordered
      rw [hdata] at hordered
      cases hordered with
      | bool => rfl
      | word hk _ => simp at hk
      | double hk _ => simp at hk
    have hword : words 0 = UInt16.ofNat b.toNat := by
      rw [H.each 0 (hpos (by rw [hdata]; decide)), horder]
      cases b <;> rfl
    cases hq
    rw [hdata]
    dsimp only
    rw [hword]
    cases b
    · exact ⟨_, rfl, holds_toFloat (by decide)⟩
    · exact ⟨_, rfl, holds_toFloat (by decide)⟩
  | ascii chars => cases hq

end Sent

/-- Every number but that of a `float` is an integer. -/
theorem DeviceValue.number_int {v : DeviceValue} (hk : v.kind ≠ .f32) (hq : v.number b = some q) :
    ∃ z : Int, q = z ∧ z.natAbs < 2 ^ 53 := by
  have hnat {n : Nat} (hn : n < 2 ^ 53) : ∃ z : Int, (n : ℚ) = z ∧ z.natAbs < 2 ^ 53 :=
    ⟨n, (Int.cast_natCast n).symm, by rwa [Int.natAbs_natCast]⟩
  cases v with
  | u16 n =>
    cases hq
    exact hnat (Nat.lt_trans n.toNat_lt (by decide))
  | s16 n =>
    cases hq
    have hlow := n.le_toInt
    have hhigh := n.toInt_lt
    exact ⟨n.toInt, rfl, by omega⟩
  | u32 n =>
    cases hq
    exact hnat (Nat.lt_trans n.toNat_lt (by decide))
  | s32 n =>
    cases hq
    have hlow := n.le_toInt
    have hhigh := n.toInt_lt
    exact ⟨n.toInt, rfl, by omega⟩
  | f32 pattern => exact absurd rfl hk
  | bit register =>
    cases hq
    exact hnat (Nat.lt_trans (Nat.mod_lt _ (by decide)) (by decide))
  | bool bit =>
    cases hq
    exact hnat (Nat.lt_trans bit.toNat_lt (by decide))
  | ascii chars => cases hq

/-- No value of a device is too large for a `float`. -/
theorem DeviceValue.number_le {v : DeviceValue} (hq : v.number b = some q) :
    |q| ≤ (2 ^ 53 - 2 ^ 29 : Nat) * 2 ^ (75 : Int) := by
  by_cases hk : v.kind = .f32
  · cases v with
    | f32 pattern => exact pattern_float_le hq
    | _ => cases hk
  · obtain ⟨z, rfl, hz⟩ := v.number_int hk hq
    have habs : |(z : ℚ)| = (z.natAbs : ℚ) := by rw [Nat.cast_natAbs, Int.cast_abs]
    have hle : (z.natAbs : ℚ) ≤ 2 ^ 53 := by exact_mod_cast hz.le
    rw [habs]
    refine hle.trans ?_
    norm_num

namespace Sent

variable {v : DeviceValue} {p : CustomPoint} {d : CustomDef} {words : Nat → UInt16}

/-- Scaling by one and shifting by nothing leaves the number. -/
theorem unscaled (hn : Holds n q) (hscale : (p.scale == 1) = true) (hoffset : (p.offset == 0) = true) :
    Holds (n * p.scale + p.offset) q := by
  have hone := holds_one.of_beq hscale
  have hzero := holds_zero.of_beq hoffset
  have hproduct := hn.mul hone (by rw [mul_one]; exact hn.representable)
  rw [mul_one] at hproduct
  have hsum := hproduct.add hzero (by rw [add_zero]; exact hn.representable)
  rwa [add_zero] at hsum

/-- The test of a state on the double is the one on the number. -/
theorem state_test {z : Int} {stateCount : Nat} (hn : Holds n z) (hz : z.natAbs < 2 ^ 53)
    (hcount : stateCount < 2 ^ 53) :
    (n < 1.0 ∨ stateCount.toFloat < n ∨ (floatFloor n != n) = true) ↔ ¬ (1 ≤ z ∧ z ≤ stateCount) := by
  have hone : Holds 1.0 1 := holds_one
  have hstates := holds_toFloat hcount
  have hlow : n < 1.0 ↔ z < 1 := by
    rw [hn.lt_iff hone]
    exact_mod_cast Iff.rfl
  have hhigh : stateCount.toFloat < n ↔ (stateCount : Int) < z := by
    rw [hstates.lt_iff hn]
    exact_mod_cast Iff.rfl
  rw [hlow, hhigh]
  by_cases hge : 1 ≤ z
  · obtain ⟨m, rfl⟩ : ∃ m : Nat, z = m := ⟨z.toNat, by omega⟩
    rw [Int.cast_natCast] at hn
    have hfloor := holds_floatFloor hn (by omega)
    have heq : (floatFloor n == n) = true := (hfloor.beq_iff hn).mpr rfl
    have hne : ¬ (floatFloor n != n) = true := by
      rw [bne, heq]
      decide
    constructor
    · rintro (h | h | h)
      · omega
      · omega
      · exact absurd h hne
    · intro h
      exact .inr (.inl (by omega))
  · have hlt : z < 1 := by omega
    exact ⟨fun _ => by omega, fun _ => .inl hlt⟩

/-- A number is read when it is a state of a multi-state point, or when the point has no states. -/
theorem decode (H : Sent v p order words count) (hq : v.number d.bitLsb = some q)
    (hscale : (p.scale == 1) = true) (hoffset : (p.offset == 0) = true)
    (hstates : d.objectType = OBJECT_MULTI_STATE_INPUT → v.kind ≠ .f32 ∧ d.stateCount < 2 ^ 53) :
    (InStates d v → ∃ n, Holds n q ∧ customDecode d p words count = some (.number n)) ∧
      (¬ InStates d v → customDecode d p words count = none) := by
  obtain ⟨raw, hraw, hrawHolds⟩ := H.rawNumber hq
  have hn := unscaled hrawHolds hscale hoffset
  have hdata : p.dataType ≠ .ascii := by
    intro h
    have hkind := H.of.kind
    rw [h] at hkind
    cases v with
    | ascii chars => cases hq
    | _ => cases hkind
  have hfinite : ¬ (¬ (raw * p.scale + p.offset).isFinite = true ∨
      FLT_MAX < (raw * p.scale + p.offset).abs) := by
    rintro (h | h)
    · exact h hn.isFinite
    · exact not_lt_of_ge (DeviceValue.number_le hq) ((holds_FLT_MAX.lt_iff hn.abs).mp h)
  have hdecode : customDecode d p words count =
      if d.objectType = OBJECT_MULTI_STATE_INPUT ∧ (raw * p.scale + p.offset < 1.0 ∨
        d.stateCount.toFloat < raw * p.scale + p.offset ∨
        (floatFloor (raw * p.scale + p.offset) != raw * p.scale + p.offset) = true) then none
      else some (.number (raw * p.scale + p.offset)) := by
    unfold customDecode
    rw [if_neg hdata, hraw]
    dsimp only [Option.bind_eq_bind, Option.bind_some]
    rw [if_neg hfinite]
    rfl
  rw [hdecode]
  by_cases hmsi : d.objectType = OBJECT_MULTI_STATE_INPUT
  · obtain ⟨hk, hcount⟩ := hstates hmsi
    obtain ⟨z, rfl, hz⟩ := DeviceValue.number_int hk hq
    have hin : InStates d v ↔ 1 ≤ z ∧ z ≤ d.stateCount := by
      constructor
      · intro h
        obtain ⟨state, hstate, hge, hle⟩ := h hmsi
        rw [hq, Option.some_inj] at hstate
        have hzs : z = state := by exact_mod_cast hstate
        omega
      · intro h _
        obtain ⟨state, rfl⟩ : ∃ m : Nat, z = m := ⟨z.toNat, by omega⟩
        exact ⟨state, hq, by omega, by omega⟩
    have htest := state_test hn hz hcount
    rw [← hin] at htest
    constructor
    · intro h
      exact ⟨_, hn, if_neg fun hbad => htest.mp hbad.2 h⟩
    · intro h
      exact if_pos ⟨hmsi, htest.mpr h⟩
  · constructor
    · intro _
      exact ⟨_, hn, if_neg fun h => hmsi h.1⟩
    · intro h
      exact absurd (fun hm => absurd hm hmsi) h

theorem ascii_place (i : Nat) : ByteOrder.place .AB i = i ∧
    ByteOrder.place .BA i = if i % 2 = 1 then i - 1 else i + 1 := by
  have hmod : i % 2 = 0 ∨ i % 2 = 1 := by omega
  constructor
  · show i / 2 * 2 + ((['A', 'B'].getD (i % 2) 'A').toNat - 'A'.toNat) = i
    rcases hmod with h | h
    · rw [h]
      show i / 2 * 2 + 0 = i
      omega
    · rw [h]
      show i / 2 * 2 + 1 = i
      omega
  · show i / 2 * 2 + ((['B', 'A'].getD (i % 2) 'A').toNat - 'A'.toNat) = _
    rcases hmod with h | h
    · rw [h, if_neg (by decide)]
      show i / 2 * 2 + 1 = i + 1
      omega
    · rw [h, if_pos rfl]
      show i / 2 * 2 + 0 = i - 1
      omega

/-- The characters stand where the loop looks for them. -/
theorem asciiByte_eq (H : Sent v p order words count) (hk : p.dataType = .ascii) (hi : i < p.length) :
    asciiByte p words i = v.byte i := by
  have hcount : count = (p.length + 1) / 2 := by
    rw [H.size, wordCount, if_pos hk]
  have hword := H.each (i / 2) (by omega)
  have hb := H.of.byte_lt
  have htoNat := H.of.word_toNat order (i / 2)
  have hnone : order = .AB ∨ order = .BA := by
    have hordered := H.ordered
    rw [hk] at hordered
    cases hordered with
    | word _ ho => simpa using ho
    | double hk _ => simp at hk
  have hb₀ := hb (2 * (i / 2))
  have hb₁ := hb (2 * (i / 2) + 1)
  have hhost : (if p.order ≠ 0 then swap16 (words (i / 2)) else words (i / 2)).toNat =
      v.byte (2 * (i / 2)) * 256 + v.byte (2 * (i / 2) + 1) := by
    rw [hword, ← H.code]
    rcases hnone with rfl | rfl
    · rw [if_neg (by decide), htoNat, (ascii_place _).1, (ascii_place _).1]
    · rw [(ascii_place _).2, (ascii_place _).2, if_neg (by omega), if_pos (by omega),
        Nat.add_sub_cancel] at htoNat
      rw [if_pos (by decide), swap16_toNat, htoNat]
      omega
  unfold asciiByte
  dsimp only
  rw [hhost]
  split
  · next hodd =>
    have hi : 2 * (i / 2) + 1 = i := by omega
    rw [hi] at hb₁ ⊢
    omega
  · next heven =>
    have hi : 2 * (i / 2) = i := by omega
    rw [hi] at hb₀ hb₁ ⊢
    omega

end Sent

/-- The text loop on a padded text. Once it has ended, only padding is left. -/
theorem decodeAscii_padded {p : CustomPoint} {words : Nat → UInt16} {chars : List Char}
    (hbyte : ∀ j, i ≤ j → j < i + n → asciiByte p words j = (chars.getD j '\x00').toNat)
    (hprint : ∀ c ∈ chars, 32 ≤ c.toNat ∧ c.toNat ≤ 126) (hended : ended = true → chars.length ≤ i) :
    decodeAscii p words ended i n = some ((List.range' i n).map (chars.getD · '\x00')) := by
  induction n generalizing i ended with
  | zero => rfl
  | succ n ih =>
    have hhead := hbyte i (Nat.le_refl i) (by omega)
    have htail := @ih (i + 1) (ended || asciiByte p words i == 0)
      (fun j hj hlt => hbyte j (by omega) (by omega))
    by_cases hi : i < chars.length
    · have hget : chars.getD i '\x00' = chars[i] := List.getD_eq_getElem _ _ hi
      obtain ⟨hlow, hhigh⟩ := hprint _ (List.getElem_mem hi)
      have hnotEnded : ended = false := by
        cases ended
        · rfl
        · have hle := hended rfl
          omega
      subst hnotEnded
      rw [hget] at hhead
      have hzero : (asciiByte p words i == 0) = false := by
        rw [hhead, beq_eq_false_iff_ne]
        omega
      rw [hzero, Bool.or_self] at htail
      unfold decodeAscii
      dsimp only
      rw [hzero, hhead, Bool.or_self, if_neg, htail fun h => (by cases h)]
      · rw [List.range'_succ, List.map_cons, hget, Char.ofNat_toNat]
        rfl
      · rintro (⟨-, h⟩ | ⟨h, -⟩)
        · omega
        · cases h
    · have hpad : chars.getD i '\x00' = '\x00' := List.getD_eq_default _ _ (Nat.le_of_not_lt hi)
      rw [hpad] at hhead
      have hnul : asciiByte p words i = 0 := hhead
      rw [hnul, beq_self_eq_true, Bool.or_true] at htail
      unfold decodeAscii
      dsimp only
      rw [hnul, beq_self_eq_true, Bool.or_true, if_neg, htail fun _ => (by omega)]
      · rw [List.range'_succ, List.map_cons, hpad]
        rfl
      · rintro (⟨h, -⟩ | ⟨-, h⟩)
        · exact h rfl
        · exact h rfl

theorem DeviceValue.Of.number_isSome {v : DeviceValue} {p : CustomPoint} (H : v.Of p)
    (hk : v.kind ≠ .ascii) (b : Nat) : ∃ q, v.number b = some q := by
  cases v with
  | f32 pattern => exact pattern_float_isSome (H.finite pattern rfl)
  | ascii chars => exact absurd rfl hk
  | _ => exact ⟨_, rfl⟩

/-- What the parser establishes of a point, for the decoder. -/
structure Declared (e : CustomEntry) (order : ByteOrder) : Prop where
  ordered : Ordered e.point.dataType order
  code : order.code = e.point.order
  words : e.pointDef.wordCount = wordCount e.point.dataType e.point.length
  states : e.pointDef.objectType = OBJECT_MULTI_STATE_INPUT →
    e.point.dataType ≠ .f32 ∧ e.point.dataType ≠ .ascii ∧ e.pointDef.stateCount < 2 ^ 53

theorem rowOrder_ordered {row : CsvRow} (h : rowOrder row kind = .ok n) :
    ∃ order, Ordered kind order ∧ order.code = n := by
  unfold rowOrder at h
  dsimp only at h
  by_cases hbool : kind = .bool
  · subst hbool
    rw [if_pos rfl] at h
    split at h
    · cases h
      exact ⟨.none, .bool, rfl⟩
    · cases h
  rw [if_neg hbool] at h
  by_cases hwide : kind.wide = true
  · have hmem : kind ∈ [CustomDataType.u32, .s32, .f32] := by
      cases kind <;> first | decide | exact absurd hwide (by decide)
    rw [if_pos hwide] at h
    split at h
    · cases h
      exact ⟨.ABCD, .double hmem (by decide), rfl⟩
    split at h
    · cases h
      exact ⟨.BADC, .double hmem (by decide), rfl⟩
    split at h
    · cases h
      exact ⟨.CDAB, .double hmem (by decide), rfl⟩
    split at h
    · cases h
      exact ⟨.DCBA, .double hmem (by decide), rfl⟩
    · cases h
  · have hmem : kind ∈ [CustomDataType.u16, .s16, .bit, .ascii] := by
      cases kind <;> first | decide | exact absurd rfl hwide | exact absurd rfl hbool
    rw [if_neg hwide] at h
    split at h
    · cases h
      exact ⟨.AB, .word hmem (by decide), rfl⟩
    split at h
    · cases h
      exact ⟨.BA, .word hmem (by decide), rfl⟩
    · cases h

/-- Every point of an accepted map is declared with some byte order. -/
theorem MapText.declared (H : MapText strtod csv points)
    (he : e ∈ (CustomMap.ofPoints points).entries) : ∃ order, Declared e order := by
  obtain ⟨q, -, hentry, row, hrow, -, -⟩ := H.entry he
  have hsafe := H.safe
  have horder : rowOrder row e.point.dataType = .ok e.point.order := by
    rw [hentry.point]
    exact hrow.layout.order_eq
  obtain ⟨order, hordered, hcode⟩ := rowOrder_ordered horder
  refine ⟨order, hordered, hcode, ?_, fun hmsi => ?_⟩
  · rw [hentry.wordCount, hentry.point]
    exact hrow.layout.wordCount
  · obtain ⟨texts, -, hlength, -, hle, -, -⟩ := hsafe.labels e he hmsi
    have hindex := hrow.source.multiState
    rw [← hentry.objectType, ← hentry.point] at hindex
    have hmax : CUSTOM_MAX_STATES = 16 := rfl
    refine ⟨fun hk => hindex ⟨hmsi, ?_⟩, fun hk => hindex ⟨hmsi, ?_⟩, by omega⟩
    · rw [hk]
      decide
    · rw [hk]
      decide

/-- The application of a response to an entry of the map. -/
theorem customMapApply_entry {map : CustomMap} (he : map.entries[index]? = some e) :
    customMapApply map index words e.pointDef.wordCount now value =
      match customDecode e.pointDef e.point words e.pointDef.wordCount with
      | some reading => (value.accept reading words e.pointDef.wordCount now, true)
      | none =>
        (value.grade .unverified "Invalid/nonfinite decoded value or out-of-range state", false) := by
  unfold customMapApply
  rw [he]
  exact if_neg fun h => h rfl

/-- A value that is sent in the declared order is read, unless it is no state of its point. -/
theorem Declared.apply {map : CustomMap} {v : DeviceValue} {words : Nat → UInt16}
    (H : Declared e order) (he : map.entries[index]? = some e) (hv : v.Of e.point)
    (hscale : (e.point.scale == 1) = true) (hoffset : (e.point.offset == 0) = true)
    (hwords : ∀ i, i < e.pointDef.wordCount → words i = v.word order i) (now : Nat) (value : AtsValue) :
    ((customMapApply map index words e.pointDef.wordCount now value).2 = true ↔
      InStates e.pointDef v) ∧
    ((customMapApply map index words e.pointDef.wordCount now value).2 = true →
      v.ReadAs e words now (customMapApply map index words e.pointDef.wordCount now value).1) := by
  have hsent : Sent v e.point order words e.pointDef.wordCount :=
    ⟨hv, H.ordered, H.code, H.words, hwords⟩
  have hkind := hv.kind
  have hraw (reading : CustomReading) (j : Nat) (hj : j < e.pointDef.wordCount) :
      (value.accept reading words e.pointDef.wordCount now).rawWords j = words j := if_pos hj
  rw [customMapApply_entry he]
  by_cases hascii : v.kind = .ascii
  · cases v with
    | ascii chars =>
      have hdata : e.point.dataType = .ascii := hkind.symm
      have hnotStates : e.pointDef.objectType ≠ OBJECT_MULTI_STATE_INPUT :=
        fun hmsi => (H.states hmsi).2.1 hdata
      have htext : decodeAscii e.point words false 0 e.point.length =
          some ((List.range' 0 e.point.length).map (chars.getD · '\x00')) := by
        refine decodeAscii_padded (fun j _ hj => ?_) (hv.printable chars rfl) fun h => (by cases h)
        exact hsent.asciiByte_eq hdata (by omega)
      have hdecode : customDecode e.pointDef e.point words e.pointDef.wordCount =
          some (.text ((List.range' 0 e.point.length).map (chars.getD · '\x00'))) := by
        rw [customDecode, if_pos hdata, htext]
        rfl
      rw [hdecode]
      dsimp only
      refine ⟨iff_of_true rfl fun hmsi => absurd hmsi hnotStates, fun _ => ?_⟩
      refine ⟨fun q hq => (by cases hq), fun _ h => (by cases h), ?_, rfl, hraw _, rfl, rfl⟩
      intro chars' hchars j hj
      cases hchars
      have hlen : ((List.range' 0 e.point.length).map (chars.getD · '\x00')).length =
          e.point.length := by
        rw [List.length_map, List.length_range']
      show (if j ≤ _ then _ else _) = _
      rw [hlen, if_pos hj]
      by_cases hlt : j < e.point.length
      · rw [List.getD_eq_getElem _ _ (hlen.symm ▸ hlt), List.getElem_map, List.getElem_range',
          Nat.one_mul, Nat.zero_add]
      · have hlength := hv.length chars rfl
        rw [List.getD_eq_default _ _ (by omega), List.getD_eq_default _ _ (by omega)]
    | _ => cases hascii
  · obtain ⟨q, hq⟩ := hv.number_isSome hascii e.pointDef.bitLsb
    obtain ⟨hin, hout⟩ := hsent.decode hq hscale hoffset fun hmsi =>
      ⟨hkind ▸ (H.states hmsi).1, (H.states hmsi).2.2⟩
    by_cases hstate : InStates e.pointDef v
    · obtain ⟨n, hn, hdecode⟩ := hin hstate
      rw [hdecode]
      dsimp only
      refine ⟨iff_of_true rfl hstate, fun _ => ?_⟩
      refine ⟨fun q' hq' => ?_, fun pattern hpattern => ?_, fun chars hchars => ?_, rfl, hraw _, rfl, rfl⟩
      · cases hq.symm.trans hq'
        exact hn
      · subst hpattern
        have hdata : e.point.dataType = .f32 := hkind.symm
        exact hsent.full (by rw [hdata]; rfl) (fun _ => rfl) pattern.toNat_lt
      · subst hchars
        exact absurd rfl hascii
    · rw [hout hstate]
      exact ⟨iff_of_false (fun h => (by cases h)) hstate, fun h => (by cases h)⟩

/-- A call that fails leaves all but the grade. -/
theorem customMapApply_failed {map : CustomMap}
    (h : (customMapApply map index words count now value).2 = false) :
    (customMapApply map index words count now value).1.SameData value := by
  unfold customMapApply at h ⊢
  generalize map.entries[index]? = entry at h ⊢
  cases entry with
  | none => exact .refl value
  | some e =>
    dsimp only at h ⊢
    split
    · exact .refl value
    · next hcount =>
      rw [if_neg hcount] at h
      cases hdecode : customDecode e.pointDef e.point words count with
      | none => exact .grade value _ _
      | some reading =>
        rw [hdecode] at h
        cases h

/-- A value of a point of an accepted map that is neither scaled nor shifted, sent in the byte order of
the point, is read exactly, and only a number that is no state of a multi-state point is refused. A call
that fails, on any map, response and value, changes nothing of the value but its grade. -/
theorem customMapApply_inverts (strtod : Strtod) :
    (∀ memory map₀ csv errorSize map error index e,
      customMapParse strtod memory map₀ csv errorSize = (true, map, error) →
      map.entries[index]? = some e →
      (e.point.scale == 1) = true → (e.point.offset == 0) = true →
      ∃ order, Ordered e.point.dataType order ∧ order.code = e.point.order ∧
        ∀ v : DeviceValue, v.Of e.point → ∀ words now value,
          (∀ i, i < e.pointDef.wordCount → words i = v.word order i) →
          ((customMapApply map index words e.pointDef.wordCount now value).2 = true ↔
            InStates e.pointDef v) ∧
          ((customMapApply map index words e.pointDef.wordCount now value).2 = true →
            v.ReadAs e words now
              (customMapApply map index words e.pointDef.wordCount now value).1)) ∧
    ∀ map index words count now value,
      (customMapApply map index words count now value).2 = false →
      (customMapApply map index words count now value).1.SameData value := by
  refine ⟨?_, fun _ _ _ _ _ _ h => customMapApply_failed h⟩
  intro memory map₀ csv errorSize map error index e hparse he hscale hoffset
  obtain ⟨points, H, rfl⟩ := customMapParse_mapText hparse
  obtain ⟨order, hdeclared⟩ := H.declared (List.mem_of_getElem? he)
  exact ⟨order, hdeclared.ordered, hdeclared.code, fun v hv words now value hwords =>
    hdeclared.apply he hv hscale hoffset hwords now value⟩

/-- A power with a sign, low word first. -/
def powerSpec : PointSpec := { voltageSpec with kind := .s32, order := .CDAB, scale := 1 }

def powerRow : CsvRow :=
  ["100", "Voltage", "AI", "3", "0", "s32", "CDAB", "", "", "5", "", "", "", "1000",
    "Phase A"].map String.toList

theorem powerSpec_valid : ValidPoints [powerSpec] := by
  refine ⟨fun p hp => ?_, by decide, by decide, List.pairwise_singleton _ _,
    List.pairwise_singleton _ _, by decide⟩
  cases List.mem_singleton.mp hp
  exact { voltageSpec_isValid with
    readable := .number (.inl rfl) (by decide)
    address_le := by decide
    ordered := .double (by decide) (by decide)
    unscaled := by rintro (h | h | h) <;> cases h
    bit_eq := fun _ => rfl
    length_iff := by decide }

theorem powerRow_isRow : powerSpec.IsRow strtodTwo powerRow :=
  { voltageRow_isRow with
    fits := ⟨rfl, by decide +kernel⟩
    kind := rfl
    order := rfl
    scale := rfl
    offset := rfl
    bit := rfl
    length := rfl }

theorem powerRow_rendering : Rendering strtodTwo [powerSpec]
    (CUSTOM_CSV_HEADER ++ (['\n'] ++ [','].intercalate powerRow)) :=
  ⟨['\n'], [powerRow], _, rfl, .lf,
    .last (Csv.Row.bare (by decide) (by decide +kernel)), .cons powerRow_isRow .nil⟩

def powerMap : CustomMap := CustomMap.ofPoints [powerSpec.toMapPoint]

/-- The two registers of minus two. -/
def minusTwo (i : Nat) : UInt16 := if i = 0 then 0xfffe else 0xffff

def powerEntry : CustomEntry where
  pointDef := powerMap.defs ⟨0, by decide⟩
  point := powerMap.points ⟨0, by decide⟩

theorem powerEntry_first : powerMap.entries[0]? = some powerEntry := rfl

theorem customMapApply_inverts_power :
    (customMapApply powerMap 0 minusTwo 2 100 (.unacquired "")).2 = true ∧
    Holds (customMapApply powerMap 0 minusTwo 2 100 (.unacquired "")).1.numeric (-2) ∧
    (customMapApply powerMap 0 minusTwo 1 100 (.unacquired "")).1.SameData (.unacquired "") := by
  obtain ⟨hinverts, hfailed⟩ := customMapApply_inverts strtodTwo
  have hparse := powerRow_rendering.customMapParse_eq powerSpec_valid (by decide +kernel) {} 192
  obtain ⟨order, hordered, hcode, happly⟩ := hinverts _ _ _ _ _ _ 0 powerEntry hparse
    powerEntry_first (by decide +kernel) (by decide +kernel)
  have horder : order = .CDAB := by
    have hwide := hordered.wide rfl
    simp only [List.mem_cons, List.not_mem_nil, or_false] at hwide
    rcases hwide with rfl | rfl | rfl | rfl <;> first | rfl | exact absurd hcode (by decide)
  subst horder
  have hof : (DeviceValue.s32 (-2)).Of powerEntry.point :=
    ⟨rfl, fun _ h => (by cases h), fun _ h => (by cases h), fun _ h => (by cases h)⟩
  have hwords (i : Nat) (hi : i < 2) : minusTwo i = (DeviceValue.s32 (-2)).word .CDAB i := by
    have hcases : i = 0 ∨ i = 1 := by omega
    rcases hcases with rfl | rfl
    · decide
    · decide
  obtain ⟨hiff, hread⟩ := happly (.s32 (-2)) hof minusTwo 100 (.unacquired "") hwords
  have hdone := hiff.mpr fun h => absurd h (by decide)
  exact ⟨hdone, (hread hdone).numeric _ rfl, hfailed _ _ _ _ _ _ rfl⟩

end ModbusGateway
