import Mathlib

/-!
# Exact arithmetic on doubles

`Holds x q` says that a double is a number and which one. A sum, a difference or a product of doubles
holds the exact result whenever that can be represented: what rounding drops are zeros. Doubles are
compared as their numbers are, and hold every integer of up to 53 bits.
-/

namespace Binary64

open Float.Model Float.Model.UnpackedFloat

/-- The number `± m * 2 ^ e`. -/
def scaled (s : Sign) (m : Nat) (e : Int) : ℚ := s.apply m * 2 ^ e

/-- The number of an unpacked double, if it is one. -/
def number : UnpackedFloat → Option ℚ
  | .zero _ => some 0
  | .finite s m e _ => some (scaled s m e)
  | .infinity _ | .notANumber => none

/-- A mantissa and an exponent as they are kept: all bits of the mantissa are used, unless the number is
subnormal. -/
structure Canonical (m : Nat) (e : Int) : Prop where
  pos : 0 < m
  lt : m < 2 ^ 53
  low : -1074 ≤ e
  high : e ≤ 971
  normal : 2 ^ 52 ≤ m ∨ e = -1074

/-! ## Rounding what is exact -/

theorem log2_mul_two_pow (hm : 0 < m) (k : Nat) : (m * 2 ^ k).log2 = m.log2 + k := by
  induction k with
  | zero => rw [Nat.pow_zero, Nat.mul_one, Nat.add_zero]
  | succ k ih =>
    have hpos : m * 2 ^ k ≠ 0 := (Nat.mul_pos hm (Nat.two_pow_pos k)).ne'
    have hdouble : m * 2 ^ (k + 1) = 2 * (m * 2 ^ k) := by ring
    rw [hdouble, Nat.log2_two_mul hpos, ih, Nat.add_assoc]

theorem targetExponent_eq (m : Nat) (e : Int) :
    Format.binary64.targetExponent (totalExponent m e) = max (m.log2 + e - 52) (-1074) := by
  have hbits : (Format.binary64.mantissaBits : Int) = 53 := rfl
  have hmin : Format.binary64.minExponent = -1074 := rfl
  rw [Format.targetExponent, totalExponent, hbits, hmin]
  congr 1
  omega

theorem Canonical.log2_add (H : Canonical m e) : max (m.log2 + e - 52) (-1074) = e := by
  have hne : m ≠ 0 := H.pos.ne'
  have hlow := H.low
  have hlog : m.log2 < 53 := (Nat.log2_lt hne).mpr H.lt
  rcases H.normal with hm | rfl
  · have hlog' : ¬ m.log2 < 52 := fun h => Nat.not_lt_of_le hm ((Nat.log2_lt hne).mp h)
    omega
  · omega

theorem Canonical.target (H : Canonical m e) (k : Nat) :
    Format.binary64.targetExponent (totalExponent (m * 2 ^ k) (e - k)) = e := by
  have hsum := H.log2_add
  rw [targetExponent_eq, log2_mul_two_pow H.pos]
  push_cast
  omega

/-- The bits that are shifted out are zeros. -/
theorem shiftRight_mul_two_pow (m k : Nat) :
    (ExtendedMantissa.mk (m * 2 ^ k) false false) >>> k = ExtendedMantissa.mk m false false := by
  induction k generalizing m with
  | zero =>
    rw [Nat.pow_zero, Nat.mul_one]
    rfl
  | succ k ih =>
    have hdouble : m * 2 ^ (k + 1) = m * 2 * 2 ^ k := by ring
    have hstep : (ExtendedMantissa.mk (m * 2 ^ (k + 1)) false false) >>> (k + 1) =
        ((ExtendedMantissa.mk (m * 2 * 2 ^ k) false false) >>> k).shiftRightOne := by
      rw [hdouble]
      rfl
    rw [hstep, ih, ExtendedMantissa.shiftRightOne]
    simp

theorem Canonical.shift (H : Canonical m e) (k : Nat) :
    shiftToTargetExponent Format.binary64 (m * 2 ^ k) (e - k) .exact =
      (ExtendedMantissa.mk m false false, e) := by
  have hamount : (e - (e - (k : Int))).toNat = k := by omega
  have hexponent : e - (k : Int) + k = e := by omega
  rw [shiftToTargetExponent, H.target, shiftToExponent, hamount, hexponent,
    ExtendedMantissa.ofMantissaAndAccuracy, shiftRight_mul_two_pow]

theorem Canonical.roundWithAccuracy (H : Canonical m e) (s : Sign) (k : Nat) :
    UnpackedFloat.roundWithAccuracy Format.binary64 s (m * 2 ^ k) (e - k) .exact =
      .finite s m e H.pos := by
  have hagain := H.shift 0
  rw [Nat.pow_zero, Nat.mul_one, Int.natCast_zero, Int.sub_zero] at hagain
  unfold UnpackedFloat.roundWithAccuracy
  rw [H.shift k]
  dsimp only
  have hrounded : (ExtendedMantissa.mk m false false).roundedMantissa = m := rfl
  rw [hrounded, hagain]
  exact dif_neg H.pos.ne'

/-- The same number with a smaller exponent. -/
theorem eq_mul_two_pow {m' m : Nat} {e : Int} {k : Nat} (heq : (m' : ℚ) * 2 ^ (e - k) = m * 2 ^ e) :
    m' = m * 2 ^ k := by
  have hpos : (0 : ℚ) < 2 ^ (e - (k : Int)) := by positivity
  have hsplit : (2 : ℚ) ^ e = 2 ^ k * 2 ^ (e - (k : Int)) := by
    rw [← zpow_natCast, ← zpow_add₀ (by norm_num)]
    congr 1
    omega
  rw [hsplit, ← mul_assoc] at heq
  exact_mod_cast mul_right_cancel₀ hpos.ne' heq

theorem Canonical.round {m' m : Nat} {e' e : Int} (H : Canonical m e) (s : Sign)
    (heq : (m' : ℚ) * 2 ^ e' = m * 2 ^ e) :
    UnpackedFloat.round Format.binary64 s m' e' = .finite s m e H.pos := by
  unfold UnpackedFloat.round
  rcases le_total e' e with hle | hle
  · obtain ⟨k, rfl⟩ : ∃ k : Nat, e' = e - k := ⟨(e - e').toNat, by omega⟩
    obtain rfl := eq_mul_two_pow heq
    have hkeep : decreaseExponent (m * 2 ^ k) (e - k) e = (m * 2 ^ k, e - k) := by
      simp [decreaseExponent]
    rw [H.target k]
    dsimp only
    rw [hkeep]
    exact H.roundWithAccuracy s k
  · obtain ⟨k, rfl⟩ : ∃ k : Nat, e = e' - k := ⟨(e' - e).toNat, by omega⟩
    obtain rfl := eq_mul_two_pow heq.symm
    have hpos : 0 < m' := Nat.pos_of_ne_zero fun h => H.pos.ne' (by rw [h, Nat.zero_mul])
    have htarget : Format.binary64.targetExponent (totalExponent m' e') = e' - k := by
      have hlog := H.log2_add
      rw [log2_mul_two_pow hpos] at hlog
      rw [targetExponent_eq]
      push_cast at hlog
      omega
    have hamount : (e' - (e' - (k : Int))).toNat = k := by omega
    have hshift : decreaseExponent m' e' (e' - k) = (m' * 2 ^ k, e' - k) := by
      rw [decreaseExponent, hamount, Nat.shiftLeft_eq]
    have hround := H.roundWithAccuracy s 0
    rw [Nat.pow_zero, Nat.mul_one, Int.natCast_zero, Int.sub_zero] at hround
    rw [htarget]
    dsimp only
    rw [hshift]
    exact hround

/-! ## What can be represented -/

def Representable (q : ℚ) : Prop := q = 0 ∨ ∃ s m e, Canonical m e ∧ q = scaled s m e

theorem scaled_positive (m : Nat) (e : Int) : scaled .positive m e = m * 2 ^ e := by
  simp [scaled, Sign.apply]

theorem scaled_negative (m : Nat) (e : Int) : scaled .negative m e = -(m * 2 ^ e) := by
  simp [scaled, Sign.apply]

theorem magnitude_pos {m : Nat} (hm : 0 < m) (e : Int) : (0 : ℚ) < m * 2 ^ e := by positivity

/-- The sign and the magnitude of a number that is not zero. -/
theorem scaled_inj {s s' : Sign} {m m' : Nat} {e e' : Int} (hm : 0 < m) (hm' : 0 < m')
    (heq : scaled s m e = scaled s' m' e') : s = s' ∧ (m : ℚ) * 2 ^ e = m' * 2 ^ e' := by
  have hpos := magnitude_pos hm e
  have hpos' := magnitude_pos hm' e'
  cases s <;> cases s' <;> simp only [scaled_positive, scaled_negative] at heq
  · exact ⟨rfl, neg_inj.mp heq⟩
  · linarith
  · linarith
  · exact ⟨rfl, heq⟩

/-- A sum that can be represented is found. -/
theorem normalize_eq {z : Int} {e' : Int} {s : Sign} (hz : z ≠ 0) (H : Canonical m e)
    (heq : (z : ℚ) * 2 ^ e' = scaled s m e) (zeroSign : Sign) :
    normalize Format.binary64 z e' zeroSign = .finite s m e H.pos := by
  unfold UnpackedFloat.normalize
  have hpow : (0 : ℚ) < 2 ^ e' := by positivity
  have hpos := magnitude_pos H.pos e
  rcases lt_or_gt_of_ne hz with hlt | hgt
  · have hcompare : compare z 0 = .lt := compare_lt_iff_lt.mpr hlt
    have hnat : (((-z).toNat : Nat) : ℚ) = -(z : ℚ) := by
      rw [← Int.cast_natCast, Int.toNat_of_nonneg (by omega)]
      push_cast
      ring
    have hzq : (z : ℚ) < 0 := by exact_mod_cast hlt
    cases s with
    | positive =>
      rw [scaled_positive] at heq
      nlinarith
    | negative =>
      rw [scaled_negative] at heq
      rw [hcompare]
      exact H.round .negative (by rw [hnat]; linarith)
  · have hcompare : compare z 0 = .gt := compare_gt_iff_gt.mpr hgt
    have hnat : ((z.toNat : Nat) : ℚ) = (z : ℚ) := by
      rw [← Int.cast_natCast, Int.toNat_of_nonneg (by omega)]
    have hzq : (0 : ℚ) < z := by exact_mod_cast hgt
    cases s with
    | positive =>
      rw [scaled_positive] at heq
      rw [hcompare]
      exact H.round .positive (by rw [hnat]; exact heq)
    | negative =>
      rw [scaled_negative] at heq
      nlinarith

/-! ## Packing -/

theorem unpack_pack_zero (s : Sign) : (Float.Model.pack (.zero s)).unpack = .zero s := by
  cases s <;> rfl

/-- The bits of a normal number. -/
theorem unpack_components_normal (s : Sign) (b : Nat) (hb : 0 < b) (hb' : b < 2047) (m : Nat)
    (hm : 2 ^ 52 ≤ m) (hm' : m < 2 ^ 53) (hpos : 0 < m) :
    UnpackedFloat.unpack Format.binary64
      (packComponents Format.binary64 s (BitVec.ofNat _ b) (BitVec.ofNat _ m)) =
      .finite s m (b - 1075) hpos := by
  have hexponent : (BitVec.ofNat 11 b).toNat = b := by
    rw [BitVec.toNat_ofNat, Nat.mod_eq_of_lt (by omega)]
  have hones : BitVec.ofNat 11 b ≠ -1#11 := by
    intro h
    have hnat := congrArg BitVec.toNat h
    rw [hexponent] at hnat
    have : (-1#11).toNat = 2047 := rfl
    omega
  have hzero : BitVec.ofNat 11 b ≠ 0#11 := by
    intro h
    have hnat := congrArg BitVec.toNat h
    rw [hexponent] at hnat
    have : (0#11).toNat = 0 := rfl
    omega
  have hmantissa : (1#1 ++ BitVec.ofNat 52 m).toNat = m := by
    have hlt : m % 2 ^ 52 < 2 ^ 52 := Nat.mod_lt _ (by decide)
    rw [BitVec.toNat_append, BitVec.toNat_ofNat, BitVec.toNat_ofNat,
      ← Nat.shiftLeft_add_eq_or_of_lt hlt]
    omega
  unfold UnpackedFloat.unpack
  simp only [unpackMantissa_packComponents, unpackExponent_packComponents, unpackSign_packComponents,
    Sign.ofBitVec_toBitVec]
  rw [if_neg hones, if_neg hzero]
  simp only [hexponent, hmantissa]
  rfl

/-- The bits of a subnormal number. -/
theorem unpack_components_subnormal (s : Sign) (m : Nat) (hm : m < 2 ^ 52) (hpos : 0 < m) :
    UnpackedFloat.unpack Format.binary64
      (packComponents Format.binary64 s 0#_ (BitVec.ofNat _ m)) = .finite s m (-1074) hpos := by
  have hmantissa : (BitVec.ofNat 52 m).toNat = m := by
    rw [BitVec.toNat_ofNat, Nat.mod_eq_of_lt hm]
  have hne : BitVec.ofNat 52 m ≠ 0#52 := by
    intro h
    have hnat := congrArg BitVec.toNat h
    rw [hmantissa] at hnat
    exact hpos.ne' hnat
  have hones : (0#11) ≠ -1#11 := by decide
  unfold UnpackedFloat.unpack
  simp only [unpackMantissa_packComponents, unpackExponent_packComponents, unpackSign_packComponents,
    Sign.ofBitVec_toBitVec]
  rw [if_neg hones, if_pos trivial, dif_neg hne]
  simp only [hmantissa]
  rfl

theorem Canonical.unpack_pack (H : Canonical m e) (s : Sign) :
    (Float.Model.pack (.finite s m e H.pos)).unpack = .finite s m e H.pos := by
  have hlow := H.low
  have hhigh := H.high
  have hne : m ≠ 0 := H.pos.ne'
  have hbits : Format.binary64.mantissaBits = 53 := rfl
  have hbias : (Format.binary64.exponentBias : Int) = 1023 := rfl
  have hbiased : (e + (Format.binary64.exponentBias : Int) +
      (Format.binary64.mantissaBitsWithoutImplicit : Int)).toNat = (e + 1075).toNat := by
    rw [hbias]
    congr 1
    show e + 1023 + 52 = e + 1075
    omega
  have hfits : ¬ 2 ^ 11 ≤ (e + 1075).toNat + 1 := by omega
  unfold Float.Model.unpack Float.Model.pack
  unfold UnpackedFloat.pack
  simp only [hbiased, hbits]
  rw [if_neg hfits]
  split
  · next hlog =>
    have hm : 2 ^ 52 ≤ m := ((Nat.log2_eq_iff hne).mp (by omega : m.log2 = 52)).1
    have hback := unpack_components_normal s (e + 1075).toNat (by omega) (by omega) m hm H.lt H.pos
    have hexponent : (((e + 1075).toNat : Nat) : Int) - 1075 = e := by omega
    simp only [hexponent] at hback
    exact hback
  · next hlog =>
    have hlog' := (Nat.log2_lt hne).mpr H.lt
    have hm : m < 2 ^ 52 := (Nat.log2_lt hne).mp (by omega)
    obtain rfl : e = -1074 := H.normal.resolve_left (Nat.not_le_of_lt hm)
    exact unpack_components_subnormal s m hm H.pos

/-- What is unpacked is canonical. -/
theorem canonical_of_unpack {b : BitVec Format.binary64.numBits}
    (h : UnpackedFloat.unpack Format.binary64 b = .finite s m e hm) : Canonical m e := by
  unfold UnpackedFloat.unpack at h
  have hbias : (Format.binary64.exponentBias : Int) = 1023 := rfl
  have hmantissa := (@unpackMantissa Format.binary64 b).isLt
  have hexponent := (@unpackExponent Format.binary64 b).isLt
  dsimp only at h hmantissa hexponent
  split at h
  · split at h <;> cases h
  · next hones =>
    have hones : (@unpackExponent Format.binary64 b).toNat ≠ 2047 :=
      fun heq => hones (BitVec.eq_of_toNat_eq heq)
    split at h
    · next hzero =>
      split at h
      · cases h
      · next hne =>
        cases h
        have hexp0 : (@unpackExponent Format.binary64 b).toNat = 0 :=
          congrArg BitVec.toNat hzero
        have hlow : ((@unpackExponent Format.binary64 b).toNat : Int) -
            ((Format.binary64.exponentBias : Int) + (52 : Nat)) + 1 = -1074 := by
          rw [hbias, hexp0]
          rfl
        exact ⟨hm, by omega, hlow.ge, by omega, .inr hlow⟩
    · next hzero =>
      cases h
      have hexp0 : (@unpackExponent Format.binary64 b).toNat ≠ 0 :=
        fun heq => hzero (BitVec.eq_of_toNat_eq heq)
      have hvalue : (1#1 ++ @unpackMantissa Format.binary64 b).toNat =
          2 ^ 52 + (@unpackMantissa Format.binary64 b).toNat := by
        rw [BitVec.toNat_append, BitVec.toNat_ofNat, ← Nat.shiftLeft_add_eq_or_of_lt hmantissa]
        rfl
      rw [hbias]
      refine ⟨hm, by omega, by omega, by omega, .inl (by omega)⟩

/-! ## Numbers in unpacked form -/

/-- The unpacked form of a number. -/
inductive Fits : UnpackedFloat → ℚ → Prop
  | zero : Fits (.zero s) 0
  | finite (H : Canonical m e) : Fits (.finite s m e H.pos) (scaled s m e)

theorem Fits.number (H : Fits u q) : number u = some q := by
  cases H <;> rfl

theorem Fits.unpack_pack (H : Fits u q) : (Float.Model.pack u).unpack = u := by
  cases H with
  | zero => exact unpack_pack_zero _
  | finite H => exact H.unpack_pack _

theorem Fits.representable (H : Fits u q) : Representable q := by
  cases H with
  | zero => exact .inl rfl
  | finite H => exact .inr ⟨_, _, _, H, rfl⟩

theorem fits_of_number {b : BitVec Format.binary64.numBits}
    (h : Binary64.number (UnpackedFloat.unpack Format.binary64 b) = some q) :
    Fits (UnpackedFloat.unpack Format.binary64 b) q := by
  cases hu : UnpackedFloat.unpack Format.binary64 b with
  | zero s =>
    rw [hu] at h
    cases h
    exact .zero
  | finite s m e hm =>
    rw [hu] at h
    cases h
    exact .finite (canonical_of_unpack hu)
  | infinity s | notANumber =>
    rw [hu] at h
    cases h

theorem decreaseExponent_value (s : Sign) (m : Nat) {e t : Int} (h : t ≤ e) :
    ((s.apply (decreaseExponent m e t).1 : Int) : ℚ) * 2 ^ t = scaled s m e := by
  obtain ⟨k, rfl⟩ : ∃ k : Nat, e = t + k := ⟨(e - t).toNat, by omega⟩
  have hamount : (t + (k : Int) - t).toNat = k := by omega
  have hshift : (decreaseExponent m (t + k) t).1 = m * 2 ^ k := by
    rw [decreaseExponent, hamount]
    exact Nat.shiftLeft_eq m k
  have hpow : (2 : ℚ) ^ (t + (k : Int)) = 2 ^ k * 2 ^ t := by
    rw [add_comm, zpow_add₀ (by norm_num), zpow_natCast]
  rw [hshift, scaled, hpow]
  cases s <;> simp only [Sign.apply] <;> push_cast <;> ring

/-- A number that can be represented is found from any of its forms. -/
theorem fits_normalize {z e' : Int} (hq : Representable ((z : ℚ) * 2 ^ e')) (s : Sign) :
    Fits (normalize Format.binary64 z e' s) (z * 2 ^ e') := by
  by_cases hz : z = 0
  · subst hz
    rw [Int.cast_zero, zero_mul]
    exact .zero
  · have hzq : (z : ℚ) * 2 ^ e' ≠ 0 :=
      mul_ne_zero (Int.cast_ne_zero.mpr hz) (zpow_ne_zero _ (by norm_num))
    obtain ⟨s', m, e, H, heq⟩ := hq.resolve_left hzq
    rw [normalize_eq hz H heq, heq]
    exact .finite H

theorem Fits.add (Hp : Fits u p) (Hq : Fits v q) (h : Representable (p + q)) :
    Fits (UnpackedFloat.add Format.binary64 u v) (p + q) := by
  cases Hp with
  | @zero s =>
    cases Hq with
    | @zero s' =>
      rw [add_zero]
      cases s <;> cases s' <;> exact .zero
    | finite H =>
      rw [zero_add]
      exact .finite H
  | @finite m e s H =>
    cases Hq with
    | zero =>
      rw [add_zero]
      exact .finite H
    | @finite m' e' s' H' =>
      have hp := decreaseExponent_value s m (min_le_left e e')
      have hq := decreaseExponent_value s' m' (min_le_right e e')
      have hsum : scaled s m e + scaled s' m' e' =
          ((s.apply (decreaseExponent m e (min e e')).1 +
            s'.apply (decreaseExponent m' e' (min e e')).1 : Int) : ℚ) * 2 ^ min e e' := by
        rw [← hp, ← hq]
        push_cast
        ring
      rw [hsum] at h ⊢
      exact fits_normalize h .positive

theorem Fits.neg (H : Fits u q) : Fits u.neg (-q) := by
  cases H with
  | zero =>
    rw [neg_zero]
    exact .zero
  | @finite m e s H =>
    have hneg : -scaled s m e = scaled (-s) m e := by
      cases s
      · rw [scaled_negative, neg_neg]
        exact (scaled_positive m e).symm
      · rw [scaled_positive]
        exact (scaled_negative m e).symm
    rw [hneg]
    exact .finite H

theorem Fits.sub (Hp : Fits u p) (Hq : Fits v q) (h : Representable (p - q)) :
    Fits (UnpackedFloat.sub Format.binary64 u v) (p - q) := by
  cases Hp with
  | @zero s =>
    cases Hq with
    | @zero s' =>
      rw [sub_zero]
      cases s <;> cases s' <;> exact .zero
    | finite H =>
      rw [zero_sub]
      exact (Fits.finite H).neg
  | @finite m e s H =>
    cases Hq with
    | zero =>
      rw [sub_zero]
      exact .finite H
    | @finite m' e' s' H' =>
      have hp := decreaseExponent_value s m (min_le_left e e')
      have hq := decreaseExponent_value s' m' (min_le_right e e')
      have hsum : scaled s m e - scaled s' m' e' =
          ((s.apply (decreaseExponent m e (min e e')).1 -
            s'.apply (decreaseExponent m' e' (min e e')).1 : Int) : ℚ) * 2 ^ min e e' := by
        rw [← hp, ← hq]
        push_cast
        ring
      rw [hsum] at h ⊢
      exact fits_normalize h .positive

theorem apply_mul (s s' : Sign) (m m' : Nat) :
    ((s * s').apply ((m * m' : Nat) : Int) : Int) = s.apply m * s'.apply m' := by
  rw [Int.natCast_mul]
  cases s <;> cases s'
  · exact (neg_mul_neg _ _).symm
  · exact (neg_mul _ _).symm
  · exact (mul_neg _ _).symm
  · rfl

theorem scaled_mul (s s' : Sign) (m m' : Nat) (e e' : Int) :
    scaled s m e * scaled s' m' e' = scaled (s * s') (m * m') (e + e') := by
  have hpow : (2 : ℚ) ^ (e + e') = 2 ^ e * 2 ^ e' := zpow_add₀ (by norm_num) e e'
  rw [scaled, scaled, scaled, apply_mul, hpow, Int.cast_mul]
  ring

theorem scaled_ne_zero (s : Sign) {m : Nat} (hm : 0 < m) (e : Int) : scaled s m e ≠ 0 := by
  have hpos := magnitude_pos hm e
  cases s
  · rw [scaled_negative]
    exact neg_ne_zero.mpr hpos.ne'
  · rw [scaled_positive]
    exact hpos.ne'

/-- The exact product has at least the digits that are kept. -/
theorem Canonical.mul_exponent_le (H : Canonical m e) (H' : Canonical m' e') (K : Canonical n t)
    (heq : ((m * m' : Nat) : ℚ) * 2 ^ (e + e') = n * 2 ^ t) : e + e' ≤ t := by
  refine le_of_not_gt fun hlt => ?_
  obtain ⟨k, hk⟩ : ∃ k : Nat, t = e + e' - k := ⟨(e + e' - t).toNat, by omega⟩
  rw [hk] at heq
  have hn := eq_mul_two_pow heq.symm
  have hlow := K.low
  have hfull : 2 ^ 52 ≤ m * m' := by
    rcases H.normal with hm | he
    · exact Nat.le_trans hm (Nat.le_mul_of_pos_right m H'.pos)
    · have hm' : 2 ^ 52 ≤ m' := H'.normal.resolve_right (by omega)
      exact Nat.le_trans hm' (Nat.le_mul_of_pos_left m' H.pos)
  have hk2 : 2 ^ 1 ≤ 2 ^ k := Nat.pow_le_pow_right (by decide) (by omega)
  have hmul := Nat.mul_le_mul hfull hk2
  have hlt' := K.lt
  omega

theorem Fits.mul (Hp : Fits u p) (Hq : Fits v q) (h : Representable (p * q)) :
    Fits (UnpackedFloat.mul Format.binary64 u v) (p * q) := by
  cases Hp with
  | zero =>
    rw [zero_mul]
    cases Hq <;> exact .zero
  | @finite m e s H =>
    cases Hq with
    | zero =>
      rw [mul_zero]
      exact .zero
    | @finite m' e' s' H' =>
      have hpos : 0 < m * m' := Nat.mul_pos H.pos H'.pos
      rw [scaled_mul] at h ⊢
      have hne := scaled_ne_zero (s * s') hpos (e + e')
      obtain ⟨s'', n, t, K, heq⟩ := h.resolve_left hne
      obtain ⟨hs, hmagnitude⟩ := scaled_inj hpos K.pos heq
      have hle := H.mul_exponent_le H' K hmagnitude
      obtain ⟨k, hk⟩ : ∃ k : Nat, e + e' = t - k := ⟨(t - (e + e')).toNat, by omega⟩
      rw [hk] at hmagnitude
      have hn := eq_mul_two_pow hmagnitude
      have hround := K.roundWithAccuracy (s * s') k
      rw [← hk, ← hn] at hround
      rw [heq, ← hs, UnpackedFloat.mul, hround]
      exact .finite K

theorem Fits.abs (H : Fits u q) : Fits u.abs |q| := by
  cases H with
  | zero =>
    rw [abs_zero]
    exact .zero
  | @finite m e s H =>
    have hpos := magnitude_pos H.pos e
    have habs : |scaled s m e| = scaled .positive m e := by
      cases s
      · rw [scaled_negative, abs_neg, abs_of_pos hpos, scaled_positive]
      · rw [scaled_positive, abs_of_pos hpos]
    rw [habs]
    exact .finite H

/-! ## Order -/

/-- A larger exponent means a larger number. -/
theorem Canonical.lt_of_exponent (H : Canonical m e) (H' : Canonical m' e') (hlt : e < e') :
    (m : ℚ) * 2 ^ e < m' * 2 ^ e' := by
  have hlow := H.low
  have hm' : 2 ^ 52 ≤ m' := H'.normal.resolve_right (by omega)
  have hm : (m : ℚ) < 2 ^ 53 := by exact_mod_cast H.lt
  have hm'q : (2 : ℚ) ^ 52 ≤ m' := by exact_mod_cast hm'
  have hpow : (2 : ℚ) ^ (e + 1) ≤ 2 ^ e' := zpow_le_zpow_right₀ (by norm_num) (by omega)
  have hstep : (2 : ℚ) ^ (e + 1) = 2 * 2 ^ e := by
    rw [zpow_add₀ (by norm_num), zpow_one, mul_comm]
  have hpos : (0 : ℚ) < 2 ^ e := by positivity
  calc (m : ℚ) * 2 ^ e < 2 ^ 53 * 2 ^ e := mul_lt_mul_of_pos_right hm hpos
    _ = 2 ^ 52 * (2 * 2 ^ e) := by ring
    _ ≤ m' * 2 ^ e' := by
      rw [← hstep]
      exact mul_le_mul hm'q hpow (by positivity) (by positivity)

/-- Exponents and mantissas are compared as the numbers are. -/
theorem Canonical.compare (H : Canonical m e) (H' : Canonical m' e') :
    (Ord.compare e e').then (Ord.compare m m') = Ord.compare ((m : ℚ) * 2 ^ e) (m' * 2 ^ e') := by
  rcases lt_trichotomy e e' with hlt | rfl | hgt
  · rw [compare_lt_iff_lt.mpr hlt, compare_lt_iff_lt.mpr (H.lt_of_exponent H' hlt)]
    rfl
  · have hpos : (0 : ℚ) < 2 ^ e := by positivity
    rw [compare_eq_iff_eq.mpr rfl]
    show Ord.compare m m' = _
    rcases lt_trichotomy m m' with hlt | rfl | hgt
    · rw [compare_lt_iff_lt.mpr hlt, compare_lt_iff_lt.mpr]
      exact mul_lt_mul_of_pos_right (by exact_mod_cast hlt) hpos
    · rw [compare_eq_iff_eq.mpr rfl, compare_eq_iff_eq.mpr rfl]
    · rw [compare_gt_iff_gt.mpr hgt, compare_gt_iff_gt.mpr]
      exact mul_lt_mul_of_pos_right (by exact_mod_cast hgt) hpos
  · rw [compare_gt_iff_gt.mpr hgt, compare_gt_iff_gt.mpr (H'.lt_of_exponent H hgt)]
    rfl

theorem compare_neg_neg (p q : ℚ) : Ord.compare (-p) (-q) = (Ord.compare p q).swap := by
  rcases lt_trichotomy p q with hlt | rfl | hgt
  · rw [compare_lt_iff_lt.mpr hlt, compare_gt_iff_gt.mpr (neg_lt_neg hlt)]
    rfl
  · rw [compare_eq_iff_eq.mpr rfl, compare_eq_iff_eq.mpr rfl]
    rfl
  · rw [compare_gt_iff_gt.mpr hgt, compare_lt_iff_lt.mpr (neg_lt_neg hgt)]
    rfl

theorem Fits.compare (Hp : Fits u p) (Hq : Fits v q) :
    UnpackedFloat.compare u v = some (Ord.compare p q) := by
  cases Hp with
  | zero =>
    cases Hq with
    | zero =>
      rw [compare_eq_iff_eq.mpr rfl]
      rfl
    | @finite m e s H =>
      have hpos := magnitude_pos H.pos e
      cases s
      · rw [scaled_negative, compare_gt_iff_gt.mpr (neg_neg_iff_pos.mpr hpos)]
        rfl
      · rw [scaled_positive, compare_lt_iff_lt.mpr hpos]
        rfl
  | @finite m e s H =>
    have hpos := magnitude_pos H.pos e
    cases Hq with
    | zero =>
      cases s
      · rw [scaled_negative, compare_lt_iff_lt.mpr (neg_neg_iff_pos.mpr hpos)]
        rfl
      · rw [scaled_positive, compare_gt_iff_gt.mpr hpos]
        rfl
    | @finite m' e' s' H' =>
      have hpos' := magnitude_pos H'.pos e'
      cases s <;> cases s'
      · rw [scaled_negative, scaled_negative, UnpackedFloat.compare, H.compare H',
          compare_neg_neg]
      · rw [scaled_negative, scaled_positive, compare_lt_iff_lt.mpr (by linarith)]
        rfl
      · rw [scaled_negative, scaled_positive, compare_gt_iff_gt.mpr (by linarith)]
        rfl
      · rw [scaled_positive, scaled_positive, UnpackedFloat.compare, H.compare H']

/-! ## Integers -/

theorem representable_scaled (s : Sign) (hm : m < 2 ^ 53) (hlow : -1022 ≤ e) (hhigh : e ≤ 971) :
    Representable (scaled s m e) := by
  rcases Nat.eq_zero_or_pos m with rfl | hpos
  · refine .inl ?_
    cases s <;> simp [scaled, Sign.apply]
  have hlog : m.log2 < 53 := (Nat.log2_lt hpos.ne').mpr hm
  obtain ⟨k, hk⟩ : ∃ k, m.log2 + k = 52 := ⟨52 - m.log2, by omega⟩
  have hbounds := (Nat.log2_eq_iff hpos.ne').mp rfl
  have hfull : 2 ^ 52 ≤ m * 2 ^ k := by
    rw [← hk, Nat.pow_add]
    exact Nat.mul_le_mul_right _ hbounds.1
  have hsmall : m * 2 ^ k < 2 ^ 53 := by
    have hpow : (2 : Nat) ^ 53 = 2 ^ (m.log2 + 1) * 2 ^ k := by
      rw [← Nat.pow_add]
      congr 1
      omega
    rw [hpow]
    exact Nat.mul_lt_mul_of_pos_right hbounds.2 (Nat.two_pow_pos k)
  have H : Canonical (m * 2 ^ k) (e - k) :=
    ⟨Nat.mul_pos hpos (Nat.two_pow_pos k), hsmall, by omega, by omega, .inl hfull⟩
  refine .inr ⟨s, _, _, H, ?_⟩
  have hvalue : ((m * 2 ^ k : Nat) : ℚ) * 2 ^ (e - (k : Int)) = m * 2 ^ e := by
    have hpow : (2 : ℚ) ^ e = 2 ^ k * 2 ^ (e - (k : Int)) := by
      rw [← zpow_natCast, ← zpow_add₀ (by norm_num)]
      congr 1
      omega
    rw [hpow]
    push_cast
    ring
  cases s
  · rw [scaled_negative, scaled_negative, hvalue]
  · rw [scaled_positive, scaled_positive, hvalue]

theorem representable_int {z : Int} (h : z.natAbs < 2 ^ 53) : Representable z := by
  have hcast : ((z.natAbs : Int) : ℚ) = z.natAbs := Int.cast_natCast _
  rcases Int.natAbs_eq z with heq | heq
  · have hrep := representable_scaled .positive h (by decide : (-1022 : Int) ≤ 0) (by decide)
    rwa [scaled_positive, zpow_zero, mul_one, ← hcast, ← heq] at hrep
  · have hrep := representable_scaled .negative h (by decide : (-1022 : Int) ≤ 0) (by decide)
    rwa [scaled_negative, zpow_zero, mul_one, ← hcast, ← Int.cast_neg, ← heq] at hrep

theorem fits_ofNat (h : n < 2 ^ 53) : Fits (UnpackedFloat.ofNat Format.binary64 n) n := by
  have hrep : Representable (((n : Int) : ℚ) * 2 ^ (0 : Int)) := by
    rw [zpow_zero, mul_one]
    exact representable_int (by rwa [Int.natAbs_natCast])
  have hfits := fits_normalize hrep .positive
  rw [zpow_zero, mul_one, Int.cast_natCast] at hfits
  exact hfits

theorem shiftRight_mantissa (em : ExtendedMantissa) (k : Nat) :
    (em >>> k).mantissa = em.mantissa / 2 ^ k := by
  induction k with
  | zero =>
    rw [Nat.pow_zero, Nat.div_one]
    rfl
  | succ k ih =>
    have hstep : (em >>> (k + 1)).mantissa = (em >>> k).mantissa / 2 := rfl
    rw [hstep, ih, Nat.div_div_eq_div_mul, Nat.pow_succ]

/-- Truncation of a number that is not negative. -/
theorem Fits.toInt (H : Fits u q) (hq : 0 ≤ q) (low high : Int) : u.toInt low high = ⌊q⌋ := by
  cases H with
  | zero =>
    rw [Int.floor_zero]
    rfl
  | @finite m e s H =>
    have hpos := magnitude_pos H.pos e
    cases s with
    | negative =>
      rw [scaled_negative] at hq
      linarith
    | positive =>
      rw [scaled_positive]
      show roundToInt .positive m e = _
      rcases le_total 0 e with hle | hle
      · obtain ⟨k, rfl⟩ : ∃ k : Nat, e = k := ⟨e.toNat, by omega⟩
        have hvalue : (m : ℚ) * 2 ^ (k : Int) = ((m * 2 ^ k : Nat) : Int) := by
          rw [zpow_natCast]
          push_cast
          rfl
        have hamount : ((k : Int) - 0).toNat = k := by omega
        have hleft : decreaseExponent m k 0 = (m * 2 ^ k, 0) := by
          rw [decreaseExponent, hamount, Nat.shiftLeft_eq, Int.sub_self]
        rw [hvalue, Int.floor_intCast]
        unfold roundToInt
        rw [hleft]
        rfl
      · obtain ⟨k, rfl⟩ : ∃ k : Nat, e = -k := ⟨(-e).toNat, by omega⟩
        have hfloor : ⌊(m : ℚ) * 2 ^ (-(k : Int))⌋ = ((m / 2 ^ k : Nat) : Int) := by
          have hdiv := Rat.floor_natCast_div_natCast m (2 ^ k)
          rw [Nat.cast_pow, Nat.cast_ofNat] at hdiv
          rw [zpow_neg, zpow_natCast, ← div_eq_mul_inv, hdiv]
          exact (Int.natCast_div m (2 ^ k)).symm
        have hamount : (-(k : Int) - 0).toNat = 0 := by omega
        have hamount' : (0 - -(k : Int)).toNat = k := by omega
        have hleft : decreaseExponent m (-(k : Int)) 0 = (m, -(k : Int)) := by
          rw [decreaseExponent, hamount]
          simp
        rw [hfloor]
        unfold roundToInt
        rw [hleft]
        dsimp only
        rw [shiftToExponent, hamount']
        dsimp only
        rw [shiftRight_mantissa]
        rfl

/-! ## Doubles -/

/-- A double holds a number exactly. -/
def Holds (x : Float) (q : ℚ) : Prop := number x.toModel.unpack = some q

theorem Holds.fits (H : Holds x q) : Fits x.toModel.unpack q := fits_of_number H

theorem Fits.holds (H : Fits u q) : Holds (Float.ofModel (Float.Model.pack u)) q := by
  unfold Holds
  rw [H.unpack_pack]
  exact H.number

theorem Holds.unique (H : Holds x p) (H' : Holds x q) : p = q := Option.some.inj (H.symm.trans H')

theorem Holds.representable (H : Holds x q) : Representable q := H.fits.representable

theorem Holds.add (Hp : Holds x p) (Hq : Holds y q) (h : Representable (p + q)) :
    Holds (x + y) (p + q) := (Hp.fits.add Hq.fits h).holds

theorem Holds.sub (Hp : Holds x p) (Hq : Holds y q) (h : Representable (p - q)) :
    Holds (x - y) (p - q) := (Hp.fits.sub Hq.fits h).holds

theorem Holds.mul (Hp : Holds x p) (Hq : Holds y q) (h : Representable (p * q)) :
    Holds (x * y) (p * q) := (Hp.fits.mul Hq.fits h).holds

theorem Holds.neg (H : Holds x q) : Holds (-x) (-q) := H.fits.neg.holds

theorem Holds.abs (H : Holds x q) : Holds x.abs |q| := H.fits.abs.holds

theorem Fits.isFinite (H : Fits u q) : u.isFinite = true := by
  cases H <;> rfl

theorem Holds.isFinite (H : Holds x q) : x.isFinite = true := H.fits.isFinite

theorem Holds.lt_iff (Hp : Holds x p) (Hq : Holds y q) : x < y ↔ p < q := by
  show decide (x.toModel < y.toModel) = true ↔ p < q
  rw [decide_eq_true_iff]
  show (UnpackedFloat.compare x.toModel.unpack y.toModel.unpack == some .lt) = true ↔ p < q
  rw [Hp.fits.compare Hq.fits, beq_iff_eq, Option.some_inj]
  exact compare_lt_iff_lt

theorem Holds.le_iff (Hp : Holds x p) (Hq : Holds y q) : x ≤ y ↔ p ≤ q := by
  show decide (x.toModel ≤ y.toModel) = true ↔ p ≤ q
  rw [decide_eq_true_iff]
  show (UnpackedFloat.compare x.toModel.unpack y.toModel.unpack).any Ordering.isLE = true ↔ p ≤ q
  rw [Hp.fits.compare Hq.fits, Option.any_some, Ordering.isLE_iff_ne_gt]
  exact compare_le_iff_le

theorem Holds.beq_iff (Hp : Holds x p) (Hq : Holds y q) : (x == y) = true ↔ p = q := by
  show (UnpackedFloat.compare x.toModel.unpack y.toModel.unpack == some .eq) = true ↔ p = q
  rw [Hp.fits.compare Hq.fits, beq_iff_eq, Option.some_inj]
  exact compare_eq_iff_eq

/-- A number that is not negative is truncated to its integer part. -/
theorem Holds.toUInt64 (H : Holds x q) (hq : 0 ≤ q) (hlt : q < 2 ^ 64) :
    x.toUInt64.toNat = ⌊q⌋.toNat := by
  have hfloor := H.fits.toInt hq 0 (UInt64.size - 1)
  have hnonneg : 0 ≤ ⌊q⌋ := Int.floor_nonneg.mpr hq
  have hsmall : ⌊q⌋ < 2 ^ 64 := by
    rw [Int.floor_lt]
    push_cast
    exact hlt
  show (UInt64.ofNatClamp (x.toModel.unpack.toInt 0 (UInt64.size - 1)).toNat).toNat = _
  rw [hfloor]
  have hclamp : ⌊q⌋.toNat < UInt64.size := by
    have hsize : UInt64.size = 2 ^ 64 := rfl
    omega
  unfold UInt64.ofNatClamp
  rw [dif_pos hclamp]
  rfl

theorem Holds.toUInt32 (H : Holds x q) (hq : 0 ≤ q) (hlt : q < 2 ^ 32) :
    x.toUInt32.toNat = ⌊q⌋.toNat := by
  have hfloor := H.fits.toInt hq 0 (UInt32.size - 1)
  have hnonneg : 0 ≤ ⌊q⌋ := Int.floor_nonneg.mpr hq
  have hsmall : ⌊q⌋ < 2 ^ 32 := by
    rw [Int.floor_lt]
    push_cast
    exact hlt
  show (UInt32.ofNatClamp (x.toModel.unpack.toInt 0 (UInt32.size - 1)).toNat).toNat = _
  rw [hfloor]
  have hclamp : ⌊q⌋.toNat < UInt32.size := by
    have hsize : UInt32.size = 2 ^ 32 := rfl
    omega
  unfold UInt32.ofNatClamp
  rw [dif_pos hclamp]
  rfl

/-- A finite double is a number. -/
theorem holds_of_isFinite (h : x.isFinite = true) : ∃ q, Holds x q := by
  have hfinite : x.toModel.unpack.isFinite = true := h
  unfold Holds
  cases hu : x.toModel.unpack with
  | zero s => exact ⟨_, rfl⟩
  | finite s m e hm => exact ⟨_, rfl⟩
  | infinity s | notANumber =>
    rw [hu] at hfinite
    cases hfinite

/-- What equals a number is that number. -/
theorem Holds.of_beq (H : Holds y q) (h : (x == y) = true) : Holds x q := by
  have hcompare : (UnpackedFloat.compare x.toModel.unpack y.toModel.unpack == some .eq) = true := h
  rw [beq_iff_eq] at hcompare
  have hx : ∃ p, Holds x p := by
    unfold Holds
    cases hu : x.toModel.unpack with
    | zero s => exact ⟨_, rfl⟩
    | finite s m e hm => exact ⟨_, rfl⟩
    | infinity s =>
      rw [hu] at hcompare
      have Hy := H.fits
      generalize y.toModel.unpack = v at hcompare Hy
      cases Hy <;> cases s <;> cases hcompare
    | notANumber =>
      rw [hu] at hcompare
      cases hcompare
  obtain ⟨p, hp⟩ := hx
  rwa [← (hp.beq_iff H).mp h]

/-- A double given by its bits. -/
theorem holds_ofBits {bits : UInt64}
    (h : number (UnpackedFloat.unpack Format.binary64 bits.toBitVec) = some q) :
    Holds (Float.ofBits bits) q := (fits_of_number h).holds

theorem holds_ofBits_one : Holds (Float.ofBits 0x3FF0000000000000) 1 := by
  have hone : scaled .positive (2 ^ 52) (-52) = 1 := by
    rw [scaled_positive]
    norm_num
  exact hone ▸ holds_ofBits rfl

/-- The natural numbers that a double can count to. -/
theorem holds_ofUInt64 {n : Nat} (h : n < 2 ^ 53) : Holds (UInt64.ofNat n).toFloat n := by
  have hsize : (UInt64.ofNat n).toNat = n := UInt64.toNat_ofNat_of_lt' (Nat.lt_trans h (by decide))
  show Holds (Float.ofModel (Float.Model.pack
    (UnpackedFloat.ofNat Format.binary64 (UInt64.ofNat n).toNat))) n
  rw [hsize]
  exact (fits_ofNat h).holds

theorem holds_toFloat {n : Nat} (h : n < 2 ^ 53) : Holds n.toFloat n := by
  have hn : Holds n.toUInt64.toFloat n := holds_ofUInt64 h
  have hone := holds_ofBits_one
  have hmul := hn.mul hone (by rw [mul_one]; exact hn.representable)
  rw [mul_one] at hmul
  have heq : n.toFloat = n.toUInt64.toFloat * Float.ofBits 0x3FF0000000000000 := by
    have hcond : n < 2 ^ 53 ∧ 0 ≤ 22 := ⟨h, by decide⟩
    show Float.ofScientific n false 0 = _
    unfold Float.ofScientific
    rw [dif_pos hcond]
    rfl
  rw [heq]
  exact hmul

/-! ## Bit patterns -/

/-- The fields of a pattern. -/
theorem toNat_unpackMantissa {spec : Float.Model.Format} (b : BitVec spec.numBits) :
    (unpackMantissa b).toNat = b.toNat % 2 ^ spec.mantissaBitsWithoutImplicit := by
  have hm := spec.hm
  have hwidth : spec.mantissaBitsWithoutImplicit - 1 - 0 + 1 = spec.mantissaBitsWithoutImplicit := by
    omega
  rw [unpackMantissa, BitVec.toNat_cast, BitVec.extractLsb_toNat, Nat.shiftRight_zero, hwidth]

theorem toNat_unpackExponent {spec : Float.Model.Format} (b : BitVec spec.numBits) :
    (unpackExponent b).toNat =
      b.toNat / 2 ^ spec.mantissaBitsWithoutImplicit % 2 ^ spec.exponentBits := by
  have he := spec.he
  have hwidth : spec.mantissaBitsWithoutImplicit + spec.exponentBits - 1 -
      spec.mantissaBitsWithoutImplicit + 1 = spec.exponentBits := by
    omega
  rw [unpackExponent, BitVec.toNat_cast, BitVec.extractLsb_toNat, Nat.shiftRight_eq_div_pow, hwidth]

theorem toNat_unpackSign {spec : Float.Model.Format} (b : BitVec spec.numBits) :
    (unpackSign b).toNat =
      b.toNat / 2 ^ (spec.mantissaBitsWithoutImplicit + spec.exponentBits) % 2 := by
  have hwidth : spec.mantissaBitsWithoutImplicit + spec.exponentBits -
      (spec.mantissaBitsWithoutImplicit + spec.exponentBits) + 1 = 1 := by
    omega
  rw [unpackSign, BitVec.toNat_cast, BitVec.extractLsb_toNat, Nat.shiftRight_eq_div_pow, hwidth,
    Nat.pow_one]

/-- The number that a pattern stands for in a format, if it stands for one. -/
def patternNumber (spec : Float.Model.Format) (n : Nat) : Option ℚ :=
  let fraction := n % 2 ^ spec.mantissaBitsWithoutImplicit
  let exponent := n / 2 ^ spec.mantissaBitsWithoutImplicit % 2 ^ spec.exponentBits
  let sign : ℚ :=
    if n / 2 ^ (spec.mantissaBitsWithoutImplicit + spec.exponentBits) % 2 = 1 then -1 else 1
  let unit : Int := spec.exponentBias + spec.mantissaBitsWithoutImplicit
  if exponent = 2 ^ spec.exponentBits - 1 then none
  else if exponent = 0 then some (sign * (fraction * 2 ^ (1 - unit)))
  else
    some (sign * ((2 ^ spec.mantissaBitsWithoutImplicit + fraction : Nat) * 2 ^ (exponent - unit)))

theorem scaled_ofBitVec (b : BitVec 1) (m : Nat) (e : Int) :
    scaled (Sign.ofBitVec b) m e = (if b.toNat = 1 then -1 else 1) * (m * 2 ^ e) := by
  have hb : b = 0#1 ∨ b = 1#1 := by
    revert b
    decide
  rcases hb with rfl | rfl
  · exact (scaled_positive m e).trans (one_mul _).symm
  · exact (scaled_negative m e).trans (neg_one_mul _).symm

/-- Unpacking finds the number of a pattern. -/
theorem number_unpack {spec : Float.Model.Format} (b : BitVec spec.numBits) :
    number (UnpackedFloat.unpack spec b) = patternNumber spec b.toNat := by
  have hones : unpackExponent b = -BitVec.ofNat spec.exponentBits 1 ↔
      (unpackExponent b).toNat = 2 ^ spec.exponentBits - 1 := by
    rw [← BitVec.toNat_inj, BitVec.neg_one_eq_allOnes, BitVec.toNat_allOnes]
  have hzero : unpackExponent b = BitVec.ofNat spec.exponentBits 0 ↔ (unpackExponent b).toNat = 0 := by
    rw [← BitVec.toNat_inj, BitVec.toNat_ofNat, Nat.zero_mod]
  unfold UnpackedFloat.unpack patternNumber
  rw [← toNat_unpackMantissa, ← toNat_unpackExponent, ← toNat_unpackSign]
  dsimp only
  simp only [hones, hzero]
  split
  · split <;> rfl
  · split
    · next h0 =>
      rw [h0]
      split
      · next hm =>
        have hm0 : (unpackMantissa b).toNat = 0 := by
          rw [hm, BitVec.toNat_ofNat, Nat.zero_mod]
        rw [hm0, Nat.cast_zero, zero_mul, mul_zero]
        rfl
      · next hm =>
        show some _ = some _
        rw [scaled_ofBitVec]
        congr 4
        omega
    · next h0 =>
      have hmantissa := (unpackMantissa b).isLt
      have hvalue : (1#1 ++ unpackMantissa b).toNat =
          2 ^ spec.mantissaBitsWithoutImplicit + (unpackMantissa b).toNat := by
        rw [BitVec.toNat_append, BitVec.toNat_ofNat, ← Nat.shiftLeft_add_eq_or_of_lt hmantissa,
          Nat.shiftLeft_eq]
        omega
      show some _ = some _
      rw [scaled_ofBitVec, hvalue]

theorem holds_pattern {bits : UInt64} (h : patternNumber Format.binary64 bits.toNat = some q) :
    Holds (Float.ofBits bits) q := holds_ofBits ((number_unpack _).trans h)

/-- The double with the given fields. -/
theorem holds_components (hsign : sign < 2) (hpos : 0 < exponent) (hexponent : exponent < 2047)
    (hfraction : fraction < 2 ^ 52) :
    Holds (Float.ofBits (UInt64.ofNat (sign * 2 ^ 63 + exponent * 2 ^ 52 + fraction)))
      ((if sign = 1 then -1 else 1) *
        ((2 ^ 52 + fraction : Nat) * 2 ^ ((exponent : Int) - 1075))) := by
  obtain ⟨n, hn⟩ : ∃ n, n = sign * 2 ^ 63 + exponent * 2 ^ 52 + fraction := ⟨_, rfl⟩
  have hsize : n < UInt64.size := by
    have hsize : UInt64.size = 2 ^ 64 := rfl
    omega
  have hf : n % 2 ^ 52 = fraction := by omega
  have he : n / 2 ^ 52 % 2 ^ 11 = exponent := by omega
  have hs : n / 2 ^ 63 % 2 = sign := by omega
  rw [← hn]
  apply holds_pattern
  rw [UInt64.toNat_ofNat_of_lt' hsize]
  have hpattern : patternNumber Format.binary64 n =
      if n / 2 ^ 52 % 2 ^ 11 = 2047 then none
      else if n / 2 ^ 52 % 2 ^ 11 = 0 then
        some ((if n / 2 ^ 63 % 2 = 1 then -1 else 1) *
          (((n % 2 ^ 52 : Nat) : ℚ) * 2 ^ (-1074 : Int)))
      else
        some ((if n / 2 ^ 63 % 2 = 1 then -1 else 1) *
          (((2 ^ 52 + n % 2 ^ 52 : Nat) : ℚ) *
            2 ^ (((n / 2 ^ 52 % 2 ^ 11 : Nat) : Int) - 1075))) := rfl
  rw [hpattern, hf, he, hs, if_neg (by omega), if_neg (by omega)]

end Binary64
