import Mathlib.Logic.Function.Iterate

/-!
# Reflected CRC

A checksum that is a fold detects a change of one symbol, when a step loses nothing: neither of the
state for a given symbol, nor of the symbol in a given state. The bit step of a reflected CRC loses
nothing, since the top bit of its result is the bit that was shifted out.
-/

namespace Crc

/-! ## Folds -/

theorem foldl_injective {step : σ → α → σ} (hstate : ∀ a, Function.Injective (step · a))
    (l : List α) : Function.Injective (l.foldl step) := by
  induction l with
  | nil => exact fun _ _ h => h
  | cons a l ih => exact fun _ _ h => hstate a (ih h)

/-- A fold without losses tells lists apart that differ in one place. -/
theorem foldl_set_ne {step : σ → α → σ} (hstate : ∀ a, Function.Injective (step · a))
    (hsymbol : ∀ s, Function.Injective (step s)) {l : List α} (hi : i < l.length) (hne : l[i] ≠ b)
    (s : σ) : (l.set i b).foldl step s ≠ l.foldl step s := by
  induction l generalizing i s with
  | nil => cases hi
  | cons a l ih =>
    cases i with
    | zero =>
      intro heq
      have hstep : step s b = step s a := foldl_injective hstate l heq
      exact hne (hsymbol s hstep).symm
    | succ i => exact ih (Nat.lt_of_succ_lt_succ hi) hne (step s a)

/-! ## The bit step -/

/-- One bit of a reflected CRC. -/
def bit (poly c : BitVec w) : BitVec w := (c >>> 1) ^^^ (if c.getLsbD 0 then poly else 0)

/-- The bit that is shifted out comes back at the top. -/
theorem bit_top {poly : BitVec (w + 1)} (hpoly : poly.getLsbD w = true) (c : BitVec (w + 1)) :
    (bit poly c).getLsbD w = c.getLsbD 0 := by
  have hout : c.getLsbD (1 + w) = false := BitVec.getLsbD_of_ge c _ (by omega)
  rw [bit, BitVec.getLsbD_xor, BitVec.getLsbD_ushiftRight, hout, Bool.false_xor]
  split
  · next hlow => rw [hpoly, hlow]
  · next hlow =>
    rw [Bool.not_eq_true] at hlow
    rw [hlow]
    exact BitVec.getLsbD_zero

theorem bit_injective {poly : BitVec (w + 1)} (hpoly : poly.getLsbD w = true) :
    Function.Injective (bit poly) := by
  intro c d heq
  have hlow : c.getLsbD 0 = d.getLsbD 0 := by
    rw [← bit_top hpoly c, heq, bit_top hpoly d]
  have hshift : c >>> 1 = d >>> 1 := by
    rw [bit, bit, hlow] at heq
    exact (BitVec.xor_left_inj _).mp heq
  apply BitVec.eq_of_getLsbD_eq
  intro i _
  cases i with
  | zero => exact hlow
  | succ i =>
    have hi := congrArg (BitVec.getLsbD · i) hshift
    simpa only [BitVec.getLsbD_ushiftRight, Nat.add_comm] using hi

end Crc
