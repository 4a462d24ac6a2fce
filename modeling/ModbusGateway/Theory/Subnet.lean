import Mathlib.Order.Bounds.Defs

/-!
# Prefixes and subnets

The subnet of an address under a mask are the addresses that agree with it where the mask has a one. Its
highest address is `ip &&& mask ||| ~~~mask`, whatever the mask is. A mask is that of a prefix when its
ones come first; then the subnet are the addresses with the same first bits.
-/

namespace Subnet

/-- The mask whose first `bits` bits are one. -/
def prefixMask (w bits : Nat) : BitVec w := BitVec.allOnes w <<< (w - bits)

/-- The addresses that agree with `ip` under the mask. -/
def members (ip mask : BitVec w) : Set (BitVec w) := fun a => a &&& mask = ip &&& mask

/-- The host bits set, the others those of `ip`. -/
def highest (ip mask : BitVec w) : BitVec w := ip &&& mask ||| ~~~mask

@[simp] theorem getMsbD_prefixMask (hbits : bits ≤ w) :
    (prefixMask w bits).getMsbD i = decide (i < bits) := by
  simp only [prefixMask, BitVec.getMsbD_shiftLeft, BitVec.getMsbD_allOnes, decide_eq_decide]
  omega

theorem prefixMask_full : prefixMask w w = BitVec.allOnes w := by
  rw [prefixMask, Nat.sub_self, BitVec.shiftLeft_zero]

/-! ## The subnet -/

theorem mem_members : a ∈ members ip mask ↔ a &&& mask = ip &&& mask := Iff.rfl

theorem highest_mem (ip mask : BitVec w) : highest ip mask ∈ members ip mask := by
  rw [mem_members]
  ext i hi
  simp only [highest, BitVec.getElem_and, BitVec.getElem_or, BitVec.getElem_not]
  cases mask[i] <;> simp

/-- Every bit of a member is in the highest address. -/
theorem or_highest (h : a ∈ members ip mask) : a ||| highest ip mask = highest ip mask := by
  rw [mem_members] at h
  ext i hi
  have hbit : (a &&& mask)[i] = (ip &&& mask)[i] := by rw [h]
  simp only [BitVec.getElem_and] at hbit
  simp only [highest, BitVec.getElem_and, BitVec.getElem_or, BitVec.getElem_not, ← hbit]
  cases mask[i] <;> simp

theorem isGreatest_highest (ip mask : BitVec w) : IsGreatest (members ip mask) (highest ip mask) := by
  refine ⟨highest_mem ip mask, fun a ha => ?_⟩
  rw [BitVec.le_def, ← or_highest ha, BitVec.toNat_or]
  exact Nat.left_le_or

theorem highest_append (a b : BitVec m) (a' b' : BitVec n) :
    highest (a ++ a') (b ++ b') = highest a b ++ highest a' b' := by
  unfold highest
  rw [BitVec.and_append, BitVec.not_append, BitVec.or_append]

/-- Under the mask of a prefix the members share its bits. -/
theorem mem_members_prefixMask {a ip : BitVec w} (hbits : bits ≤ w) :
    a ∈ members ip (prefixMask w bits) ↔ ∀ i < bits, a.getMsbD i = ip.getMsbD i := by
  rw [mem_members]
  constructor
  · intro h i hi
    have hbit : (a &&& prefixMask w bits).getMsbD i = (ip &&& prefixMask w bits).getMsbD i := by
      rw [h]
    simpa only [BitVec.getMsbD_and, getMsbD_prefixMask hbits, hi, decide_true, Bool.and_true] using hbit
  · intro h
    refine BitVec.eq_of_getMsbD_eq fun i _ => ?_
    simp only [BitVec.getMsbD_and, getMsbD_prefixMask hbits]
    by_cases hi : i < bits
    · rw [h i hi]
    · simp only [hi, decide_false, Bool.and_false]

end Subnet
