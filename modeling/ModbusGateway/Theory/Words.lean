import Mathlib.Algebra.Group.Nat.Defs
import Mathlib.Control.Monad.Writer

/-!
# Arithmetic on words, recorded

C computes on `uint32_t` modulo `2 ^ 32`. A computation in `Recorded` does the same and keeps the
operations it has made with their operands, so that `Exact` can say of a whole run that none of them
has wrapped. `exact_perform_bind` takes the first operation off a run, and `Op.exact_add`,
`Op.exact_sub` and `Op.exact_mul` settle it.
-/

namespace Words

/-- An operation on `uint32_t`, with its operands. -/
inductive Op
  | add (a b : UInt32)
  | sub (a b : UInt32)
  | mul (a b : UInt32)

namespace Op

/-- The result modulo `2 ^ 32`. -/
def result : Op → UInt32
  | add a b => a + b
  | sub a b => a - b
  | mul a b => a * b

/-- The result over the integers. -/
def value : Op → Int
  | add a b => a.toNat + b.toNat
  | sub a b => a.toNat - b.toNat
  | mul a b => a.toNat * b.toNat

/-- The operation does not wrap. -/
def Exact (o : Op) : Prop := (o.result.toNat : Int) = o.value

theorem toNat_add (h : a.toNat + b.toNat < 2 ^ 32) : (add a b).result.toNat = a.toNat + b.toNat := by
  rw [result, UInt32.toNat_add, Nat.mod_eq_of_lt h]

theorem toNat_sub (h : b ≤ a) : (sub a b).result.toNat = a.toNat - b.toNat :=
  UInt32.toNat_sub_of_le a b h

theorem toNat_mul (h : a.toNat * b.toNat < 2 ^ 32) : (mul a b).result.toNat = a.toNat * b.toNat := by
  rw [result, UInt32.toNat_mul, Nat.mod_eq_of_lt h]

theorem exact_add (h : a.toNat + b.toNat < 2 ^ 32) : (add a b).Exact := by
  rw [Exact, toNat_add h]
  exact Int.natCast_add ..

theorem exact_sub (h : b ≤ a) : (sub a b).Exact := by
  rw [Exact, toNat_sub h]
  exact Int.natCast_sub (UInt32.le_iff_toNat_le.mp h)

theorem exact_mul (h : a.toNat * b.toNat < 2 ^ 32) : (mul a b).Exact := by
  rw [Exact, toNat_mul h]
  exact Int.natCast_mul ..

end Op

/-- A computation together with the operations it makes, in their order. -/
abbrev Recorded (α : Type) := Writer (List Op) α

namespace Recorded

def value (x : Recorded α) : α := (WriterT.run x).1
def ops (x : Recorded α) : List Op := (WriterT.run x).2

/-- None of the operations wraps. -/
def Exact (x : Recorded α) : Prop := ∀ o ∈ x.ops, o.Exact

def perform (o : Op) : Recorded UInt32 := WriterT.mk (o.result, [o])

def add (a b : UInt32) : Recorded UInt32 := perform (.add a b)
def sub (a b : UInt32) : Recorded UInt32 := perform (.sub a b)
def mul (a b : UInt32) : Recorded UInt32 := perform (.mul a b)

@[simp] theorem value_pure (a : α) : (pure a : Recorded α).value = a := rfl

theorem value_bind (x : Recorded α) (f : α → Recorded β) :
    (x >>= f).value = (f x.value).value := rfl

theorem value_perform_bind (o : Op) (f : UInt32 → Recorded β) :
    (perform o >>= f).value = (f o.result).value := rfl

theorem exact_pure (a : α) : (pure a : Recorded α).Exact :=
  List.forall_mem_nil _

theorem exact_bind {x : Recorded α} {f : α → Recorded β} :
    (x >>= f).Exact ↔ x.Exact ∧ (f x.value).Exact :=
  List.forall_mem_append

theorem exact_perform_bind {f : UInt32 → Recorded β} :
    (perform o >>= f).Exact ↔ o.Exact ∧ (f o.result).Exact :=
  exact_bind.trans (and_congr_left' List.forall_mem_singleton)

end Recorded

end Words
