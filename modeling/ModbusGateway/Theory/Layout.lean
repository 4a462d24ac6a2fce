import Mathlib.Data.List.OfFn
import Mathlib.Data.Nat.ModEq
import Mathlib.Logic.Equiv.Defs

/-!
# Fixed memory layouts

A `Codec α n` is a bijection between the values of a type and the byte strings of length `n`: the
memory image of a C object of `n` bytes. Integers are little-endian, members follow one another and
the elements of an array are laid out in order; padding is a member like any other.
-/

/-- Values of `α` as byte strings of length `n`; `decode` reads the first `n` bytes. -/
structure Codec (α : Type u) (n : Nat) where
  encode : α → List UInt8
  decode : List UInt8 → α
  length_encode : ∀ a, (encode a).length = n
  decode_append : ∀ a rest, decode (encode a ++ rest) = a
  encode_decode : ∀ bytes, n ≤ bytes.length → encode (decode bytes) = bytes.take n

namespace Codec

@[simp] theorem decode_encode (c : Codec α n) (a : α) : c.decode (c.encode a) = a := by
  have h := c.decode_append a []
  rwa [List.append_nil] at h

/-! ## Integers -/

/-- The `n` low bytes of a number, least significant first. -/
def leBytes : Nat → Nat → List UInt8
  | 0, _ => []
  | n + 1, x => UInt8.ofNat x :: leBytes n (x / 256)

/-- The number of the first `n` bytes, least significant first. -/
def leNat : Nat → List UInt8 → Nat
  | 0, _ => 0
  | n + 1, bytes => (bytes.headD 0).toNat + 256 * leNat n bytes.tail

@[simp] theorem length_leBytes : (leBytes n x).length = n := by
  induction n generalizing x with
  | zero => rfl
  | succ n ih => rw [leBytes, List.length_cons, ih]

theorem leNat_append (h : x < 256 ^ n) (rest : List UInt8) :
    leNat n (leBytes n x ++ rest) = x := by
  induction n generalizing x with
  | zero =>
    rw [Nat.pow_zero] at h
    exact (Nat.lt_one_iff.mp h).symm
  | succ n ih =>
    have hdiv : x / 256 < 256 ^ n := by
      rw [Nat.pow_succ] at h
      exact Nat.div_lt_of_lt_mul (by omega)
    have hbyte : (UInt8.ofNat x).toNat = x % 256 := UInt8.toNat_ofNat'
    simp only [leNat, leBytes, List.cons_append, List.headD_cons, List.tail_cons, ih hdiv, hbyte]
    omega

theorem leNat_lt (n : Nat) (bytes : List UInt8) : leNat n bytes < 256 ^ n := by
  induction n generalizing bytes with
  | zero => exact Nat.one_pos
  | succ n ih =>
    have htail := ih bytes.tail
    have hhead : (bytes.headD 0).toNat < 256 := UInt8.toNat_lt _
    rw [leNat, Nat.pow_succ]
    omega

theorem leBytes_leNat (h : n ≤ bytes.length) : leBytes n (leNat n bytes) = bytes.take n := by
  induction n generalizing bytes with
  | zero => rfl
  | succ n ih =>
    match bytes with
    | [] => cases h
    | b :: bytes =>
      have hb : b.toNat < 256 := UInt8.toNat_lt b
      have hlow : UInt8.ofNat (b.toNat + 256 * leNat n bytes) = b := by
        apply UInt8.toNat_inj.mp
        rw [UInt8.toNat_ofNat']
        omega
      have hhigh : (b.toNat + 256 * leNat n bytes) / 256 = leNat n bytes := by omega
      rw [List.length_cons] at h
      simp only [leNat, leBytes, List.headD_cons, List.tail_cons, hlow, hhigh, List.take_succ_cons,
        ih (Nat.le_of_succ_le_succ h)]

/-- The unsigned integers of `n` bytes. -/
def uint (n : Nat) (toNat : α → Nat) (ofNat : Nat → α) (lt : ∀ a, toNat a < 256 ^ n)
    (ofNat_toNat : ∀ a, ofNat (toNat a) = a)
    (toNat_ofNat : ∀ x < 256 ^ n, toNat (ofNat x) = x) : Codec α n where
  encode a := leBytes n (toNat a)
  decode bytes := ofNat (leNat n bytes)
  length_encode _ := length_leBytes
  decode_append a rest := by rw [leNat_append (lt a), ofNat_toNat]
  encode_decode bytes h := by rw [toNat_ofNat _ (leNat_lt n bytes), leBytes_leNat h]

def byte : Codec UInt8 1 :=
  uint 1 UInt8.toNat UInt8.ofNat UInt8.toNat_lt (fun _ => UInt8.ofNat_toNat)
    fun _ h => UInt8.toNat_ofNat_of_lt' h

def word16 : Codec UInt16 2 :=
  uint 2 UInt16.toNat UInt16.ofNat UInt16.toNat_lt (fun _ => UInt16.ofNat_toNat)
    fun _ h => UInt16.toNat_ofNat_of_lt' h

def word32 : Codec UInt32 4 :=
  uint 4 UInt32.toNat UInt32.ofNat UInt32.toNat_lt (fun _ => UInt32.ofNat_toNat)
    fun _ h => UInt32.toNat_ofNat_of_lt' h

def word64 : Codec UInt64 8 :=
  uint 8 UInt64.toNat UInt64.ofNat UInt64.toNat_lt (fun _ => UInt64.ofNat_toNat)
    fun _ h => UInt64.toNat_ofNat_of_lt' h

/-! ## Members, arrays and records -/

/-- One member after another. -/
def pair (c : Codec α m) (d : Codec β n) : Codec (α × β) (m + n) where
  encode x := c.encode x.1 ++ d.encode x.2
  decode bytes := (c.decode bytes, d.decode (bytes.drop m))
  length_encode x := by rw [List.length_append, c.length_encode, d.length_encode]
  decode_append x rest := by
    have hdrop : (c.encode x.1 ++ (d.encode x.2 ++ rest)).drop m = d.encode x.2 ++ rest :=
      List.drop_left' (c.length_encode x.1)
    rw [List.append_assoc, c.decode_append, hdrop, d.decode_append]
  encode_decode bytes h := by
    have hrest : n ≤ (bytes.drop m).length := by rw [List.length_drop]; omega
    rw [c.encode_decode bytes (by omega), d.encode_decode _ hrest, List.take_add]

/-- `k` values in a row. -/
def array (k : Nat) (c : Codec α m) : Codec (Fin k → α) (k * m) where
  encode f := (List.ofFn fun i => c.encode (f i)).flatten
  decode bytes i := c.decode (bytes.drop (i * m))
  length_encode f := by
    induction k with
    | zero => simp
    | succ k ih =>
      rw [List.ofFn_succ, List.flatten_cons, List.length_append, ih, c.length_encode,
        Nat.succ_mul, Nat.add_comm]
  decode_append f rest := by
    induction k generalizing rest with
    | zero => exact funext fun i => i.elim0
    | succ k ih =>
      funext i
      rw [List.ofFn_succ, List.flatten_cons, List.append_assoc]
      refine Fin.cases ?_ (fun j => ?_) i
      · rw [Fin.val_zero, Nat.zero_mul, List.drop_zero, c.decode_append]
      · have hlen := c.length_encode (f 0)
        have hdrop : ∀ tail, (c.encode (f 0) ++ tail).drop ((j + 1) * m) = tail.drop (j * m) := by
          intro tail
          rw [Nat.succ_mul, Nat.add_comm, ← List.drop_drop, List.drop_left' hlen]
        rw [Fin.val_succ, hdrop]
        exact congrFun (ih (fun i => f i.succ) rest) j
  encode_decode bytes h := by
    induction k generalizing bytes with
    | zero => simp
    | succ k ih =>
      have hrest : k * m ≤ (bytes.drop m).length := by
        rw [Nat.succ_mul] at h
        rw [List.length_drop]
        omega
      have hfirst : m ≤ bytes.length := by
        rw [Nat.succ_mul] at h
        omega
      have hshift : (fun i : Fin k => c.encode (c.decode (bytes.drop ((i.succ : Nat) * m)))) =
          fun i : Fin k => c.encode (c.decode ((bytes.drop m).drop ((i : Nat) * m))) := by
        funext i
        rw [List.drop_drop, Fin.val_succ, Nat.succ_mul, Nat.add_comm]
      have hhead : c.encode (c.decode (bytes.drop (((0 : Fin (k + 1)) : Nat) * m))) =
          bytes.take m := by
        rw [Fin.val_zero, Nat.zero_mul, List.drop_zero, c.encode_decode bytes hfirst]
      have hcount : (k + 1) * m = m + k * m := by rw [Nat.succ_mul, Nat.add_comm]
      rw [List.ofFn_succ, List.flatten_cons, hshift, hhead, ih (bytes.drop m) hrest, hcount,
        List.take_add]

/-- The same bytes for a type with other names. -/
def iso (c : Codec α n) (e : α ≃ β) : Codec β n where
  encode b := c.encode (e.symm b)
  decode bytes := e (c.decode bytes)
  length_encode b := c.length_encode _
  decode_append b rest := by rw [c.decode_append, e.apply_symm_apply]
  encode_decode bytes h := by rw [e.symm_apply_apply, c.encode_decode bytes h]

def int32 : Codec Int32 4 :=
  word32.iso ⟨UInt32.toInt32, Int32.toUInt32, fun _ => rfl, fun _ => rfl⟩

def int64 : Codec Int64 8 :=
  word64.iso ⟨UInt64.toInt64, Int64.toUInt64, fun _ => rfl, fun _ => rfl⟩

end Codec
