import Mathlib.Algebra.GroupWithZero.Nat
import Mathlib.Data.List.FinRange

/-!
# Machine integers, C strings and the due-time scan

`uint32_t` and `uint64_t` arithmetic is `Nat` arithmetic with an explicit wrap. A C string is the
list of its characters before the NUL; a `char` is a `Char` below 256.
-/

namespace ModbusGateway

/-! ## Wrapping arithmetic -/

def u8 (n : Nat) : Nat := n % 2 ^ 8
def u16 (n : Nat) : Nat := n % 2 ^ 16
def u32 (n : Nat) : Nat := n % 2 ^ 32
def u64 (n : Nat) : Nat := n % 2 ^ 64

theorem u32_of_lt (h : n < 2 ^ 32) : u32 n = n := Nat.mod_eq_of_lt h
theorem u64_of_lt (h : n < 2 ^ 64) : u64 n = n := Nat.mod_eq_of_lt h
theorem u64_le : u64 n ≤ n := Nat.mod_le _ _

def UINT32_MAX : Nat := 2 ^ 32 - 1
def UINT64_MAX : Nat := 2 ^ 64 - 1

/-! ## Error codes -/

/-- `esp_err_t`. -/
abbrev EspErr := Nat

def ESP_OK : EspErr := 0
def ESP_ERR_NO_MEM : EspErr := 0x101
def ESP_ERR_NVS_NOT_FOUND : EspErr := 0x1102

/-! ## Lists -/

/-- What is decided of the elements of a list is decided along the list, even if their type is
finite. -/
instance (priority := high) decidableForallMem (p : α → Prop) [DecidablePred p] (l : List α) :
    Decidable (∀ a ∈ l, p a) :=
  List.decidableBAll p l

instance (priority := high) decidableExistsMem (p : α → Prop) [DecidablePred p] (l : List α) :
    Decidable (∃ a ∈ l, p a) :=
  List.decidableBEx p l

instance (priority := high) decidableExistsMemOption (p : α → Prop) [DecidablePred p]
    (o : Option α) : Decidable (∃ a ∈ o, p a) :=
  Option.decidableExistsMem o

/-! ## C strings -/

/-- The characters of a C string, without its terminating NUL. -/
abbrev CString := List Char

instance (priority := high) lawfulBEqCString : LawfulBEq CString := List.instLawfulBEq

/-- `!strncmp(s, literal, strlen(literal))`. -/
def CString.hasPrefix (s : CString) (literal : CString) : Bool := literal.isPrefixOf s

/-! ## The due-time scan of the pollers -/

/-- One turn of the scan: keep the entry seen so far unless `i` is due strictly earlier. -/
def dueStep (due : Fin n → Nat) (now : Nat) (best : Nat × Option (Fin n)) (i : Fin n) :
    Nat × Option (Fin n) :=
  if due i ≤ now ∧ due i < best.1 then (due i, some i) else best

/-- Both pollers pick, among the entries that are due, the earliest due time and, among equal
ones, the lowest index; an entry due at `UINT64_MAX` is never picked. -/
def earliestDue (due : Fin n → Nat) (now : Nat) : Option (Fin n) :=
  ((List.finRange n).foldl (dueStep due now) (UINT64_MAX, none)).2

/-- The scan ends with a due time no later than that of any entry that is due. -/
theorem foldl_dueStep_le {due : Fin n → Nat} (l : List (Fin n)) (best : Nat × Option (Fin n)) :
    (l.foldl (dueStep due now) best).1 ≤ best.1 ∧
      ∀ k ∈ l, due k ≤ now → (l.foldl (dueStep due now) best).1 ≤ due k := by
  induction l generalizing best with
  | nil => exact ⟨Nat.le_refl _, nofun⟩
  | cons j l ih =>
    obtain ⟨hbest, hrest⟩ := ih (dueStep due now best j)
    have hstep : (dueStep due now best j).1 ≤ best.1 ∧
        (due j ≤ now → (dueStep due now best j).1 ≤ due j) := by
      unfold dueStep
      split <;> omega
    refine ⟨hbest.trans hstep.1, fun k hk hdue => ?_⟩
    rcases List.mem_cons.mp hk with rfl | hk
    · exact hbest.trans (hstep.2 hdue)
    · exact hrest k hk hdue

/-- The due time the scan ends with is that of the entry it ends with. -/
theorem foldl_dueStep_eq {due : Fin n → Nat} (l : List (Fin n)) {best : Nat × Option (Fin n)}
    (hbest : ∀ i, best.2 = some i → best.1 = due i) :
    ∀ i, (l.foldl (dueStep due now) best).2 = some i →
      (l.foldl (dueStep due now) best).1 = due i := by
  induction l generalizing best with
  | nil => exact hbest
  | cons j l ih =>
    refine ih fun i hi => ?_
    unfold dueStep at hi ⊢
    split at hi
    · next hj =>
      cases hi
      rw [if_pos hj]
    · next hj =>
      rw [if_neg hj]
      exact hbest i hi

/-- No entry that is due is due earlier than the one that is picked. -/
theorem earliestDue_le {due : Fin n → Nat} (h : earliestDue due now = some i) (hk : due k ≤ now) :
    due i ≤ due k := by
  have hnone (j : Fin n) : ((UINT64_MAX, none) : Nat × Option (Fin n)).2 = some j →
      UINT64_MAX = due j := nofun
  have heq := foldl_dueStep_eq (List.finRange n) hnone i h
  have hle := (foldl_dueStep_le (List.finRange n) (UINT64_MAX, none)).2 k (List.mem_finRange k) hk
  exact heq.symm.le.trans hle

/-- An entry that the scan newly ends with is due earlier than the best one before. -/
theorem foldl_dueStep_lt {due : Fin n → Nat} (l : List (Fin n)) {best : Nat × Option (Fin n)}
    (hi : (l.foldl (dueStep due now) best).2 = some i) (hnew : best.2 ≠ some i) :
    (l.foldl (dueStep due now) best).1 < best.1 := by
  induction l generalizing best with
  | nil => exact absurd hi hnew
  | cons j l ih =>
    rw [List.foldl_cons] at hi ⊢
    by_cases hj : due j ≤ now ∧ due j < best.1
    · have hle : (l.foldl (dueStep due now) (dueStep due now best j)).1 ≤ (dueStep due now best j).1 :=
        (foldl_dueStep_le l _).1
      have hstep : (dueStep due now best j).1 = due j := by rw [dueStep, if_pos hj]
      omega
    · have hstep : dueStep due now best j = best := if_neg hj
      rw [hstep] at hi ⊢
      exact ih hi hnew

/-- An entry is picked before the first one only if it is due earlier. -/
theorem earliestDue_lt_zero {due : Fin (n + 1) → Nat} (h : earliestDue due now = some i)
    (hi : i ≠ 0) (hzero : due 0 ≤ now) : due i < due 0 := by
  unfold earliestDue at h
  rw [List.finRange_succ, List.foldl_cons] at h
  have hle : (dueStep due now (UINT64_MAX, none) 0).1 ≤ due 0 := by
    unfold dueStep
    split <;> omega
  have hnew : (dueStep due now (UINT64_MAX, none) 0).2 ≠ some i := by
    unfold dueStep
    split
    · exact fun heq => hi (Option.some.inj heq).symm
    · nofun
  have hlt := foldl_dueStep_lt _ h hnew
  have heq : ∀ k, (dueStep due now (UINT64_MAX, none) 0).2 = some k →
      (dueStep due now (UINT64_MAX, none) 0).1 = due k := by
    intro k hk
    unfold dueStep at hk ⊢
    split at hk
    · next hdue =>
      cases hk
      rw [if_pos hdue]
    · cases hk
  rw [foldl_dueStep_eq _ heq i h] at hlt
  exact hlt.trans_le hle

end ModbusGateway
