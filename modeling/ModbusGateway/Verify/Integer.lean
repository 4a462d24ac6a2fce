import ModbusGateway.Custom.Integer
import ModbusGateway.Verify.MapRow

/-!
# Decimal fields on words

`integer` on `uint32_t` is the `integer` of the parser, and none of its operations wraps: the guard
leaves no room for the next product and sum to reach `2 ^ 32`.
-/

namespace ModbusGateway

open Words

/-- The test of `integer` on a digit that the limit admits: the next value is admitted too. -/
theorem guard_iff {n digit maximum : UInt32} (hdigit : digit ≤ maximum) :
    ¬ n > (Op.sub maximum digit).result / 10 ↔ n.toNat * 10 + digit.toNat ≤ maximum.toNat := by
  have hroom : ((Op.sub maximum digit).result / 10).toNat = (maximum.toNat - digit.toNat) / 10 := by
    rw [UInt32.toNat_div, Op.toNat_sub hdigit]
    rfl
  have hle := UInt32.le_iff_toNat_le.mp hdigit
  rw [gt_iff_lt, UInt32.not_lt, UInt32.le_iff_toNat_le, hroom]
  omega

/-- The product and the sum behind the guard. -/
theorem next_exact {n digit maximum : UInt32} (h : n.toNat * 10 + digit.toNat ≤ maximum.toNat) :
    (Op.mul n 10).Exact ∧ (Op.add (Op.mul n 10).result digit).Exact ∧
      (Op.add (Op.mul n 10).result digit).result.toNat = n.toNat * 10 + digit.toNat := by
  have hmax := maximum.toNat_lt
  have hproduct : n.toNat * (10 : UInt32).toNat < 2 ^ 32 := by
    change n.toNat * 10 < 2 ^ 32
    omega
  have htens : (Op.mul n 10).result.toNat = n.toNat * 10 := Op.toNat_mul hproduct
  have hsum : (Op.mul n 10).result.toNat + digit.toNat < 2 ^ 32 := by omega
  refine ⟨Op.exact_mul hproduct, Op.exact_add hsum, ?_⟩
  rw [Op.toNat_add hsum, htens]

/-- The conversion of a digit. -/
theorem digit_exact {c : Char} (hc : c.isDigit = true) :
    (Op.sub c.val '0'.val).Exact ∧
      (Op.sub c.val '0'.val).result.toNat = c.toNat - '0'.toNat := by
  have hzero : '0'.val ≤ c.val := Char.not_lt.mp fun h => (isDigit_iff c).mpr hc (.inl h)
  exact ⟨Op.exact_sub hzero, Op.toNat_sub hzero⟩

/-- A digit that leads beyond the limit is refused before anything is computed from it. -/
theorem integerLoopRecorded_over {c : Char} (hc : c.isDigit = true)
    (hover : maximum.toNat < n.toNat * 10 + (c.toNat - '0'.toNat)) :
    (integerLoopRecorded maximum n (c :: s)).Exact ∧
      (integerLoopRecorded maximum n (c :: s)).value = none := by
  obtain ⟨hexact, hdigit⟩ := digit_exact hc
  rw [← hdigit] at hover
  rw [integerLoopRecorded, if_neg ((isDigit_iff c).mpr hc), Recorded.sub,
    Recorded.exact_perform_bind, Recorded.value_perform_bind]
  refine and_assoc.mpr ⟨hexact, ?_⟩
  generalize (Op.sub c.val '0'.val).result = digit at hover
  by_cases hmax : digit > maximum
  · rw [if_pos hmax]
    exact ⟨Recorded.exact_pure _, rfl⟩
  have hle : digit ≤ maximum := UInt32.not_lt.mp hmax
  have hguard : n > (Op.sub maximum digit).result / 10 :=
    Decidable.not_not.mp fun h => Nat.not_le.mpr hover ((guard_iff hle).mp h)
  rw [if_neg hmax, Recorded.sub, Recorded.exact_perform_bind, Recorded.value_perform_bind]
  refine and_assoc.mpr ⟨Op.exact_sub hle, ?_⟩
  rw [if_pos hguard]
  exact ⟨Recorded.exact_pure _, rfl⟩

/-- Within the limit the loop goes on with the next value. -/
theorem integerLoopRecorded_fits {c : Char} (hc : c.isDigit = true)
    (hfits : n.toNat * 10 + (c.toNat - '0'.toNat) ≤ maximum.toNat) :
    ∃ next : UInt32, next.toNat = n.toNat * 10 + (c.toNat - '0'.toNat) ∧
      ((integerLoopRecorded maximum next s).Exact →
        (integerLoopRecorded maximum n (c :: s)).Exact) ∧
      (integerLoopRecorded maximum n (c :: s)).value =
        (integerLoopRecorded maximum next s).value := by
  obtain ⟨hexact, hdigit⟩ := digit_exact hc
  rw [← hdigit] at hfits ⊢
  rw [integerLoopRecorded, if_neg ((isDigit_iff c).mpr hc), Recorded.sub,
    Recorded.exact_perform_bind, Recorded.value_perform_bind]
  generalize (Op.sub c.val '0'.val).result = digit at hfits ⊢
  obtain ⟨hmul, hadd, hnext⟩ := next_exact hfits
  have hle : digit ≤ maximum := UInt32.le_iff_toNat_le.mpr (by omega)
  have hbelow : ¬ (Op.add (Op.mul n 10).result digit).result > maximum := by
    rw [gt_iff_lt, UInt32.not_lt, UInt32.le_iff_toNat_le, hnext]
    exact hfits
  refine ⟨(Op.add (Op.mul n 10).result digit).result, hnext, ?_⟩
  rw [if_neg (UInt32.not_lt.mpr hle), Recorded.sub, Recorded.exact_perform_bind,
    Recorded.value_perform_bind, if_neg ((guard_iff hle).mpr hfits), Recorded.mul,
    Recorded.exact_perform_bind, Recorded.value_perform_bind, Recorded.add,
    Recorded.exact_perform_bind, Recorded.value_perform_bind, if_neg hbelow]
  exact ⟨fun hrest => ⟨hexact, Op.exact_sub hle, hmul, hadd, hrest⟩, rfl⟩

/-- The loop on words makes exact operations and computes what the loop of the parser does. -/
theorem integerLoopRecorded_refines (maximum n : UInt32) (s : CString) :
    (integerLoopRecorded maximum n s).Exact ∧
      (integerLoopRecorded maximum n s).value.map UInt32.toNat =
        integerLoop maximum.toNat n.toNat s := by
  have hmax : maximum.toNat ≤ UINT32_MAX := Nat.le_pred_of_lt maximum.toNat_lt
  induction s generalizing n with
  | nil => exact ⟨Recorded.exact_pure _, rfl⟩
  | cons c s ih =>
    by_cases hc : c.isDigit = true
    · rw [integerLoop_cons hmax hc]
      by_cases hfits : n.toNat * 10 + (c.toNat - '0'.toNat) ≤ maximum.toNat
      · obtain ⟨next, hnext, hexact, hvalue⟩ := integerLoopRecorded_fits (s := s) hc hfits
        obtain ⟨hrest, hloop⟩ := ih next
        rw [if_pos hfits, hvalue, ← hnext]
        exact ⟨hexact hrest, hloop⟩
      · obtain ⟨hexact, hnone⟩ := integerLoopRecorded_over (s := s) hc (Nat.lt_of_not_le hfits)
        rw [if_neg hfits, hnone]
        exact ⟨hexact, rfl⟩
    · have hrefused : c < '0' ∨ c > '9' := Decidable.not_not.mp (mt (isDigit_iff c).mp hc)
      rw [integerLoopRecorded, integerLoop, if_pos hrefused, if_pos hrefused]
      exact ⟨Recorded.exact_pure _, rfl⟩

/-- On a string `integer` makes exact operations and stores what the parser reads. -/
theorem integerRecorded_refines (s : CString) (minimum maximum out : UInt32) :
    (integerRecorded (some s) minimum maximum out).Exact ∧
      (integerRecorded (some s) minimum maximum out).value =
        (integer s minimum.toNat maximum.toNat).elim (false, out) fun n => (true, UInt32.ofNat n) := by
  cases s with
  | nil => exact ⟨Recorded.exact_pure _, rfl⟩
  | cons c s =>
    obtain ⟨hexact, hloop⟩ := integerLoopRecorded_refines maximum 0 (c :: s)
    have hzero : (0 : UInt32).toNat = 0 := rfl
    unfold integerRecorded integer
    rw [hzero] at hloop
    rw [if_neg (List.cons_ne_nil c s), ← hloop, Recorded.exact_bind, Recorded.value_bind, and_assoc]
    refine ⟨hexact, ?_⟩
    cases (integerLoopRecorded maximum 0 (c :: s)).value with
    | none => exact ⟨Recorded.exact_pure _, rfl⟩
    | some n =>
      dsimp only [Option.map_some]
      by_cases hlt : n < minimum
      · rw [if_pos hlt, if_pos (UInt32.lt_iff_toNat_lt.mp hlt)]
        exact ⟨Recorded.exact_pure _, rfl⟩
      · rw [if_neg hlt, if_neg fun h => hlt (UInt32.lt_iff_toNat_lt.mpr h), Recorded.value_pure,
          Option.elim_some, UInt32.ofNat_toNat]
        exact ⟨Recorded.exact_pure _, rfl⟩

/-- `integer` accepts the decimal numerals of the range and nothing else, stores their value or leaves
`*out` alone, and makes no operation that wraps. -/
theorem integerRecorded_exact (s : Option CString) (minimum maximum out : UInt32) :
    ((integerRecorded s minimum maximum out).value.1 = true ↔
      ∃ text ∈ s, ∃ v, Decimal text v ∧ minimum.toNat ≤ v ∧ v ≤ maximum.toNat) ∧
    ((integerRecorded s minimum maximum out).value.1 = true →
      ∃ text ∈ s, Decimal text (integerRecorded s minimum maximum out).value.2.toNat) ∧
    ((integerRecorded s minimum maximum out).value.1 = false →
      (integerRecorded s minimum maximum out).value.2 = out) ∧
    (integerRecorded s minimum maximum out).Exact := by
  cases s with
  | none =>
    refine ⟨⟨fun h => (by cases h), ?_⟩, fun h => (by cases h), fun _ => rfl, Recorded.exact_pure _⟩
    rintro ⟨_, htext, -⟩
    cases htext
  | some text =>
    obtain ⟨hexact, hvalue⟩ := integerRecorded_refines text minimum maximum out
    have hword := maximum.toNat_lt
    have hmax : maximum.toNat ≤ UINT32_MAX := Nat.le_pred_of_lt hword
    rw [hvalue]
    cases hread : integer text minimum.toNat maximum.toNat with
    | none =>
      refine ⟨⟨fun h => (by cases h), ?_⟩, fun h => (by cases h), fun _ => rfl, hexact⟩
      rintro ⟨_, htext, v, hv⟩
      cases htext
      rw [(integer_iff hmax).mpr hv] at hread
      cases hread
    | some v =>
      have hv := (integer_iff hmax).mp hread
      have hstored : (UInt32.ofNat v).toNat = v := UInt32.toNat_ofNat_of_lt' (hv.2.2.trans_lt hword)
      refine ⟨iff_of_true rfl ⟨text, rfl, v, hv⟩, fun _ => ⟨text, rfl, ?_⟩,
        fun h => (by cases h), hexact⟩
      rw [Option.elim_some, hstored]
      exact hv.1

example :
    (integerRecorded (some "9999999999999999999".toList) 1 4194302 7).value = (false, 7) ∧
      (integerRecorded (some "0004294967295".toList) 0 4294967295 7).value = (true, 4294967295) := by
  decide

end ModbusGateway
