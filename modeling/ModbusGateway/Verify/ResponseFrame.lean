import ModbusGateway.Modbus.Server

/-!
# Exactness of the response decoder

`DecodeVerdict` sorts the results of the decoder into an accepted response, an accepted exception and
the rest. Every frame has a verdict, and since the decoder reads through checked indices, that it has
one also says that no byte past the end is read.
-/

namespace ModbusGateway

/-! ## The accepted frames -/

structure OkFrame (frame : List UInt8) (tid : UInt16) (unit function : UInt8) (qty : UInt16) :
    Prop where
  length_eq : frame.length = 9 + byteCount function qty
  tid_eq : readBe16 frame 0 = some tid
  protocol_eq : readBe16 frame 2 = some 0
  remaining_eq : readBe16 frame 4 = some (UInt16.ofNat (3 + byteCount function qty))
  unit_eq : frame[6]? = some unit
  function_eq : frame[7]? = some function
  count_eq : frame[8]? = some (UInt8.ofNat (byteCount function qty))

structure ExceptionFrame (frame : List UInt8) (tid : UInt16) (unit function code : UInt8) :
    Prop where
  length_eq : frame.length = 9
  tid_eq : readBe16 frame 0 = some tid
  protocol_eq : readBe16 frame 2 = some 0
  remaining_eq : readBe16 frame 4 = some 3
  unit_eq : frame[6]? = some unit
  function_eq : frame[7]? = some (function ||| 0x80)
  code_eq : frame[8]? = some code
  nonzero : code ≠ 0

/-- Point `index` of a payload: a bit, least significant first, or a big-endian word. -/
def PayloadPoint (frame : List UInt8) (function : UInt8) (index : Nat) (value : UInt16) : Prop :=
  if function ≤ 2 then
    ∃ byte, frame[9 + index / 8]? = some byte ∧
      value = if byte.toNat.testBit (index % 8) then 1 else 0
  else readBe16 frame (9 + 2 * index) = some value

inductive DecodeVerdict (frame : List UInt8) (tid : UInt16) (unit function : UInt8) (qty : UInt16)
    (out : List UInt16) : MbResult → List UInt16 → Prop
  | ok : OkFrame frame tid unit function qty → decoded.length = qty.toNat →
      (∀ i v, decoded[i]? = some v → PayloadPoint frame function i v) →
      DecodeVerdict frame tid unit function qty out { error := .ok } (decoded ++ out.drop qty.toNat)
  | exception : ExceptionFrame frame tid unit function code →
      DecodeVerdict frame tid unit function qty out
        { error := .exception, exceptionCode := code.toNat } out
  | other : ¬ OkFrame frame tid unit function qty →
      (∀ code, ¬ ExceptionFrame frame tid unit function code) → error ≠ .ok → error ≠ .exception →
      DecodeVerdict frame tid unit function qty out { error } out

/-! ## Reading -/

theorem exists_getElem? {l : List α} (h : i < l.length) : ∃ a, l[i]? = some a :=
  ⟨_, List.getElem?_eq_some_iff.mpr ⟨h, rfl⟩⟩

theorem readBe16_eq {hi lo : UInt8} (hhi : frame[i]? = some hi) (hlo : frame[i + 1]? = some lo) :
    readBe16 frame i = some (hi.toUInt16 <<< 8 ||| lo.toUInt16) := by
  simp only [readBe16, hhi, hlo]
  rfl

theorem readBe16_of_lt (h : i + 1 < frame.length) : ∃ v, readBe16 frame i = some v := by
  obtain ⟨hi, hhi⟩ := exists_getElem? (Nat.lt_of_succ_lt h)
  obtain ⟨lo, hlo⟩ := exists_getElem? h
  exact ⟨_, readBe16_eq hhi hlo⟩

theorem decodedPoint_of_lt (h : 9 + byteCount function qty ≤ frame.length)
    (hindex : index < qty.toNat) : ∃ v, decodedPoint frame function index = some v ∧
      PayloadPoint frame function index v := by
  unfold byteCount at h
  unfold decodedPoint PayloadPoint
  by_cases hf : function ≤ 2
  · simp only [if_pos hf] at h ⊢
    obtain ⟨byte, hbyte⟩ : ∃ b, frame[9 + index / 8]? = some b := exists_getElem? (by omega)
    refine ⟨_, by simp only [hbyte]; rfl, byte, hbyte, ?_⟩
    have hbit := Nat.toNat_testBit byte.toNat (index % 8)
    rw [Nat.and_one_is_mod, Nat.shiftRight_eq_div_pow, ← hbit]
    cases byte.toNat.testBit (index % 8) <;> rfl
  · simp only [if_neg hf] at h ⊢
    obtain ⟨v, hv⟩ : ∃ v, readBe16 frame (9 + 2 * index) = some v := readBe16_of_lt (by omega)
    exact ⟨v, hv, hv⟩

theorem mapM_of_forall {f : α → Option β} (l : List α) (h : ∀ a ∈ l, ∃ b, f a = some b) :
    ∃ bs : List β, l.mapM f = some bs ∧ bs.length = l.length ∧
      ∀ (i : Nat) a b, l[i]? = some a → bs[i]? = some b → f a = some b := by
  induction l with
  | nil => exact ⟨[], rfl, rfl, fun i a b h => by cases h⟩
  | cons a l ih =>
    obtain ⟨b, hb⟩ := h a List.mem_cons_self
    obtain ⟨bs, hbs, hlen, hget⟩ := ih fun a' ha' => h a' (List.mem_cons_of_mem a ha')
    refine ⟨b :: bs, by rw [List.mapM_cons, hb, hbs]; rfl, congrArg (· + 1) hlen, ?_⟩
    intro i a' b' ha' hb'
    cases i with
    | zero =>
      cases ha'
      cases hb'
      exact hb
    | succ i => exact hget i a' b' ha' hb'

/-- The decode loop reads every point. -/
theorem decodeLoop (h : 9 + byteCount function qty ≤ frame.length) :
    ∃ decoded, (List.range qty.toNat).mapM (decodedPoint frame function) = some decoded ∧
      decoded.length = qty.toNat ∧
      ∀ i v, decoded[i]? = some v → PayloadPoint frame function i v := by
  have hpoint : ∀ i ∈ List.range qty.toNat, ∃ v, decodedPoint frame function i = some v := by
    intro i hi
    obtain ⟨v, hv, -⟩ := decodedPoint_of_lt h (List.mem_range.mp hi)
    exact ⟨v, hv⟩
  obtain ⟨decoded, hdecoded, hlen, hget⟩ := mapM_of_forall _ hpoint
  rw [List.length_range] at hlen
  refine ⟨decoded, hdecoded, hlen, fun i v hv => ?_⟩
  have hi : i < qty.toNat := by
    rw [← hlen]
    exact (List.getElem?_eq_some_iff.mp hv).1
  obtain ⟨v', hv', hpoint'⟩ := decodedPoint_of_lt h hi
  have heq := hget i i v (List.getElem?_range hi) hv
  cases hv'.symm.trans heq
  exact hpoint'

/-! ## The header -/

/-- What an accepted header says. -/
structure HeaderOk (frame : List UInt8) (tid : UInt16) (unit : UInt8) : Prop where
  tid_eq : readBe16 frame 0 = some tid
  protocol_eq : readBe16 frame 2 = some 0
  unit_eq : frame[6]? = some unit
  remaining_eq : ∃ r, readBe16 frame 4 = some r ∧ 3 ≤ r.toNat ∧ r.toNat ≤ 3 + 2 * MB_MAX_REGISTERS

theorem checkHeader_cases (tid : UInt16) (unit : UInt8) (h : 7 ≤ frame.length) :
    (checkHeader frame tid unit = some .ok ∧ HeaderOk frame tid unit) ∨
      ∃ error, checkHeader frame tid unit = some error ∧ error ≠ .ok ∧ error ≠ .exception ∧
        ¬ HeaderOk frame tid unit := by
  obtain ⟨r, hr⟩ : ∃ v, readBe16 frame 4 = some v := readBe16_of_lt (by omega)
  obtain ⟨t, ht⟩ : ∃ v, readBe16 frame 0 = some v := readBe16_of_lt (by omega)
  obtain ⟨p, hp⟩ : ∃ v, readBe16 frame 2 = some v := readBe16_of_lt (by omega)
  obtain ⟨u, hu⟩ : ∃ b, frame[6]? = some b := exists_getElem? (by omega)
  have hsteps : checkHeader frame tid unit =
      if t ≠ tid then some .transaction
      else if p ≠ 0 then some .protocol
      else if u ≠ unit then some .unit
      else if r < 3 ∨ r.toNat > 3 + 2 * MB_MAX_REGISTERS then some .length
      else some .ok := by
    simp only [checkHeader, hr, ht, hp, hu]
    rfl
  rw [hsteps]
  split
  · next hne =>
    refine .inr ⟨_, rfl, MbError.noConfusion, MbError.noConfusion, fun H => hne ?_⟩
    exact Option.some.inj (ht.symm.trans H.tid_eq)
  split
  · next hne =>
    refine .inr ⟨_, rfl, MbError.noConfusion, MbError.noConfusion, fun H => hne ?_⟩
    exact Option.some.inj (hp.symm.trans H.protocol_eq)
  split
  · next hne =>
    refine .inr ⟨_, rfl, MbError.noConfusion, MbError.noConfusion, fun H => hne ?_⟩
    exact Option.some.inj (hu.symm.trans H.unit_eq)
  have h3 : (3 : UInt16).toNat = 3 := rfl
  split
  · next hbad =>
    refine .inr ⟨_, rfl, MbError.noConfusion, MbError.noConfusion, fun H => ?_⟩
    obtain ⟨r', hr', hlo, hhi⟩ := H.remaining_eq
    cases hr.symm.trans hr'
    rw [UInt16.lt_iff_toNat_lt, h3] at hbad
    omega
  · next ht' hp' hu' hgood =>
    rw [UInt16.lt_iff_toNat_lt, h3] at hgood
    refine .inl ⟨rfl, ?_, ?_, ?_, r, hr, by omega, by omega⟩
    · rw [ht, Decidable.not_not.mp ht']
    · rw [hp, Decidable.not_not.mp hp']
    · rw [hu, Decidable.not_not.mp hu']

theorem OkFrame.header (H : OkFrame frame tid unit function qty)
    (hcount : byteCount function qty ≤ 2 * MB_MAX_REGISTERS) : HeaderOk frame tid unit := by
  refine ⟨H.tid_eq, H.protocol_eq, H.unit_eq, _, H.remaining_eq, ?_, ?_⟩ <;>
    (simp only [UInt16.toNat_ofNat', MB_MAX_REGISTERS] at hcount ⊢; omega)

theorem ExceptionFrame.header (H : ExceptionFrame frame tid unit function code) :
    HeaderOk frame tid unit :=
  ⟨H.tid_eq, H.protocol_eq, H.unit_eq, 3, H.remaining_eq, Nat.le_refl _, by decide⟩

/-! ## The decoder -/

theorem validQuantity_bounds (hq : validQuantity qty = true) :
    1 ≤ qty.toNat ∧ qty.toNat ≤ MB_MAX_REGISTERS := by
  obtain ⟨hlo, hhi⟩ := Bool.and_eq_true_iff.mp hq
  exact ⟨UInt16.le_iff_toNat_le.mp (of_decide_eq_true hlo), of_decide_eq_true hhi⟩

theorem byteCount_bounds (function : UInt8) (hq : validQuantity qty = true) :
    1 ≤ byteCount function qty ∧ byteCount function qty ≤ 2 * MB_MAX_REGISTERS := by
  obtain ⟨hlo, hhi⟩ := validQuantity_bounds hq
  unfold byteCount
  split <;> omega

theorem exceptionFunction_ne {function : UInt8} (hf : function ≤ 4) : function ||| 0x80 ≠ function := by
  intro h
  have hnat := congrArg UInt8.toNat h
  have hle : function.toNat ≤ 4 := UInt8.le_iff_toNat_le.mp hf
  have hor : 128 ≤ function.toNat ||| 128 := Nat.right_le_or
  have h128 : (0x80 : UInt8).toNat = 128 := rfl
  rw [UInt8.toNat_or, h128] at hnat
  omega

section
variable {frame : List UInt8} {tid : UInt16} {unit function : UInt8} {qty : UInt16}
  {out : List UInt16}

theorem OkFrame.remaining (H : OkFrame frame tid unit function qty)
    (hq : validQuantity qty = true) (hr : readBe16 frame 4 = some r) :
    r.toNat = 3 + byteCount function qty := by
  obtain ⟨-, hcount⟩ := byteCount_bounds function hq
  have hmax : MB_MAX_REGISTERS = 50 := rfl
  cases hr.symm.trans H.remaining_eq
  rw [UInt16.toNat_ofNat']
  omega

theorem ExceptionFrame.remaining (H : ExceptionFrame frame tid unit function code)
    (hr : readBe16 frame 4 = some r) : r = 3 :=
  Option.some.inj (hr.symm.trans H.remaining_eq)

theorem mbDecodeReadResponse_checked (hf₁ : 1 ≤ function) (hf₄ : function ≤ 4)
    (hq : validQuantity qty = true) :
    mbDecodeReadResponse frame tid unit function qty out =
      if frame.length < 7 ∨ frame.length > MB_MAX_RESPONSE_SIZE then
        some ({ error := .length }, out)
      else (checkHeader frame tid unit).bind fun error =>
        if error ≠ .ok then some ({ error := error }, out)
        else (readBe16 frame 4).bind fun r =>
          if frame.length ≠ 6 + r.toNat then some ({ error := .length }, out)
          else (frame[7]?).bind fun f =>
            if f = function ||| 0x80 then
              (frame[8]?).bind fun code =>
                if r ≠ 3 ∨ code = 0 then some ({ error := .length }, out)
                else some ({ error := .exception, exceptionCode := code.toNat }, out)
            else if f ≠ function then some ({ error := .function }, out)
            else (frame[8]?).bind fun c =>
              if c.toNat ≠ byteCount function qty then some ({ error := .byteCount }, out)
              else if r.toNat ≠ 3 + byteCount function qty then
                some ({ error := .length }, out)
              else ((List.range qty.toNat).mapM (decodedPoint frame function)).bind fun decoded =>
                some ({ error := .ok }, decoded ++ out.drop qty.toNat) := by
  have hargs : ¬ (function < 1 ∨ function > 4 ∨ ¬ validQuantity qty = true) := by
    simp only [hq, not_true, or_false, not_or, UInt8.not_lt]
    exact ⟨hf₁, hf₄⟩
  unfold mbDecodeReadResponse
  rw [if_neg hargs]
  cases hf : frame[7]? <;> rfl

/-- A frame with an accepted header that is too long or too short. -/
theorem verdict_length (hq : validQuantity qty = true) (hr : readBe16 frame 4 = some r)
    (htotal : frame.length ≠ 6 + r.toNat) :
    DecodeVerdict frame tid unit function qty out { error := .length } out := by
  refine .other (fun H => htotal ?_) (fun code H => htotal ?_) MbError.noConfusion
    MbError.noConfusion
  · rw [H.length_eq, H.remaining hq hr]
    omega
  · rw [H.length_eq, H.remaining hr]
    rfl

/-- A frame that answers with an exception function. -/
theorem verdict_exception (qty : UInt16) (out : List UInt16) (hf₄ : function ≤ 4)
    (hok : HeaderOk frame tid unit)
    (hr : readBe16 frame 4 = some r) (htotal : frame.length = 6 + r.toNat)
    (hf : frame[7]? = some (function ||| 0x80)) (hc : frame[8]? = some code) :
    ∃ result, (if r ≠ 3 ∨ code = 0 then some ({ error := .length }, out)
        else some ({ error := .exception, exceptionCode := code.toNat }, out)) =
          some (result, out) ∧
      DecodeVerdict frame tid unit function qty out result out := by
  split
  · next hbad =>
    refine ⟨_, rfl, .other (fun H => ?_) (fun code' H => ?_) MbError.noConfusion
      MbError.noConfusion⟩
    · exact exceptionFunction_ne hf₄ (Option.some.inj (hf.symm.trans H.function_eq))
    · cases hc.symm.trans H.code_eq
      rcases hbad with hr3 | hzero
      · exact hr3 (H.remaining hr)
      · exact H.nonzero hzero
  · next hgood =>
    obtain ⟨hr3, hzero⟩ := not_or.mp hgood
    have hr3 : r = 3 := Decidable.not_not.mp hr3
    subst hr3
    exact ⟨_, rfl, .exception ⟨htotal, hok.tid_eq, hok.protocol_eq, hr, hok.unit_eq, hf, hc,
      hzero⟩⟩

/-- A frame that answers with any other function. -/
theorem verdict_response (hq : validQuantity qty = true) (hok : HeaderOk frame tid unit)
    (hr : readBe16 frame 4 = some r) (htotal : frame.length = 6 + r.toNat)
    (hf : frame[7]? = some f) (hexc : f ≠ function ||| 0x80) (hc : frame[8]? = some c) :
    ∃ result out', (if f ≠ function then some ({ error := .function }, out)
        else if c.toNat ≠ byteCount function qty then some ({ error := .byteCount }, out)
        else if r.toNat ≠ 3 + byteCount function qty then some ({ error := .length }, out)
        else ((List.range qty.toNat).mapM (decodedPoint frame function)).bind fun decoded =>
          some ({ error := .ok }, decoded ++ out.drop qty.toNat)) = some (result, out') ∧
      DecodeVerdict frame tid unit function qty out result out' := by
  obtain ⟨-, hcount⟩ := byteCount_bounds function hq
  have hmax : MB_MAX_REGISTERS = 50 := rfl
  have hnexc (code : UInt8) (H : ExceptionFrame frame tid unit function code) : False :=
    hexc (Option.some.inj (hf.symm.trans H.function_eq))
  split
  · next hfunction =>
    exact ⟨_, _, rfl, .other (fun H => hfunction (Option.some.inj (hf.symm.trans H.function_eq)))
      hnexc MbError.noConfusion MbError.noConfusion⟩
  split
  · next hbytes =>
    refine ⟨_, _, rfl, .other (fun H => hbytes ?_) hnexc MbError.noConfusion MbError.noConfusion⟩
    cases hc.symm.trans H.count_eq
    rw [UInt8.toNat_ofNat']
    omega
  split
  · next hremaining =>
    exact ⟨_, _, rfl, .other (fun H => hremaining (H.remaining hq hr)) hnexc MbError.noConfusion
      MbError.noConfusion⟩
  · next hfunction hbytes hremaining =>
    have hbytes := Decidable.not_not.mp hbytes
    have hremaining := Decidable.not_not.mp hremaining
    obtain ⟨decoded, hdecoded, hdlen, hpoint⟩ :=
      decodeLoop (by omega : 9 + byteCount function qty ≤ frame.length)
    rw [hdecoded]
    refine ⟨_, _, rfl, .ok ⟨by omega, hok.tid_eq, hok.protocol_eq, ?_, hok.unit_eq, ?_, ?_⟩ hdlen
      hpoint⟩
    · rw [hr, ← hremaining, UInt16.ofNat_toNat]
    · rw [hf, Decidable.not_not.mp hfunction]
    · rw [hc, ← hbytes, UInt8.ofNat_toNat]

/-- Every frame has a verdict. -/
theorem mbDecodeReadResponse_verdict (frame : List UInt8) (tid : UInt16) (unit : UInt8)
    (out : List UInt16) (hf₁ : 1 ≤ function) (hf₄ : function ≤ 4)
    (hq : validQuantity qty = true) :
    ∃ result out', mbDecodeReadResponse frame tid unit function qty out = some (result, out') ∧
      DecodeVerdict frame tid unit function qty out result out' := by
  obtain ⟨-, hcount⟩ := byteCount_bounds function hq
  have hmax : MB_MAX_REGISTERS = 50 := rfl
  have hsize : MB_MAX_RESPONSE_SIZE = 109 := rfl
  rw [mbDecodeReadResponse_checked hf₁ hf₄ hq]
  by_cases hlen : frame.length < 7 ∨ frame.length > MB_MAX_RESPONSE_SIZE
  · rw [if_pos hlen]
    refine ⟨_, _, rfl, .other (fun H => ?_) (fun code H => ?_) MbError.noConfusion
      MbError.noConfusion⟩
    all_goals
      have htotal := H.length_eq
      omega
  rw [if_neg hlen]
  rcases checkHeader_cases tid unit (by omega : 7 ≤ frame.length) with
    ⟨hheader, hok⟩ | ⟨error, hheader, hne, hne', hbad⟩
  · obtain ⟨r, hr, hlo, hhi⟩ := hok.remaining_eq
    rw [hheader, hr]
    by_cases htotal : frame.length = 6 + r.toNat
    · obtain ⟨f, hf⟩ : ∃ b, frame[7]? = some b := exists_getElem? (by omega)
      obtain ⟨c, hc⟩ : ∃ b, frame[8]? = some b := exists_getElem? (by omega)
      simp only [Option.bind_some, ne_eq, not_true, if_false, htotal, hf, hc]
      by_cases hexc : f = function ||| 0x80
      · rw [if_pos hexc]
        obtain ⟨result, heq, hverdict⟩ :=
          verdict_exception qty out hf₄ hok hr htotal (hexc ▸ hf) hc
        exact ⟨result, out, heq, hverdict⟩
      · rw [if_neg hexc]
        exact verdict_response hq hok hr htotal hf hexc hc
    · refine ⟨_, _, ?_, verdict_length hq hr htotal⟩
      simp [htotal]
  · refine ⟨{ error }, out, ?_, .other (fun H => hbad (H.header hcount))
      (fun code H => hbad H.header) hne hne'⟩
    rw [hheader]
    simp [hne]

end

/-! ## The response of a server -/

theorem be16_bytes (v : UInt16) :
    (v >>> 8).toUInt8.toUInt16 <<< 8 ||| v.toUInt8.toUInt16 = v := by
  have hlt := v.toNat_lt
  have hlow : v.toNat % 2 ^ 8 < 2 ^ 8 := Nat.mod_lt _ (by decide)
  have hor := Nat.shiftLeft_add_eq_or_of_lt hlow (v.toNat / 2 ^ 8)
  apply UInt16.toNat_inj.mp
  have h8 : (8 : UInt16).toNat = 8 := rfl
  simp only [UInt16.toNat_or, UInt16.toNat_shiftLeft, UInt8.toNat_toUInt16, UInt16.toNat_toUInt8,
    UInt16.toNat_shiftRight, h8, Nat.reduceMod, Nat.shiftRight_eq_div_pow]
  have hhigh : v.toNat / 2 ^ 8 % 2 ^ 8 = v.toNat / 2 ^ 8 := Nat.mod_eq_of_lt (by omega)
  have hshift : (v.toNat / 2 ^ 8) <<< 8 % 2 ^ 16 = (v.toNat / 2 ^ 8) <<< 8 := by
    rw [Nat.shiftLeft_eq]
    exact Nat.mod_eq_of_lt (by omega)
  rw [hhigh, hshift, ← hor, Nat.shiftLeft_eq]
  omega

theorem readBe16_writeBe16 (v : UInt16) (rest : List UInt8) :
    readBe16 (writeBe16 v ++ rest) 0 = some v :=
  congrArg some (be16_bytes v)

theorem readBe16_append (before l : List UInt8) (i : Nat) :
    readBe16 (before ++ l) (before.length + i) = readBe16 l i := by
  have hget (j : Nat) : (before ++ l)[before.length + j]? = l[j]? := by
    rw [List.getElem?_append_right (Nat.le_add_right _ _), Nat.add_sub_cancel_left]
  simp only [readBe16, Nat.add_assoc, hget]

theorem length_flatMap_writeBe16 (values : List UInt16) :
    (values.flatMap writeBe16).length = 2 * values.length := by
  induction values with
  | nil => rfl
  | cons v values ih =>
    rw [List.flatMap_cons, List.length_append, ih, List.length_cons]
    simp only [writeBe16, List.length_cons, List.length_nil]
    omega

theorem readBe16_flatMap (values : List UInt16) (i : Nat) :
    readBe16 (values.flatMap writeBe16) (2 * i) = values[i]? := by
  induction values generalizing i with
  | nil => rfl
  | cons v values ih =>
    rw [List.flatMap_cons]
    cases i with
    | zero => exact readBe16_writeBe16 v _
    | succ i =>
      have hskip := readBe16_append (writeBe16 v) (values.flatMap writeBe16) (2 * i)
      rw [show (writeBe16 v).length + 2 * i = 2 * (i + 1) by
        simp only [writeBe16, List.length_cons, List.length_nil]; omega] at hskip
      rw [hskip, ih]
      rfl

theorem length_responsePayload (function : UInt8) (hlen : values.length = qty.toNat) :
    (responsePayload function values).length = byteCount function qty := by
  unfold responsePayload byteCount
  split
  · rw [List.length_map, List.length_range, hlen]
  · rw [length_flatMap_writeBe16, hlen]

theorem packedByte_testBit (values : List UInt16) (k : Nat) (hj : j < 8) :
    (packedByte values k).toNat.testBit j = (values[8 * k + j]? == some 1) := by
  have hlt := Nat.ofBits_lt_two_pow fun j : Fin 8 => values[8 * k + j]? == some 1
  unfold packedByte
  rw [UInt8.toNat_ofNat', Nat.mod_eq_of_lt hlt, Nat.testBit_ofBits_lt _ _ hj]

/-- The frame of a server's response. -/
def responseFrame (tid : UInt16) (unit function : UInt8) (values : List UInt16) : List UInt8 :=
  writeBe16 tid ++ writeBe16 0 ++
    writeBe16 (UInt16.ofNat (3 + (responsePayload function values).length)) ++
    [unit, function, UInt8.ofNat (responsePayload function values).length] ++
    responsePayload function values

theorem serverResponse_request (hrequest : mbBuildReadRequest tid unit function offset qty = some
    request) (values : List UInt16) :
    serverResponse request values = some (responseFrame tid unit function values) := by
  unfold mbBuildReadRequest at hrequest
  split at hrequest
  · cases hrequest
  · cases hrequest
    unfold serverResponse
    rw [List.append_assoc, List.append_assoc, List.append_assoc, List.append_assoc,
      readBe16_writeBe16]
    rfl

theorem responseFrame_ok (hlen : values.length = qty.toNat) :
    OkFrame (responseFrame tid unit function values) tid unit function qty := by
  have hpayload := length_responsePayload function hlen
  unfold responseFrame
  rw [hpayload]
  refine ⟨?_, congrArg some (be16_bytes tid), rfl, congrArg some (be16_bytes _), rfl, rfl, rfl⟩
  simp only [List.length_append, hpayload, writeBe16, List.length_cons, List.length_nil]

theorem responseFrame_point (hread : Readable function values) (hv : values[i]? = some v) :
    PayloadPoint (responseFrame tid unit function values) function i v := by
  obtain ⟨hi, -⟩ := List.getElem?_eq_some_iff.mp hv
  unfold PayloadPoint responseFrame
  split
  · next hf =>
    have hbyte : (responsePayload function values)[i / 8]? = some (packedByte values (i / 8)) := by
      rw [responsePayload, if_pos hf, List.getElem?_map, List.getElem?_range (by omega)]
      rfl
    refine ⟨packedByte values (i / 8), ?_, ?_⟩
    · rw [List.getElem?_append_right (Nat.le_add_right 9 _)]
      exact (congrArg _ (Nat.add_sub_cancel_left 9 _)).trans hbyte
    · rw [packedByte_testBit values _ (Nat.mod_lt i (by decide)), Nat.div_add_mod, hv]
      rcases hread hf v (List.mem_of_getElem? hv) with rfl | rfl <;> rfl
  · next hf =>
    refine (readBe16_append _ _ (2 * i)).trans ?_
    rw [responsePayload, if_neg hf, readBe16_flatMap, hv]

/-! ## The decoder against the specification -/

theorem payloadPoint_unique (h : PayloadPoint frame function i v)
    (h' : PayloadPoint frame function i v') : v = v' := by
  unfold PayloadPoint at h h'
  split at h
  · next hf =>
    rw [if_pos hf] at h'
    obtain ⟨byte, hbyte, rfl⟩ := h
    obtain ⟨byte', hbyte', rfl⟩ := h'
    cases hbyte.symm.trans hbyte'
    rfl
  · next hf =>
    rw [if_neg hf] at h'
    exact Option.some.inj (h.symm.trans h')

/-- The decoder returns the values of a server's response. -/
theorem decode_responseFrame (hf₁ : 1 ≤ function) (hf₄ : function ≤ 4)
    (hq : validQuantity qty = true) (hlen : values.length = qty.toNat)
    (hread : Readable function values) (out : List UInt16) :
    mbDecodeReadResponse (responseFrame tid unit function values) tid unit function qty out =
      some ({ error := .ok }, values ++ out.drop qty.toNat) := by
  obtain ⟨result, out', hdecode, hverdict⟩ := mbDecodeReadResponse_verdict
    (responseFrame tid unit function values) tid unit out hf₁ hf₄ hq
  have hok : OkFrame (responseFrame tid unit function values) tid unit function qty :=
    responseFrame_ok hlen
  rw [hdecode]
  cases hverdict with
  | @ok decoded _ hdlen hpoint =>
    have heq : decoded = values := by
      apply List.ext_getElem?
      intro i
      cases hv : values[i]? with
      | none =>
        rw [List.getElem?_eq_none_iff] at hv ⊢
        omega
      | some v =>
        have hlt := (List.getElem?_eq_some_iff.mp hv).1
        obtain ⟨d, hd⟩ : ∃ d, decoded[i]? = some d := exists_getElem? (by omega)
        rw [hd, payloadPoint_unique (hpoint i d hd) (responseFrame_point hread hv)]
    rw [heq]
  | exception hexc =>
    exact absurd (Option.some.inj (hexc.function_eq.symm.trans hok.function_eq))
      (exceptionFunction_ne hf₄)
  | other hnot => exact absurd hok hnot

/-- The response decoder is exact. Reads past the end of the frame have no value, so that there is a
result at all says that none happens. -/
theorem mbDecodeReadResponse_exact (frame : List UInt8) (tid : UInt16) (unit function : UInt8)
    (qty : UInt16) (out : List UInt16) (hf₁ : 1 ≤ function) (hf₄ : function ≤ 4)
    (hq : validQuantity qty = true) :
    ∃ result out', mbDecodeReadResponse frame tid unit function qty out = some (result, out') ∧
      (result.error = .ok ↔ OkFrame frame tid unit function qty) ∧
      (result.error = .exception ↔ ∃ code, ExceptionFrame frame tid unit function code) ∧
      (result.error = .exception → frame[8]?.map UInt8.toNat = some result.exceptionCode) ∧
      (result.error ≠ .exception → result.exceptionCode = 0) ∧
      (result.error = .ok → ∀ i < qty.toNat, ∃ v, out'[i]? = some v ∧
        PayloadPoint frame function i v) ∧
      (result.error = .ok → ∀ i, qty.toNat ≤ i → out'[i]? = out[i]?) ∧
      (result.error ≠ .ok → out' = out) ∧
      ∀ request offset values, mbBuildReadRequest tid unit function offset qty = some request →
        values.length = qty.toNat → Readable function values →
        serverResponse request values = some frame →
        result = { error := .ok } ∧ out' = values ++ out.drop qty.toNat := by
  obtain ⟨result, out', hdecode, hverdict⟩ :=
    mbDecodeReadResponse_verdict frame tid unit out hf₁ hf₄ hq
  have hexclusive (hok : OkFrame frame tid unit function qty) {code : UInt8}
      (hexc : ExceptionFrame frame tid unit function code) : False :=
    exceptionFunction_ne hf₄ (Option.some.inj (hexc.function_eq.symm.trans hok.function_eq))
  refine ⟨result, out', hdecode, ?_, ?_, ?_, ?_, ?_, ?_, ?_, ?_⟩
  · cases hverdict with
    | ok hok => simp [hok]
    | exception hexc => simpa using fun hok => hexclusive hok hexc
    | other hnot _ hne => simp [hnot, hne]
  · cases hverdict with
    | ok hok => simpa using fun code hexc => hexclusive hok hexc
    | @exception code hexc => simpa using ⟨code, hexc⟩
    | other _ hnot _ hne => simp [hnot, hne]
  · intro herror
    cases hverdict with
    | ok => cases herror
    | exception hexc => rw [hexc.code_eq]; rfl
    | other _ _ _ hne => exact absurd herror hne
  · intro herror
    cases hverdict with
    | exception => exact absurd rfl herror
    | _ => rfl
  · intro herror i hi
    cases hverdict with
    | @ok decoded _ hdlen hpoint =>
      obtain ⟨v, hv⟩ : ∃ v, decoded[i]? = some v := exists_getElem? (by omega)
      refine ⟨v, ?_, hpoint i v hv⟩
      rw [List.getElem?_append_left (by omega), hv]
    | exception => cases herror
    | other _ _ hne => exact absurd herror hne
  · intro herror i hi
    cases hverdict with
    | ok _ hdlen =>
      rw [List.getElem?_append_right (by omega), hdlen, List.getElem?_drop]
      congr 1
      omega
    | exception => cases herror
    | other _ _ hne => exact absurd herror hne
  · intro herror
    cases hverdict with
    | ok => exact absurd rfl herror
    | _ => rfl
  · intro request offset values hrequest hlen hread hserver
    rw [serverResponse_request hrequest] at hserver
    cases hserver
    cases hdecode.symm.trans (decode_responseFrame hf₁ hf₄ hq hlen hread out)
    exact ⟨rfl, rfl⟩

/-- Two coils of a response. -/
def coilsFrame : List UInt8 := [0, 7, 0, 0, 0, 4, 17, 1, 1, 0x02]

theorem mbDecodeReadResponse_exact_coils :
    mbDecodeReadResponse coilsFrame 7 17 1 2 [9, 9, 9] = some ({ error := .ok }, [0, 1, 9]) := by
  obtain ⟨result, out', hdecode, -, -, -, -, -, -, -, hround⟩ :=
    mbDecodeReadResponse_exact coilsFrame 7 17 1 2 [9, 9, 9] (by decide) (by decide) (by decide)
  obtain ⟨rfl, rfl⟩ := hround [0, 7, 0, 0, 0, 6, 17, 1, 0, 0, 0, 2] 0 [0, 1] (by decide) rfl
    (fun _ => by decide) (by decide)
  exact hdecode

end ModbusGateway
