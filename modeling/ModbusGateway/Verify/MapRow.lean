import ModbusGateway.Verify.MapStore
import Mathlib.Tactic.NormNum

/-!
# One row of a map

What `add_row` demands of a row and what it adds to the map. `integer_iff` reads decimal fields; the
`_eq_ok` lemmas turn each group of checks into its conditions, and `addRow_eq_ok` collects them.
-/

namespace ModbusGateway

open Checks

/-! ## Decimal fields -/

/-- A numeral of the decimal system, leading zeros allowed. -/
structure Decimal (s : CString) (value : Nat) : Prop where
  nonempty : s ≠ []
  digits : ∀ c ∈ s, c.isDigit = true
  value : Nat.ofDigitChars 10 s 0 = value

theorem ofDigitChars_ge (s : CString) (n : Nat) : n ≤ Nat.ofDigitChars 10 s n := by
  rw [Nat.ofDigitChars_eq_ofDigitChars_zero]
  have hpos : 1 ≤ 10 ^ s.length := Nat.one_le_pow _ _ (by decide)
  calc n = 1 * n := (Nat.one_mul n).symm
    _ ≤ 10 ^ s.length * n := Nat.mul_le_mul_right n hpos
    _ ≤ _ := Nat.le_add_right _ _

theorem isDigit_iff (c : Char) : ¬ (c < '0' ∨ c > '9') ↔ c.isDigit = true := by
  simp only [Char.isDigit, not_or, Char.not_lt, gt_iff_lt, Bool.and_eq_true, decide_eq_true_eq]
  rfl

theorem digit_le {c : Char} (h : c.isDigit = true) : c.toNat - '0'.toNat ≤ 9 := by
  simp only [Char.isDigit, Bool.and_eq_true, decide_eq_true_eq] at h
  have hhi := UInt32.le_iff_toNat_le.mp h.2
  have h9 : ('9' : Char).val.toNat = 57 := rfl
  have h0 : ('0' : Char).toNat = 48 := rfl
  have hc : c.toNat = c.val.toNat := rfl
  omega

/-- The guard of the loop is the bound on the next value, which therefore does not wrap. -/
theorem integerLoop_cons {c : Char} (hmax : maximum ≤ UINT32_MAX) (hc : c.isDigit = true) :
    integerLoop maximum n (c :: s) =
      if n * 10 + (c.toNat - '0'.toNat) ≤ maximum then
        integerLoop maximum (n * 10 + (c.toNat - '0'.toNat)) s
      else none := by
  have hdigit := digit_le hc
  have hmax' : UINT32_MAX = 2 ^ 32 - 1 := rfl
  rw [integerLoop, if_neg ((isDigit_iff c).mpr hc)]
  dsimp only
  generalize c.toNat - '0'.toNat = digit at hdigit ⊢
  by_cases hle : n * 10 + digit ≤ maximum
  · have hguard : ¬ (digit > maximum ∨ n > (maximum - digit) / 10) := by omega
    have hwrap : u32 (n * 10 + digit) = n * 10 + digit := u32_of_lt (by omega)
    rw [if_pos hle, if_neg hguard, hwrap, if_neg (Nat.not_lt.mpr hle)]
  · have hguard : digit > maximum ∨ n > (maximum - digit) / 10 := by omega
    rw [if_neg hle, if_pos hguard]

theorem integerLoop_iff (hn : n ≤ maximum) (hmax : maximum ≤ UINT32_MAX) :
    integerLoop maximum n s = some v ↔
      (∀ c ∈ s, c.isDigit = true) ∧ Nat.ofDigitChars 10 s n = v ∧ v ≤ maximum := by
  induction s generalizing n with
  | nil =>
    simp only [integerLoop, Option.some.injEq, Nat.ofDigitChars_nil]
    constructor
    · rintro rfl
      exact ⟨fun _ hc => (by cases hc), rfl, hn⟩
    · exact fun h => h.2.1
  | cons c s ih =>
    by_cases hc : c.isDigit = true
    · rw [integerLoop_cons hmax hc, Nat.ofDigitChars_cons, Nat.mul_comm 10 n]
      split
      · next hle =>
        rw [ih hle]
        simp [hc]
      · next hle =>
        have hge := ofDigitChars_ge s (n * 10 + (c.toNat - '0'.toNat))
        constructor
        · intro h
          cases h
        · rintro ⟨-, rfl, hv⟩
          omega
    · constructor
      · intro h
        rw [integerLoop, if_pos (Decidable.not_not.mp (mt (isDigit_iff c).mp hc))] at h
        cases h
      · rintro ⟨hdigits, -⟩
        exact absurd (hdigits c List.mem_cons_self) hc

theorem integer_iff (hmax : maximum ≤ UINT32_MAX) : integer s minimum maximum = some v ↔
    Decimal s v ∧ minimum ≤ v ∧ v ≤ maximum := by
  unfold integer
  by_cases hs : s = []
  · rw [if_pos hs]
    constructor
    · intro h
      cases h
    · rintro ⟨hd, -⟩
      exact absurd hs hd.nonempty
  · rw [if_neg hs]
    have hloop (n : Nat) : integerLoop maximum 0 s = some n ↔
        (∀ c ∈ s, c.isDigit = true) ∧ Nat.ofDigitChars 10 s 0 = n ∧ n ≤ maximum :=
      integerLoop_iff (Nat.zero_le maximum) hmax
    cases hr : integerLoop maximum 0 s with
    | none =>
      constructor
      · intro h
        cases h
      · rintro ⟨hd, -, hle⟩
        rw [(hloop v).mpr ⟨hd.digits, hd.value, hle⟩] at hr
        cases hr
    | some n =>
      obtain ⟨hdigits, hvalue, hle⟩ := (hloop n).mp hr
      dsimp only
      split
      · next hlt =>
        constructor
        · intro h
          cases h
        · rintro ⟨hd, hmin, -⟩
          have heq := hvalue.symm.trans hd.value
          omega
      · next hge =>
        constructor
        · intro h
          cases h
          exact ⟨⟨hs, hdigits, hvalue⟩, by omega, hle⟩
        · rintro ⟨hd, -, -⟩
          rw [hvalue.symm.trans hd.value]

/-! ## The checks, group by group -/

theorem checkUnique_eq_ok : checkUnique map name objectType instanceNumber entries = .ok u ↔
    ∀ e ∈ entries, map.string e.pointDef.name ≠ name ∧
      ¬ (e.pointDef.objectType = objectType ∧ e.pointDef.instanceNumber = instanceNumber) := by
  induction entries with
  | nil => simp [checkUnique]
  | cons e entries ih => simp [checkUnique, ih, and_assoc]

/-- What `rowIdentity` demands. -/
structure IdentityOk (map : CustomMap) (row : CsvRow) (instanceNumber objectType : Nat) : Prop where
  room : map.count ≠ CUSTOM_MAX_POINTS
  instance_eq : integer (row.field 0) 1 4194302 = some instanceNumber
  unreserved : ¬ (instanceNumber ≥ 9001 ∧ instanceNumber ≤ 9004)
  name : ¬ (row.field 1 = [] ∨ (row.field 1).length > 63 ∨
    CString.hasPrefix (row.field 1) "Gateway-".toList = true)
  description : ¬ (row.field 14).length > 127
  objectType_eq : parseObjectType (row.field 2) = some objectType
  fresh : ∀ e ∈ map.entries, map.string e.pointDef.name ≠ row.field 1 ∧
    ¬ (e.pointDef.objectType = objectType ∧ e.pointDef.instanceNumber = instanceNumber)

theorem rowIdentity_eq_ok : rowIdentity map row = .ok (instanceNumber, objectType) ↔
    IdentityOk map row instanceNumber objectType := by
  simp only [rowIdentity, bind_eq_ok, reject_eq_ok, require_eq_ok, checkUnique_eq_ok, pure_eq_ok,
    exists_const, Prod.mk.injEq]
  constructor
  · rintro ⟨hroom, i, hi, hres, hname, hdesc, t, ht, hfresh, rfl, rfl⟩
    exact ⟨hroom, hi, hres, hname, hdesc, ht, hfresh⟩
  · rintro ⟨hroom, hi, hres, hname, hdesc, ht, hfresh⟩
    exact ⟨hroom, _, hi, hres, hname, hdesc, _, ht, hfresh, rfl, rfl⟩

/-- What `rowSource` demands. -/
structure SourceOk (row : CsvRow) (objectType function offset : Nat) (kind : CustomDataType) :
    Prop where
  function_eq : integer (row.field 3) 1 4 = some function
  offset_eq : integer (row.field 4) 0 65535 = some offset
  kind_eq : parseDataType (row.field 5) = some kind
  bits : ¬ (function ≤ 2 ∧ (kind ≠ .bool ∨ objectType ≠ 3))
  registers : ¬ (function ≥ 3 ∧ kind = .bool)
  text : ¬ decide (objectType = 40) ≠ decide (kind = .ascii)
  binary : ¬ (objectType = 3 ∧ kind ≠ .bit ∧ kind ≠ .bool)
  multiState : ¬ (objectType = 13 ∧ kind.index > CustomDataType.s32.index)
  analog : ¬ (objectType = 0 ∧ kind.index > CustomDataType.f32.index)

theorem rowSource_eq_ok : rowSource row objectType = .ok (function, offset, kind) ↔
    SourceOk row objectType function offset kind := by
  simp only [rowSource, bind_eq_ok, reject_eq_ok, require_eq_ok, pure_eq_ok, exists_const,
    Prod.mk.injEq]
  constructor
  · rintro ⟨f, hf, o, ho, k, hk, h₁, h₂, h₃, h₄, h₅, h₆, rfl, rfl, rfl⟩
    exact ⟨hf, ho, hk, h₁, h₂, h₃, h₄, h₅, h₆⟩
  · rintro ⟨hf, ho, hk, h₁, h₂, h₃, h₄, h₅, h₆⟩
    exact ⟨_, hf, _, ho, _, hk, h₁, h₂, h₃, h₄, h₅, h₆, rfl, rfl, rfl⟩

/-- What `rowScaling` demands. -/
structure ScalingOk (strtod : Strtod) (row : CsvRow) (objectType : Nat) (kind : CustomDataType)
    (scale offset : Float) (units : Nat) : Prop where
  scale_eq : number strtod (row.field 7) 1 = some scale
  offset_eq : number strtod (row.field 8) 0 = some offset
  unscaled : ¬ ((kind = .bit ∨ kind = .bool ∨ kind = .ascii) ∧
    ((scale != 1) = true ∨ (offset != 0) = true))
  units_eq : rowUnits row = .ok units
  unitless : ¬ (objectType ≠ 0 ∧ units ≠ 95)

theorem rowScaling_eq_ok : rowScaling strtod row objectType kind = .ok (scale, offset, units) ↔
    ScalingOk strtod row objectType kind scale offset units := by
  simp only [rowScaling, bind_eq_ok, reject_eq_ok, require_eq_ok, pure_eq_ok, exists_const,
    Prod.mk.injEq]
  constructor
  · rintro ⟨s, hs, o, ho, h₁, u, hu, h₂, rfl, rfl, rfl⟩
    exact ⟨hs, ho, h₁, hu, h₂⟩
  · rintro ⟨hs, ho, h₁, hu, h₂⟩
    exact ⟨_, hs, _, ho, h₁, _, hu, h₂, rfl, rfl, rfl⟩

/-- What `rowLayout` demands. -/
structure LayoutOk (row : CsvRow) (offset : Nat) (kind : CustomDataType) (layout : RowLayout) :
    Prop where
  bit_eq : rowBit row kind = .ok layout.bitLsb
  length_eq : rowLength row kind = .ok layout.length
  fits : ¬ wordCount kind layout.length + offset > 65536
  order_eq : rowOrder row kind = .ok layout.order
  poll_eq : integer (row.field 13) 1000 3600000 = some layout.pollMs
  bitWidth : layout.bitWidth = if kind = .bit then 1 else 0
  wordCount : layout.wordCount = wordCount kind layout.length

theorem rowLayout_eq_ok : rowLayout row offset kind = .ok layout ↔
    LayoutOk row offset kind layout := by
  simp only [rowLayout, bind_eq_ok, reject_eq_ok, require_eq_ok, pure_eq_ok, exists_const]
  constructor
  · rintro ⟨b, hb, l, hl, h₁, o, ho, p, hp, rfl⟩
    exact ⟨hb, hl, h₁, ho, hp, rfl, rfl⟩
  · rintro ⟨hb, hl, h₁, ho, hp, hwidth, hcount⟩
    refine ⟨_, hb, _, hl, h₁, _, ho, _, hp, ?_⟩
    rw [← hwidth, ← hcount]

/-! ## Labels -/

/-- The labels of one point, apart from how many other points have. -/
structure LabelSet (texts : List CString) : Prop where
  each : ∀ t ∈ texts, t ≠ [] ∧ t.length ≤ 63
  nodup : texts.Nodup
  count : texts.length ≤ CUSTOM_MAX_STATES

/-- What the states field of a row stands for. -/
inductive RowStates (row : CsvRow) : Nat → Option (List CString) → Prop
  | multiState : row.field 11 ≠ [] → LabelSet ((row.field 11).splitOn '|') →
    RowStates row 13 (some ((row.field 11).splitOn '|'))
  | none : objectType ≠ 13 → row.field 11 = [] → RowStates row objectType none

theorem bytes_splitOn (s : CString) : CustomMap.bytes (s.splitOn '|') = s.length + 1 := by
  have hjoin (ts : List CString) (hne : ts ≠ []) :
      CustomMap.bytes ts = (['|'].intercalate ts).length + 1 := by
    induction ts with
    | nil => exact absurd rfl hne
    | cons t ts ih =>
      cases ts with
      | nil => simp [CustomMap.bytes]
      | cons t' ts =>
        have htail := ih (List.cons_ne_nil _ _)
        rw [CustomMap.bytes, List.map_cons, List.sum_cons, ← CustomMap.bytes, htail]
        simp only [List.intercalate_cons_cons, List.length_append, List.length_cons,
          List.length_nil]
        omega
  rw [hjoin _ (List.splitOn_ne_nil _ _), List.intercalate_splitOn]

theorem mem_splitOn {s t : CString} (ht : t ∈ s.splitOn '|') : ∀ c ∈ t, c ∈ s := by
  have hjoin (ts : List CString) (ht : t ∈ ts) : ∀ c ∈ t, c ∈ ['|'].intercalate ts := by
    intro c hc
    induction ts with
    | nil => cases ht
    | cons t' ts ih =>
      cases ts with
      | nil =>
        rw [List.mem_singleton.mp ht] at hc
        simpa using hc
      | cons t'' ts =>
        rw [List.intercalate_cons_cons, List.mem_append, List.mem_append]
        rcases List.mem_cons.mp ht with rfl | ht
        · exact .inl (.inl hc)
        · exact .inr (ih ht)
  have hmem := hjoin _ ht
  rw [List.intercalate_splitOn] at hmem
  exact hmem

/-- The states field takes effect exactly if it is well formed and its labels are not too many. -/
theorem rowStates_eq_ok {map map' : CustomMap} (hplain : ∀ c ∈ row.field 11, c ≠ '\x00')
    (htotal : map.statesUsed ≤ CUSTOM_MAX_TOTAL_STATES)
    (hspace : map.stringsUsed + ((row.field 11).length + 1) ≤ STRINGS_BYTES) :
    rowStates map row objectType = .ok (count, stateText, map') ↔
      ∃ texts, RowStates row objectType texts ∧
        map.statesUsed + (texts.getD []).length ≤ CUSTOM_MAX_TOTAL_STATES ∧
        count = (texts.getD []).length ∧ stateText = texts.map (fun _ => map.statesUsed) ∧
        map' = map.pushLabels (texts.getD []) := by
  have hloop (n : Nat) (m : CustomMap) :
      addLabels map.statesUsed ((row.field 11).splitOn '|') ([] : List CString).length map =
          .ok (n, m) ↔
        LabelsOk map [] ((row.field 11).splitOn '|') ∧
          n = ([] : List CString).length + ((row.field 11).splitOn '|').length ∧
          m = map.pushLabels ((row.field 11).splitOn '|') :=
    addLabels_eq_ok (fun t ht c hc => hplain c (mem_splitOn ht c hc)) .nil rfl List.nodup_nil
      (Nat.zero_le _) htotal (by rw [bytes_splitOn]; exact hspace)
  unfold rowStates
  by_cases hmulti : objectType = 13
  · subst hmulti
    simp only [if_pos, bind_eq_ok, reject_eq_ok, pure_eq_ok, exists_const, Prod.exists,
      Prod.mk.injEq]
    constructor
    · rintro ⟨hne, n, m, hadd, rfl, rfl, rfl⟩
      obtain ⟨hlabels, hn, rfl⟩ := (hloop n m).mp hadd
      refine ⟨_, .multiState hne ⟨hlabels.each, hlabels.nodup, ?_⟩, hlabels.total, ?_, rfl, rfl⟩
      · have hcount := hlabels.count
        rwa [List.length_nil, Nat.zero_add] at hcount
      · rw [hn, List.length_nil, Nat.zero_add]
        rfl
    · rintro ⟨texts, hstates, hsum, rfl, rfl, rfl⟩
      cases hstates with
      | none hne => exact absurd rfl hne
      | multiState hne hset =>
        have hlabels : LabelsOk map [] ((row.field 11).splitOn '|') :=
          ⟨hset.each, hset.nodup, by rw [List.length_nil, Nat.zero_add]; exact hset.count, hsum⟩
        refine ⟨hne, _, _, (hloop _ _).mpr ⟨hlabels, rfl, rfl⟩, ?_, rfl, rfl⟩
        rw [List.length_nil, Nat.zero_add]
        rfl
  · simp only [if_neg hmulti, bind_eq_ok, reject_eq_ok, pure_eq_ok, exists_const, Prod.mk.injEq,
      ne_eq, Decidable.not_not]
    constructor
    · rintro ⟨hempty, rfl, rfl, rfl⟩
      exact ⟨none, .none hmulti hempty, htotal, rfl, rfl, rfl⟩
    · rintro ⟨texts, hstates, -, rfl, rfl, rfl⟩
      cases hstates with
      | multiState => exact absurd rfl hmulti
      | none _ hempty => exact ⟨hempty, rfl, rfl, rfl⟩

/-! ## Points -/

/-- The layout part of a point. -/
def MapPoint.layout (q : MapPoint) : RowLayout where
  bitLsb := q.pointDef.bitLsb
  bitWidth := q.pointDef.bitWidth
  length := q.point.length
  wordCount := q.pointDef.wordCount
  order := q.point.order
  pollMs := q.point.pollMs

/-- The row is a valid row for the point `q`, whatever the other rows are. -/
structure RowPoint (strtod : Strtod) (row : CsvRow) (q : MapPoint) : Prop where
  instance_eq : integer (row.field 0) 1 4194302 = some q.pointDef.instanceNumber
  unreserved : ¬ (q.pointDef.instanceNumber ≥ 9001 ∧ q.pointDef.instanceNumber ≤ 9004)
  name : ¬ (row.field 1 = [] ∨ (row.field 1).length > 63 ∨
    CString.hasPrefix (row.field 1) "Gateway-".toList = true)
  description : ¬ (row.field 14).length > 127
  objectType_eq : parseObjectType (row.field 2) = some q.pointDef.objectType
  source : SourceOk row q.pointDef.objectType q.point.function q.pointDef.offset q.point.dataType
  scaling : ScalingOk strtod row q.pointDef.objectType q.point.dataType q.point.scale q.point.offset
    q.pointDef.units
  layout : LayoutOk row q.pointDef.offset q.point.dataType q.layout
  states : RowStates row q.pointDef.objectType q.pointDef.stateText
  name_eq : q.pointDef.name = row.field 1
  description_eq : q.pointDef.description = row.field 14
  count_eq : q.pointDef.stateCount = (q.pointDef.stateText.getD []).length

/-- Among `points` there is room for `q`. -/
structure Admissible (points : List MapPoint) (q : MapPoint) : Prop where
  room : points.length ≠ CUSTOM_MAX_POINTS
  fresh : ∀ p ∈ points, p.pointDef.name ≠ q.pointDef.name ∧
    ¬ (p.pointDef.objectType = q.pointDef.objectType ∧
      p.pointDef.instanceNumber = q.pointDef.instanceNumber)
  states : (points.map fun p => p.pointDef.stateCount).sum + q.pointDef.stateCount ≤
    CUSTOM_MAX_TOTAL_STATES

/-- No field of the row has a NUL in it. -/
def CsvRow.NoNul (row : CsvRow) : Prop := ∀ i, ∀ c ∈ row.field i, c ≠ '\x00'

/-- The bytes of the fields that are stored, with their NULs. -/
def CsvRow.storedBytes (row : CsvRow) : Nat :=
  ((row.field 1).length + 1) + ((row.field 14).length + 1) + ((row.field 11).length + 1)

theorem RowPoint.wellFormed (H : RowPoint strtod row q) (hplain : row.NoNul) : q.WellFormed := by
  refine ⟨by rw [H.name_eq]; exact hplain 1, by rw [H.description_eq]; exact hplain 14, ?_,
    H.count_eq⟩
  have hstates := H.states
  generalize q.pointDef.stateText = texts at hstates
  generalize q.pointDef.objectType = objectType at hstates
  cases hstates with
  | multiState => exact fun t ht c hc => hplain 11 c (mem_splitOn ht c hc)
  | none => exact fun t ht => (by cases ht)

theorem addRow_eq_ok {map map' : CustomMap} (H : map.Holds points) (hplain : row.NoNul)
    (htotal : map.statesUsed ≤ CUSTOM_MAX_TOTAL_STATES)
    (hspace : map.stringsUsed + row.storedBytes ≤ STRINGS_BYTES) :
    addRow strtod map row = .ok map' ↔
      ∃ q, RowPoint strtod row q ∧ Admissible points q ∧ map' = map.append q := by
  have hname : saveString map (row.field 1) = some (map.stringsUsed, map.push (row.field 1)) :=
    saveString_eq_some.mpr ⟨by unfold CsvRow.storedBytes at hspace; omega, rfl, rfl⟩
  have hpush := map.push_stringsUsed (row.field 1)
  have hdescription : saveString (map.push (row.field 1)) (row.field 14) =
      some ((map.push (row.field 1)).stringsUsed,
        (map.push (row.field 1)).push (row.field 14)) :=
    saveString_eq_some.mpr ⟨by unfold CsvRow.storedBytes at hspace; omega, rfl, rfl⟩
  have hpush₂ := (map.push (row.field 1)).push_stringsUsed (row.field 14)
  have hstates (t n : Nat) (f : Option Nat) (m : CustomMap) :=
    @rowStates_eq_ok row t n f ((map.push (row.field 1)).push (row.field 14)) m (hplain 11) htotal
      (by unfold CsvRow.storedBytes at hspace; omega)
  simp only [addRow, bind_eq_ok, Prod.exists, rowIdentity_eq_ok, rowSource_eq_ok, rowScaling_eq_ok,
    rowLayout_eq_ok, require_eq_ok, hname, pure_eq_ok, Option.some.injEq, Prod.mk.injEq]
  constructor
  · rintro ⟨i, t, hid, function, offset, kind, hsource, scale, shift, units, hscaling, layout,
      hlayout, _, _, ⟨rfl, rfl⟩, description, m, hdesc, n, first, m', hrow, rfl⟩
    rw [hdescription] at hdesc
    cases hdesc
    obtain ⟨texts, htexts, hsum, rfl, rfl, rfl⟩ := (hstates t n first m').mp hrow
    let q : MapPoint := {
      pointDef := {
        objectType := t
        instanceNumber := i
        name := row.field 1
        description := row.field 14
        units
        stateCount := (texts.getD []).length
        stateText := texts
        offset
        wordCount := layout.wordCount
        bitLsb := layout.bitLsb
        bitWidth := layout.bitWidth }
      point := {
        dataType := kind
        function
        order := layout.order
        length := layout.length
        pollMs := layout.pollMs
        scale
        offset := shift } }
    have hq : RowPoint strtod row q :=
      ⟨hid.instance_eq, hid.unreserved, hid.name, hid.description, hid.objectType_eq, hsource,
        hscaling, hlayout, htexts, rfl, rfl, rfl⟩
    refine ⟨q, hq, ⟨?_, H.fresh_iff.mp hid.fresh, ?_⟩, ?_⟩
    · rw [← H.count_eq]
      exact hid.room
    · rw [← H.states]
      exact hsum
    · rw [CustomMap.pushLabels_entries]
      rfl
  · rintro ⟨q, hq, hadm, rfl⟩
    have hid : IdentityOk map row q.pointDef.instanceNumber q.pointDef.objectType := by
      refine ⟨?_, hq.instance_eq, hq.unreserved, hq.name, hq.description, hq.objectType_eq, ?_⟩
      · rw [H.count_eq]
        exact hadm.room
      · rw [H.fresh_iff, ← hq.name_eq]
        exact hadm.fresh
    have hsum : map.statesUsed + (q.pointDef.stateText.getD []).length ≤
        CUSTOM_MAX_TOTAL_STATES := by
      rw [H.states, ← hq.count_eq]
      exact hadm.states
    refine ⟨_, _, hid, _, _, _, hq.source, _, _, _, hq.scaling, _, hq.layout, _, _, ⟨rfl, rfl⟩, _, _,
      hdescription, _, _, _, (hstates _ _ _ _).mpr ⟨_, hq.states, hsum, rfl, rfl, rfl⟩, ?_⟩
    rw [CustomMap.pushLabels_entries]
    unfold CustomMap.append CustomMap.pushTexts
    rw [hq.name_eq, hq.description_eq, hq.count_eq]
    rfl

end ModbusGateway
