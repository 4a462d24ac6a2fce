import Mathlib.Data.List.TakeWhile
import ModbusGateway.Bacnet.Publish
import ModbusGateway.Verify.Catalog
import ModbusGateway.Verify.CustomDecode

/-!
# What is published

The reliability of every point says how its last value was, and the present value is the last one that
could be shown. What the loop of `gateway_bacnet_update` does to one point is a function of the value of
that point and of its view before, since the points of a catalogue have objects of their own.
-/

namespace ModbusGateway

open Binary64

/-! ## Values that an object can show -/

/-- The text ends within its array. -/
def TextOf (text : Nat → Char) (chars : List Char) : Prop :=
  chars.length < ATS_TEXT_CAPACITY ∧ chars = (List.range chars.length).map text ∧
    (∀ j, j < chars.length → text j ≠ '\x00') ∧ text chars.length = '\x00'

/-- The value is one of the object: a number in the range of `float`, zero or one, a state, or a text. -/
def Presentable (d : AtsPointDef) (value : AtsValue) : Prop :=
  if d.objectType = OBJECT_CHARACTERSTRING_VALUE then ∃ chars, TextOf value.text chars
  else if d.objectType = OBJECT_BINARY_INPUT then Holds value.numeric 0 ∨ Holds value.numeric 1
  else if d.objectType = OBJECT_MULTI_STATE_INPUT then
    ∃ state : Nat, 1 ≤ state ∧ state ≤ d.stateCount ∧ Holds value.numeric state
  else ∃ q, Holds value.numeric q ∧ |q| ≤ (2 ^ 24 - 1) * 2 ^ 104

/-- A value of good quality that the object can show. -/
def Trusted (d : AtsPointDef) (value : AtsValue) : Prop :=
  value.quality = .good ∧ Presentable d value

/-- A value that is shown: it can be, and it is good, or acquired without being qualified. -/
def Qualifies (d : AtsPointDef) (value : AtsValue) : Prop :=
  Presentable d value ∧
    (value.quality = .good ∨ value.quality = .unverified ∧ 0 < value.rawCount)

/-- The present value shows the value. -/
def Shows (d : AtsPointDef) (value : AtsValue) : PresentValue → Prop
  | .real x => d.objectType = OBJECT_ANALOG_INPUT ∧ x = value.numeric.toFloat32
  | .binary active =>
    d.objectType = OBJECT_BINARY_INPUT ∧ Holds value.numeric (if active then 1 else 0)
  | .unsigned n => d.objectType = OBJECT_MULTI_STATE_INPUT ∧ Holds value.numeric n.toNat
  | .characterString chars =>
    d.objectType = OBJECT_CHARACTERSTRING_VALUE ∧ TextOf value.text chars

/-- `FLT_MAX`, as it is usually written. -/
theorem holds_FLT_MAX' : Holds FLT_MAX ((2 ^ 24 - 1) * 2 ^ 104) := by
  have hvalue : ((2 ^ 53 - 2 ^ 29 : Nat) * 2 ^ (75 : Int) : ℚ) = (2 ^ 24 - 1) * 2 ^ 104 := by norm_num
  exact hvalue ▸ holds_FLT_MAX

/-! ## Texts -/

/-- The characters before the end. -/
theorem boundedText_ne (h : j < (boundedText text capacity).length) :
    (boundedText text capacity)[j] ≠ '\x00' := by
  have hmem : (boundedText text capacity)[j] ∈ boundedText text capacity := List.getElem_mem h
  simpa using List.mem_takeWhile_imp hmem

theorem boundedText_length_le (text : Nat → Char) (capacity : Nat) :
    (boundedText text capacity).length ≤ capacity := by
  have hle := (List.takeWhile_prefix (l := (List.range capacity).map text) (· ≠ '\x00')).length_le
  rwa [List.length_map, List.length_range] at hle

theorem boundedText_eq (text : Nat → Char) (capacity : Nat) :
    boundedText text capacity = (List.range (boundedText text capacity).length).map text := by
  have hprefix : boundedText text capacity <+: (List.range capacity).map text :=
    List.takeWhile_prefix _
  have htake := List.prefix_iff_eq_take.mp hprefix
  rwa [← List.map_take, List.take_range, Nat.min_eq_left (boundedText_length_le text capacity)]
    at htake

theorem getElem?_length_takeWhile (p : α → Bool) (l : List α) :
    l[(l.takeWhile p).length]? = (l.dropWhile p).head? := by
  induction l with
  | nil => rfl
  | cons a l ih =>
    rw [List.takeWhile_cons, List.dropWhile_cons]
    split
    · exact ih
    · rfl

/-- The text up to its first NUL, if there is one. -/
theorem textOf_boundedText (h : strnlen text ATS_TEXT_CAPACITY < ATS_TEXT_CAPACITY) :
    TextOf text (boundedText text ATS_TEXT_CAPACITY) := by
  have heq := boundedText_eq text ATS_TEXT_CAPACITY
  refine ⟨h, heq, fun j hj => ?_, ?_⟩
  · have hne := boundedText_ne hj
    have hget : (boundedText text ATS_TEXT_CAPACITY)[j] = text j := by
      conv_lhs => rw [List.getElem_of_eq heq hj]
      simp
    rwa [hget] at hne
  · -- the first character that is left out
    have hlt : (boundedText text ATS_TEXT_CAPACITY).length < ATS_TEXT_CAPACITY := h
    have hlast := List.head?_dropWhile_not (· ≠ '\x00') ((List.range ATS_TEXT_CAPACITY).map text)
    rw [← getElem?_length_takeWhile, ← boundedText, List.getElem?_map, List.getElem?_range hlt]
      at hlast
    simpa using hlast

theorem TextOf.unique (H : TextOf text chars) (H' : TextOf text chars') : chars = chars' := by
  have hle {a b : List Char} (Ha : TextOf text a) (Hb : TextOf text b) : a.length ≤ b.length := by
    by_contra hlt
    exact Ha.2.2.1 b.length (by omega) Hb.2.2.2
  rw [H.2.1, H'.2.1, Nat.le_antisymm (hle H H') (hle H' H)]

theorem strnlen_lt_iff :
    strnlen text ATS_TEXT_CAPACITY < ATS_TEXT_CAPACITY ↔ ∃ chars, TextOf text chars := by
  refine ⟨fun h => ⟨_, textOf_boundedText h⟩, ?_⟩
  rintro ⟨chars, hlt, _, _, hend⟩
  by_contra hge
  have hlen : chars.length < (boundedText text ATS_TEXT_CAPACITY).length :=
    Nat.lt_of_lt_of_le hlt (Nat.le_of_not_lt hge)
  have hne := boundedText_ne hlen
  have hget : (boundedText text ATS_TEXT_CAPACITY)[chars.length] = text chars.length := by
    conv_lhs => rw [List.getElem_of_eq (boundedText_eq text ATS_TEXT_CAPACITY) hlen]
    simp
  exact hne (hget.trans hend)

/-! ## Numbers -/

theorem analog_test (x : Float) :
    (x.isFinite && decide (x.abs ≤ FLT_MAX)) = true ↔
      ∃ q, Holds x q ∧ |q| ≤ (2 ^ 24 - 1) * 2 ^ 104 := by
  constructor
  · intro h
    obtain ⟨hfinite, hle⟩ := (Bool.and_eq_true _ _).mp h
    obtain ⟨q, hq⟩ := holds_of_isFinite hfinite
    exact ⟨q, hq, (hq.abs.le_iff holds_FLT_MAX').mp (of_decide_eq_true hle)⟩
  · rintro ⟨q, hq, hle⟩
    rw [hq.isFinite, Bool.true_and, decide_eq_true_eq]
    exact (hq.abs.le_iff holds_FLT_MAX').mpr hle

/-- A number is zero or one for the code when it is. -/
theorem binary_test (x : Float) :
    (x.isFinite && decide (x.abs ≤ FLT_MAX) && (x == 0 || x == 1)) = true ↔
      Holds x 0 ∨ Holds x 1 := by
  rw [Bool.and_eq_true, analog_test, Bool.or_eq_true]
  constructor
  · rintro ⟨_, h | h⟩
    · exact .inl (holds_zero.of_beq h)
    · exact .inr (holds_one.of_beq h)
  · rintro (h | h)
    · exact ⟨⟨0, h, by norm_num⟩, .inl ((h.beq_iff holds_zero).mpr rfl)⟩
    · exact ⟨⟨1, h, by norm_num⟩, .inr ((h.beq_iff holds_one).mpr rfl)⟩

/-- A number is a state for the code when it is. -/
theorem multistate_test (x : Float) (hcount : count < 2 ^ 53) :
    (x.isFinite && decide (x.abs ≤ FLT_MAX) && decide (1 ≤ x) && decide (x ≤ count.toFloat) &&
        floatFloor x == x) = true ↔ ∃ state : Nat, 1 ≤ state ∧ state ≤ count ∧ Holds x state := by
  have hsize : (count : ℚ) < 2 ^ 53 := by exact_mod_cast hcount
  have hfloat := holds_toFloat hcount
  constructor
  · intro h
    simp only [Bool.and_eq_true, decide_eq_true_eq] at h
    obtain ⟨⟨⟨⟨hfinite, _⟩, hge⟩, hle⟩, hfloor⟩ := h
    obtain ⟨q, hq⟩ := holds_of_isFinite hfinite
    have hone : 1 ≤ q := (holds_one.le_iff hq).mp hge
    have hcountq : q ≤ count := (hq.le_iff hfloat).mp hle
    have hpos : 0 ≤ q := zero_le_one.trans hone
    have hinteger := ((holds_floatFloor_floor hq hpos (hcountq.trans_lt hsize)).beq_iff hq).mp hfloor
    generalize ⌊q⌋.toNat = state at hinteger
    subst hinteger
    exact ⟨state, by exact_mod_cast hone, by exact_mod_cast hcountq, hq⟩
  · rintro ⟨state, hone, hle, hx⟩
    have honeq : (1 : ℚ) ≤ state := by exact_mod_cast hone
    have hleq : (state : ℚ) ≤ count := by exact_mod_cast hle
    have hrange : (x.isFinite && decide (x.abs ≤ FLT_MAX)) = true :=
      (analog_test x).mpr ⟨state, hx, by
        rw [abs_of_nonneg (Nat.cast_nonneg state)]
        exact (hleq.trans hsize.le).trans (by norm_num)⟩
    have hfloor := holds_floatFloor hx (by omega)
    rw [hrange]
    simp only [Bool.true_and, Bool.and_eq_true, decide_eq_true_eq]
    exact ⟨⟨(holds_one.le_iff hx).mpr honeq, (hx.le_iff hfloat).mpr hleq⟩, (hfloor.beq_iff hx).mpr rfl⟩

/-! ## One value -/

/-- What the catalogue check says about a point that matters here. -/
structure PointKind (d : AtsPointDef) : Prop where
  type : d.objectType = OBJECT_ANALOG_INPUT ∨ d.objectType = OBJECT_BINARY_INPUT ∨
    d.objectType = OBJECT_MULTI_STATE_INPUT ∨ d.objectType = OBJECT_CHARACTERSTRING_VALUE
  states : d.objectType = OBJECT_MULTI_STATE_INPUT → d.stateCount < 2 ^ 32
  number : d.instanceNumber < DIAGNOSTIC_BASE ∨ DIAGNOSTIC_BASE + 4 ≤ d.instanceNumber

theorem representable_iff (H : PointKind d) (value : AtsValue) :
    representable d value = true ↔ Presentable d value := by
  obtain htype | htype | htype | htype := H.type
  · simp only [representable, Presentable, htype, OBJECT_ANALOG_INPUT, OBJECT_BINARY_INPUT,
      OBJECT_MULTI_STATE_INPUT, OBJECT_CHARACTERSTRING_VALUE]
    exact analog_test value.numeric
  · simp only [representable, Presentable, htype, OBJECT_BINARY_INPUT,
      OBJECT_MULTI_STATE_INPUT, OBJECT_CHARACTERSTRING_VALUE]
    exact binary_test value.numeric
  · have hcount := H.states htype
    simp only [representable, Presentable, htype, OBJECT_BINARY_INPUT,
      OBJECT_MULTI_STATE_INPUT, OBJECT_CHARACTERSTRING_VALUE]
    exact multistate_test value.numeric (Nat.lt_trans hcount (by decide))
  · simp only [representable, Presentable, htype, OBJECT_BINARY_INPUT,
      OBJECT_MULTI_STATE_INPUT, OBJECT_CHARACTERSTRING_VALUE]
    exact decide_eq_true_iff.trans strnlen_lt_iff

theorem goodValue_iff (H : PointKind d) (value : AtsValue) :
    goodValue d value = true ↔ Trusted d value := by
  rw [goodValue, Bool.and_eq_true, decide_eq_true_eq, representable_iff H, Trusted]

theorem publishes_iff (H : PointKind d) (value : AtsValue) :
    publishes d value = true ↔ Qualifies d value := by
  simp only [publishes, Bool.and_eq_true, Bool.or_eq_true, decide_eq_true_eq, goodValue_iff H,
    representable_iff H, Trusted, Qualifies]
  constructor
  · rintro ⟨hp, ⟨hq, _⟩ | hq⟩
    · exact ⟨hp, .inl hq⟩
    · exact ⟨hp, .inr hq⟩
  · rintro ⟨hp, hq | hq⟩
    · exact ⟨hp, .inl ⟨hq, hp⟩⟩
    · exact ⟨hp, .inr hq⟩

/-- The present value that the switch makes of a value. -/
def presented (d : AtsPointDef) (value : AtsValue) : PresentValue :=
  if d.objectType = OBJECT_ANALOG_INPUT then .real value.numeric.toFloat32
  else if d.objectType = OBJECT_BINARY_INPUT then .binary (value.numeric != 0)
  else if d.objectType = OBJECT_MULTI_STATE_INPUT then .unsigned value.numeric.toUInt32
  else .characterString (boundedText value.text ATS_TEXT_CAPACITY)

/-- A value that qualifies is shown. -/
theorem shows_presented (H : PointKind d) (hvalue : Presentable d value) :
    Shows d value (presented d value) := by
  obtain htype | htype | htype | htype := H.type
  · rw [presented, if_pos htype]
    exact ⟨htype, rfl⟩
  · have hbinary : Holds value.numeric 0 ∨ Holds value.numeric 1 := by
      simpa [Presentable, htype, OBJECT_BINARY_INPUT, OBJECT_CHARACTERSTRING_VALUE] using hvalue
    rw [presented, if_neg (by rw [htype]; decide), if_pos htype]
    refine ⟨htype, ?_⟩
    obtain h | h := hbinary
    · have hzero : (value.numeric == 0) = true := (h.beq_iff holds_zero).mpr rfl
      rw [bne, hzero]
      exact h
    · have hzero : (value.numeric == 0) = false :=
        Bool.eq_false_iff.mpr fun hz => one_ne_zero ((h.beq_iff holds_zero).mp hz)
      rw [bne, hzero]
      exact h
  · have hstate : ∃ state : Nat, 1 ≤ state ∧ state ≤ d.stateCount ∧ Holds value.numeric state := by
      simpa [Presentable, htype, OBJECT_BINARY_INPUT, OBJECT_MULTI_STATE_INPUT,
        OBJECT_CHARACTERSTRING_VALUE] using hvalue
    obtain ⟨state, _, hle, h⟩ := hstate
    have hlt := H.states htype
    rw [presented, if_neg (by rw [htype]; decide), if_neg (by rw [htype]; decide), if_pos htype]
    refine ⟨htype, ?_⟩
    have hnat : value.numeric.toUInt32.toNat = state := by
      rw [h.toUInt32 (Nat.cast_nonneg state) (by exact_mod_cast Nat.lt_of_le_of_lt hle hlt),
        Int.floor_natCast, Int.toNat_natCast]
    rwa [hnat]
  · have htext : ∃ chars, TextOf value.text chars := by
      simpa [Presentable, htype] using hvalue
    rw [presented, if_neg (by rw [htype]; decide), if_neg (by rw [htype]; decide),
      if_neg (by rw [htype]; decide)]
    exact ⟨htype, textOf_boundedText (strnlen_lt_iff.mpr htext)⟩

/-! ## One point -/

/-- How a point is seen: its present value, its reliability, and its quality flag. -/
structure PointView where
  value : PresentValue
  reliability : Reliability
  changed : Bool

/-- The reliability of the point at place `i`. -/
def Publication.pointReliability (s : Publication) (i : Nat) (d : AtsPointDef) : Reliability :=
  if d.objectType = OBJECT_CHARACTERSTRING_VALUE then s.csvReliability i else s.reliability d.object

def Publication.view (s : Publication) (i : Nat) (d : AtsPointDef) : PointView :=
  ⟨s.presentValue d.object, s.pointReliability i d, s.csvQualityChanged i⟩

/-- An update as the point sees it. -/
def PointView.update (v : PointView) (d : AtsPointDef) (value : AtsValue) : PointView where
  value := if publishes d value then presented d value else v.value
  reliability := reliabilityOf d value
  changed := v.changed || (d.objectType = OBJECT_CHARACTERSTRING_VALUE &&
    v.reliability ≠ reliabilityOf d value)

/-- A point that is no text stores its value and its reliability in the stack. -/
theorem updatePoint_stack (H : PointKind d) (htype : d.objectType ≠ OBJECT_CHARACTERSTRING_VALUE) :
    updatePoint i d value s =
      { s with
        goodPoints := u32 (s.goodPoints + (if goodValue d value then 1 else 0))
        presentValue :=
          if publishes d value then Function.update s.presentValue d.object (presented d value)
          else s.presentValue
        reliability := Function.update s.reliability d.object (reliabilityOf d value) } := by
  obtain h | h | h | h := H.type
  · simp only [updatePoint, presented, if_pos h]
    split <;> rfl
  · have h0 : d.objectType ≠ OBJECT_ANALOG_INPUT := by rw [h]; decide
    simp only [updatePoint, presented, if_neg h0, if_pos h]
    split <;> rfl
  · have h0 : d.objectType ≠ OBJECT_ANALOG_INPUT := by rw [h]; decide
    have h1 : d.objectType ≠ OBJECT_BINARY_INPUT := by rw [h]; decide
    simp only [updatePoint, presented, if_neg h0, if_neg h1, if_pos h]
    split <;> rfl
  · exact absurd h htype

/-- A text keeps its reliability in the arrays. -/
theorem updatePoint_text (htype : d.objectType = OBJECT_CHARACTERSTRING_VALUE) :
    updatePoint i d value s =
      { s with
        goodPoints := u32 (s.goodPoints + (if goodValue d value then 1 else 0))
        presentValue :=
          if publishes d value then Function.update s.presentValue d.object (presented d value)
          else s.presentValue
        csvReliability := Function.update s.csvReliability i (reliabilityOf d value)
        csvQualityChanged :=
          if s.csvReliability i ≠ reliabilityOf d value then
            Function.update s.csvQualityChanged i true
          else s.csvQualityChanged } := by
  have h0 : d.objectType ≠ OBJECT_ANALOG_INPUT := by rw [htype]; decide
  have h1 : d.objectType ≠ OBJECT_BINARY_INPUT := by rw [htype]; decide
  have h2 : d.objectType ≠ OBJECT_MULTI_STATE_INPUT := by rw [htype]; decide
  simp only [updatePoint, presented, if_neg h0, if_neg h1, if_neg h2, if_pos htype]
  by_cases hquality : s.csvReliability i = reliabilityOf d value
  · split <;> simp [Publication.setPresentValue, hquality]
  · split <;> simp [Publication.setPresentValue, hquality]

/-- What the loop body does to its own point. -/
theorem view_updatePoint (H : PointKind d) (s : Publication) (i : Nat) (value : AtsValue) :
    (updatePoint i d value s).view i d = (s.view i d).update d value := by
  by_cases htype : d.objectType = OBJECT_CHARACTERSTRING_VALUE
  · rw [updatePoint_text htype]
    simp only [Publication.view, Publication.pointReliability, PointView.update,
      Function.update_self, htype, decide_true, Bool.true_and]
    congr 1
    · split
      · rw [Function.update_self]
      · rfl
    · by_cases hquality : s.csvReliability i = reliabilityOf d value
      · simp [hquality]
      · simp [hquality]
  · rw [updatePoint_stack H htype]
    simp only [Publication.view, Publication.pointReliability, PointView.update,
      Function.update_self, htype, decide_false, Bool.false_and, Bool.or_false]
    congr 1
    split
    · rw [Function.update_self]
    · rfl

/-- The loop body leaves the other points alone. -/
theorem view_updatePoint_of_ne (H : PointKind d) (hi : i ≠ j) (hobject : d.object ≠ e.object)
    (s : Publication) (value : AtsValue) : (updatePoint i d value s).view j e = s.view j e := by
  have hvalue : (if publishes d value then Function.update s.presentValue d.object (presented d value)
      else s.presentValue) e.object = s.presentValue e.object := by
    split
    · rw [Function.update_of_ne hobject.symm]
    · rfl
  by_cases htype : d.objectType = OBJECT_CHARACTERSTRING_VALUE
  · rw [updatePoint_text htype]
    have hchanged : (if s.csvReliability i ≠ reliabilityOf d value then
        Function.update s.csvQualityChanged i true else s.csvQualityChanged) j =
        s.csvQualityChanged j := by
      split
      · rw [Function.update_of_ne hi.symm]
      · rfl
    simp only [Publication.view, Publication.pointReliability, hvalue, hchanged,
      Function.update_of_ne hi.symm]
  · rw [updatePoint_stack H htype]
    simp only [Publication.view, Publication.pointReliability, hvalue,
      Function.update_of_ne hobject.symm]

theorem updatePoint_goodPoints (H : PointKind d) :
    (updatePoint i d value s).goodPoints =
      u32 (s.goodPoints + (if goodValue d value then 1 else 0)) := by
  by_cases htype : d.objectType = OBJECT_CHARACTERSTRING_VALUE
  · rw [updatePoint_text htype]
  · rw [updatePoint_stack H htype]

theorem updatePoint_initialized (H : PointKind d) :
    (updatePoint i d value s).initialized = s.initialized := by
  by_cases htype : d.objectType = OBJECT_CHARACTERSTRING_VALUE
  · rw [updatePoint_text htype]
  · rw [updatePoint_stack H htype]

/-! ## The loop -/

/-- What the catalogue check says about the points that matters here. -/
structure Separate (points : List AtsPointDef) : Prop where
  kind : ∀ d ∈ points, PointKind d
  objects : points.Pairwise fun d e => d.object ≠ e.object
  length : points.length ≤ GATEWAY_BACNET_MAX_POINTS

theorem Separate.tail (H : Separate (d :: points)) : Separate points where
  kind e he := H.kind e (List.mem_cons_of_mem d he)
  objects := (List.pairwise_cons.mp H.objects).2
  length := Nat.le_of_succ_le H.length

theorem Separate.head (H : Separate (d :: points)) : PointKind d := H.kind d List.mem_cons_self

/-- A point that the loop does not come to. -/
theorem view_updatePoints_of_ne (H : Separate points) (hi : j < i)
    (hobject : ∀ d ∈ points, d.object ≠ e.object) (s : Publication) :
    (updatePoints values i points s).view j e = s.view j e := by
  induction points generalizing i s with
  | nil => rfl
  | cons d points ih =>
    rw [updatePoints, ih H.tail (by omega) fun d' hd' => hobject d' (List.mem_cons_of_mem d hd')]
    exact view_updatePoint_of_ne H.head (by omega) (hobject d List.mem_cons_self) s _

/-- The loop updates every point with its value. -/
theorem view_updatePoints (H : Separate points) (hget : points[n]? = some e) (s : Publication) :
    (updatePoints values i points s).view (i + n) e =
      (s.view (i + n) e).update e (values (i + n)) := by
  induction points generalizing i n s with
  | nil => cases hget
  | cons d points ih =>
    have hne := (List.pairwise_cons.mp H.objects).1
    rw [updatePoints]
    cases n with
    | zero =>
      cases hget
      have hrest : ∀ d' ∈ points, d'.object ≠ e.object := fun d' hd' => (hne d' hd').symm
      rw [Nat.add_zero, view_updatePoints_of_ne H.tail (by omega) hrest]
      exact view_updatePoint H.head s i (values i)
    | succ n =>
      have hmem : e ∈ points := List.mem_of_getElem? hget
      have hstep := ih H.tail hget (i := i + 1) (updatePoint i d (values i) s)
      rw [Nat.add_right_comm i 1 n] at hstep
      rw [show i + (n + 1) = i + n + 1 from rfl, hstep]
      congr 1
      exact view_updatePoint_of_ne H.head (by omega) (hne e hmem) s _

/-- The number of points with a good value, from place `i` on. -/
def goodCount (values : Nat → AtsValue) : Nat → List AtsPointDef → Nat
  | _, [] => 0
  | i, d :: points => (if goodValue d (values i) then 1 else 0) + goodCount values (i + 1) points

theorem updatePoints_goodPoints {s : Publication} (H : Separate points)
    (hsmall : s.goodPoints + points.length < 2 ^ 32) :
    (updatePoints values i points s).goodPoints = s.goodPoints + goodCount values i points := by
  induction points generalizing i s with
  | nil => rfl
  | cons d points ih =>
    rw [List.length_cons] at hsmall
    have hstep : (updatePoint i d (values i) s).goodPoints =
        s.goodPoints + (if goodValue d (values i) then 1 else 0) := by
      rw [updatePoint_goodPoints H.head, u32_of_lt]
      split <;> omega
    rw [updatePoints, ih H.tail (by rw [hstep]; split <;> omega), hstep, goodCount, Nat.add_assoc]

theorem updatePoints_initialized (H : Separate points) :
    (updatePoints values i points s).initialized = s.initialized := by
  induction points generalizing i s with
  | nil => rfl
  | cons d points ih =>
    rw [updatePoints, ih H.tail, updatePoint_initialized H.head]

/-! ## A call -/

/-- A setter of another object. -/
theorem view_setPresentValue_of_ne (hobject : object ≠ d.object) (s : Publication)
    (value : PresentValue) : (s.setPresentValue object value).view i d = s.view i d := by
  simp only [Publication.view, Publication.pointReliability, Publication.setPresentValue,
    Function.update_of_ne hobject.symm]

theorem view_faultPoints (s : Publication) (n i : Nat) (d : AtsPointDef) :
    ({ s with faultPoints := n } : Publication).view i d = s.view i d := rfl

/-- The diagnostic objects are no points. -/
theorem PointKind.not_diagnostic (H : PointKind d) (hlow : DIAGNOSTIC_BASE ≤ n)
    (hhigh : n < DIAGNOSTIC_BASE + 4) (type : Nat) : (⟨type, n⟩ : ObjectId) ≠ d.object := by
  intro heq
  have hnumber : n = d.instanceNumber := congrArg ObjectId.instanceNumber heq
  have hrange := H.number
  omega

theorem gatewayBacnetUpdate_view (H : Separate points) (hinit : s.initialized = true)
    (hget : points[i]? = some d) (values : Nat → AtsValue) :
    (gatewayBacnetUpdate legacy points s (some values)).view i d = (s.view i d).update d (values i) := by
  have hkind := H.kind d (List.mem_of_getElem? hget)
  have hloop := @view_updatePoints points i d values 0 H hget { s with goodPoints := 0 }
  rw [Nat.zero_add] at hloop
  unfold gatewayBacnetUpdate
  dsimp only
  rw [if_neg (by simp [hinit]),
    view_setPresentValue_of_ne (hkind.not_diagnostic (Nat.le_refl _) (by decide) _),
    view_setPresentValue_of_ne (hkind.not_diagnostic (by decide) (by decide) _),
    view_setPresentValue_of_ne (hkind.not_diagnostic (by decide) (by decide) _), view_faultPoints]
  exact hloop

theorem gatewayBacnetUpdate_goodPoints (H : Separate points) (hinit : s.initialized = true)
    (values : Nat → AtsValue) :
    (gatewayBacnetUpdate legacy points s (some values)).goodPoints = goodCount values 0 points := by
  have hlength := H.length
  have hsmall : ({ s with goodPoints := 0 } : Publication).goodPoints + points.length < 2 ^ 32 := by
    simp only [GATEWAY_BACNET_MAX_POINTS] at hlength
    show 0 + points.length < 2 ^ 32
    omega
  have hloop := @updatePoints_goodPoints points values 0 _ H hsmall
  unfold gatewayBacnetUpdate
  dsimp only
  rw [if_neg (by simp [hinit])]
  exact hloop.trans (Nat.zero_add _)

theorem gatewayBacnetUpdate_initialized (H : Separate points) :
    (gatewayBacnetUpdate legacy points s values).initialized = s.initialized := by
  unfold gatewayBacnetUpdate
  split
  · rfl
  · split
    · rfl
    · exact updatePoints_initialized H

/-! ## The catalogue -/

theorem validPoint_kind (hpoint : validPoint d = true) (hstates : validStates d = true) :
    PointKind d := by
  simp only [validPoint, Bool.and_eq_true, Bool.or_eq_true, decide_eq_true_eq,
    Bool.not_eq_true', Bool.and_eq_false_iff, decide_eq_false_iff_not] at hpoint
  obtain ⟨⟨⟨⟨⟨htype, _⟩, hnumber⟩, _⟩, _⟩, _⟩ := hpoint
  refine ⟨?_, fun hmulti => ?_, ?_⟩
  · obtain ((h | h) | h) | h := htype
    · exact .inl h
    · exact .inr (.inl h)
    · exact .inr (.inr (.inl h))
    · exact .inr (.inr (.inr h))
  · rw [validStates, if_pos hmulti] at hstates
    split at hstates
    · cases hstates
    · simp only [Bool.and_eq_true, decide_eq_true_eq] at hstates
      have hmax : GATEWAY_BACNET_MAX_STATES < 2 ^ 32 := by decide
      exact Nat.lt_of_le_of_lt hstates.1.2 hmax
  · omega

/-- Two points with one object would clash. -/
theorem object_ne_of_clashes (h : clashes e d = false) : d.object ≠ e.object := by
  intro heq
  have htype : d.objectType = e.objectType := congrArg ObjectId.type heq
  have hnumber : d.instanceNumber = e.instanceNumber := congrArg ObjectId.instanceNumber heq
  simp [clashes, htype, hnumber] at h

theorem validPoints_kind {earlier : List AtsPointDef}
    (h : validPoints name earlier points = true) :
    (∀ d ∈ points, PointKind d) ∧ points.Pairwise (fun d e => d.object ≠ e.object) ∧
      ∀ e ∈ earlier, ∀ d ∈ points, e.object ≠ d.object := by
  induction points generalizing earlier with
  | nil => exact ⟨nofun, .nil, nofun⟩
  | cons d points ih =>
    simp only [validPoints, Bool.and_eq_true, Bool.not_eq_true', List.any_eq_false] at h
    obtain ⟨⟨⟨⟨hpoint, _⟩, hclash⟩, hstates⟩, hrest⟩ := h
    obtain ⟨hkind, hobjects, hearlier⟩ := ih hrest
    have hfirst : ∀ e ∈ earlier, e.object ≠ d.object := fun e he =>
      object_ne_of_clashes (by simpa using hclash e he)
    refine ⟨?_, ?_, ?_⟩
    · intro e he
      cases he with
      | head => exact validPoint_kind hpoint hstates
      | tail _ he => exact hkind e he
    · exact List.pairwise_cons.mpr ⟨hearlier d (by simp), hobjects⟩
    · intro e he d' hd'
      cases hd' with
      | head => exact hfirst e he
      | tail _ hd' => exact hearlier e (List.mem_append_left _ he) d' hd'

theorem Separate.ofCatalog (h : validCatalog points count name = true) :
    Separate (points.take count) := by
  simp only [validCatalog, Bool.and_eq_true, decide_eq_true_eq] at h
  obtain ⟨⟨_, hcount⟩, hpoints⟩ := h
  obtain ⟨hkind, hobjects, _⟩ := validPoints_kind hpoints
  exact ⟨hkind, hobjects, Nat.le_trans (List.length_take_le _ _) hcount⟩

/-- Places with one object are one place. -/
theorem Separate.place_eq {d e : AtsPointDef} {i j : Nat} (H : Separate points)
    (hi : points[i]? = some d) (hj : points[j]? = some e)
    (hobject : d.object = e.object) : i = j := by
  obtain ⟨hilt, rfl⟩ := List.getElem?_eq_some_iff.mp hi
  obtain ⟨hjlt, rfl⟩ := List.getElem?_eq_some_iff.mp hj
  have hpair := List.pairwise_iff_getElem.mp H.objects
  rcases Nat.lt_trichotomy i j with hlt | heq | hlt
  · exact absurd hobject (hpair i j hilt hjlt hlt)
  · exact heq
  · exact absurd hobject.symm (hpair j i hjlt hilt hlt)

/-! ## The quality flag -/

/-- The notification of an object as the point sees it. -/
def PointView.clear (v : PointView) (d : AtsPointDef) (instanceNumber : Nat) : PointView :=
  if d.object = ⟨OBJECT_CHARACTERSTRING_VALUE, instanceNumber⟩ then { v with changed := false }
  else v

theorem catalogIndex_eq_some (h : catalogIndex points instanceNumber = some i) :
    ∃ d, points[i]? = some d ∧ d.object = ⟨OBJECT_CHARACTERSTRING_VALUE, instanceNumber⟩ := by
  obtain ⟨hlt, hp, _⟩ := List.findIdx?_eq_some_iff_getElem.mp h
  have hfound : points[i].objectType = OBJECT_CHARACTERSTRING_VALUE ∧
      points[i].instanceNumber = instanceNumber := by simpa using hp
  exact ⟨points[i], List.getElem?_eq_getElem hlt, by rw [AtsPointDef.object, hfound.1, hfound.2]⟩

/-- `catalog_index` finds the place of a text. -/
theorem catalogIndex_of_text (H : Separate points) (hget : points[i]? = some d)
    (htext : d.object = ⟨OBJECT_CHARACTERSTRING_VALUE, instanceNumber⟩) :
    catalogIndex points instanceNumber = some i := by
  have htype : d.objectType = OBJECT_CHARACTERSTRING_VALUE := congrArg ObjectId.type htext
  have hnumber : d.instanceNumber = instanceNumber := congrArg ObjectId.instanceNumber htext
  cases hindex : catalogIndex points instanceNumber with
  | none =>
    have hnone := List.findIdx?_eq_none_iff.mp hindex d (List.mem_of_getElem? hget)
    simp [htype, hnumber] at hnone
  | some j =>
    obtain ⟨e, he, hobject⟩ := catalogIndex_eq_some hindex
    exact congrArg some (H.place_eq he hget (hobject.trans htext.symm))

theorem csvClear_view (H : Separate points) (hget : points[i]? = some d) (s : Publication)
    (instanceNumber : Nat) :
    (csvClear points s instanceNumber).view i d = (s.view i d).clear d instanceNumber := by
  unfold csvClear PointView.clear
  split
  · next j hindex =>
    obtain ⟨e, he, hobject⟩ := catalogIndex_eq_some hindex
    by_cases htext : d.object = ⟨OBJECT_CHARACTERSTRING_VALUE, instanceNumber⟩
    · have hij : i = j := H.place_eq hget he (htext.trans hobject.symm)
      subst hij
      rw [if_pos htext]
      simp only [Publication.view, Publication.pointReliability, Function.update_self]
    · have hij : i ≠ j := by
        rintro rfl
        exact htext (Option.some.inj (hget.symm.trans he) ▸ hobject)
      rw [if_neg htext]
      simp only [Publication.view, Publication.pointReliability, Function.update_of_ne hij]
  · next hindex =>
    have htext : d.object ≠ ⟨OBJECT_CHARACTERSTRING_VALUE, instanceNumber⟩ := by
      intro htext
      rw [catalogIndex_of_text H hget htext] at hindex
      cases hindex
    rw [if_neg htext]

/-! ## Every run -/

/-- The view of a point after a history, newest first. -/
def viewAfter (stack : ObjectId → PresentValue) (i : Nat) (d : AtsPointDef) :
    List PublishLabel → PointView
  | [] => ⟨stack d.object, .communicationFailure, true⟩
  | .ignored :: h => viewAfter stack i d h
  | .update values :: h => (viewAfter stack i d h).update d (values i)
  | .clear instanceNumber :: h => (viewAfter stack i d h).clear d instanceNumber

/-- The good points after a history. -/
def goodAfter (points : List AtsPointDef) : List PublishLabel → Nat
  | .update values :: _ => goodCount values 0 points
  | _ :: h => goodAfter points h
  | [] => 0

/-- The state shows what the history says. -/
structure PublishInv (stack : ObjectId → PresentValue) (points : List AtsPointDef)
    (h : List PublishLabel) (s : Publication) : Prop where
  initialized : s.initialized = true
  view : ∀ i d, points[i]? = some d → s.view i d = viewAfter stack i d h
  goodPoints : s.goodPoints = goodAfter points h

theorem PublishInv.ofRun (H : Separate points) (run : (publishSystem legacy stack points).Run h s) :
    PublishInv stack points h s := by
  refine StepSystem.Run.invariant (I := PublishInv stack points) ?_ ?_ run
  · rintro _ rfl
    refine ⟨rfl, fun i d _ => ?_, rfl⟩
    simp only [Publication.view, Publication.pointReliability, publicationInit, ite_self, viewAfter]
  · rintro h s a s' _ ⟨hinit, hview, hgood⟩ ⟨i, hnext⟩
    cases i with
    | update values =>
      cases values with
      | none =>
        cases hnext
        exact ⟨hinit, hview, hgood⟩
      | some values =>
        simp only [publishNext, hinit, if_true] at hnext
        cases hnext
        refine ⟨(gatewayBacnetUpdate_initialized H).trans hinit, fun i d hget => ?_, ?_⟩
        · rw [gatewayBacnetUpdate_view H hinit hget, hview i d hget, viewAfter]
        · exact gatewayBacnetUpdate_goodPoints H hinit values
    | clear instanceNumber =>
      cases hnext
      have hkeep : (csvClear points s instanceNumber).initialized = s.initialized ∧
          (csvClear points s instanceNumber).goodPoints = s.goodPoints := by
        unfold csvClear
        split <;> exact ⟨rfl, rfl⟩
      refine ⟨hkeep.1.trans hinit, fun i d hget => ?_, hkeep.2.trans hgood⟩
      rw [csvClear_view H hget, hview i d hget, viewAfter]

/-- After an update the reliability is that of its value, whatever was cleared since. -/
theorem viewAfter_reliability (hlast : ∀ values, .update values ∉ newer) :
    (viewAfter stack i d (newer ++ .update values :: older)).reliability =
      reliabilityOf d (values i) := by
  induction newer with
  | nil => rfl
  | cons a newer ih =>
    have hrest := ih fun values hmem => hlast values (List.mem_cons_of_mem a hmem)
    cases a with
    | ignored => exact hrest
    | update values' => exact absurd List.mem_cons_self (hlast values')
    | clear instanceNumber =>
      rw [List.cons_append, viewAfter, PointView.clear]
      split <;> exact hrest

/-- Labels that show no value of the point. -/
def Unshown (i : Nat) (d : AtsPointDef) (h : List PublishLabel) : Prop :=
  ∀ values, .update values ∈ h → publishes d (values i) = false

theorem viewAfter_value (hother : Unshown i d newer) :
    (viewAfter stack i d (newer ++ older)).value = (viewAfter stack i d older).value := by
  induction newer with
  | nil => rfl
  | cons a newer ih =>
    have hrest := ih fun values hmem => hother values (List.mem_cons_of_mem a hmem)
    cases a with
    | ignored => exact hrest
    | update values =>
      have hvalue := hother values List.mem_cons_self
      rw [List.cons_append, viewAfter, PointView.update, hvalue]
      exact hrest
    | clear instanceNumber =>
      rw [List.cons_append, viewAfter, PointView.clear]
      split <;> exact hrest

/-- A flag that is set stays set until the notification of the point. -/
theorem viewAfter_changed (hset : (viewAfter stack i d older).changed = true)
    (hkept : .clear d.instanceNumber ∉ newer) :
    (viewAfter stack i d (newer ++ older)).changed = true := by
  induction newer with
  | nil => exact hset
  | cons a newer ih =>
    have hrest := ih fun hmem => hkept (List.mem_cons_of_mem a hmem)
    cases a with
    | ignored => exact hrest
    | update values =>
      rw [List.cons_append, viewAfter, PointView.update, hrest, Bool.true_or]
    | clear instanceNumber =>
      rw [List.cons_append, viewAfter, PointView.clear]
      split
      · next hobject =>
        have hnumber : d.instanceNumber = instanceNumber := congrArg ObjectId.instanceNumber hobject
        exact absurd (hnumber ▸ List.mem_cons_self) hkept
      · exact hrest

theorem reliabilityOf_iff (H : PointKind d) (value : AtsValue) :
    (reliabilityOf d value = .noFaultDetected ↔ Trusted d value) ∧
      (reliabilityOf d value = .communicationFailure ↔
        ¬ Trusted d value ∧ value.quality = .comm) ∧
      (reliabilityOf d value = .unreliableOther ↔ ¬ Trusted d value ∧ value.quality ≠ .comm) := by
  rw [← goodValue_iff H]
  unfold reliabilityOf
  split
  · next hgood => simp [hgood]
  · next hgood =>
    split
    · next hcomm => simp [hgood, hcomm]
    · next hcomm => simp [hgood, hcomm]

/-! ## The published state -/

/-- The points without a fault. -/
def noFaultCount (s : Publication) (points : List AtsPointDef) : Nat :=
  points.zipIdx.countP fun p => s.pointReliability p.2 p.1 = .noFaultDetected

theorem goodCount_eq (values : Nat → AtsValue) (i : Nat) (points : List AtsPointDef) :
    goodCount values i points = (points.zipIdx i).countP fun p => goodValue p.1 (values p.2) := by
  induction points generalizing i with
  | nil => rfl
  | cons d points ih => rw [goodCount, List.zipIdx_cons, List.countP_cons, ih, Nat.add_comm]

theorem reliabilityOf_eq (d : AtsPointDef) (value : AtsValue) :
    reliabilityOf d value = .noFaultDetected ↔ goodValue d value = true := by
  unfold reliabilityOf
  split
  · next hgood => simp [hgood]
  · next hgood => split <;> simp [hgood]

theorem goodAfter_eq (stack : ObjectId → PresentValue) (points : List AtsPointDef)
    (h : List PublishLabel) : goodAfter points h = points.zipIdx.countP fun p =>
      (viewAfter stack p.2 p.1 h).reliability = .noFaultDetected := by
  induction h with
  | nil =>
    symm
    simp [goodAfter, viewAfter]
  | cons a h ih =>
    cases a with
    | ignored => exact ih
    | update values =>
      rw [goodAfter, goodCount_eq]
      refine List.countP_congr fun p _ => ?_
      rw [decide_eq_true_eq]
      exact (reliabilityOf_eq p.1 (values p.2)).symm
    | clear instanceNumber =>
      rw [goodAfter, ih]
      · refine List.countP_congr fun p _ => ?_
        have hsame : (viewAfter stack p.2 p.1 (.clear instanceNumber :: h)).reliability =
            (viewAfter stack p.2 p.1 h).reliability := by
          rw [viewAfter, PointView.clear]
          split <;> rfl
        rw [hsame]
      · nofun

theorem PublishInv.noFaultCount (Hs : PublishInv stack points h s) :
    s.goodPoints = noFaultCount s points := by
  rw [Hs.goodPoints, goodAfter_eq stack]
  refine List.countP_congr fun p hp => ?_
  have hview := Hs.view p.2 p.1 (List.mem_zipIdx_iff_getElem?.mp hp)
  have hreliability : s.pointReliability p.2 p.1 = (viewAfter stack p.2 p.1 h).reliability :=
    congrArg PointView.reliability hview
  rw [hreliability]

/-- What is published of the point at place `i` after the history `h`. -/
structure PointPublished (legacy : Bool) (stack : ObjectId → PresentValue)
    (points : List AtsPointDef) (h : List PublishLabel) (s : Publication) (i : Nat)
    (d : AtsPointDef) : Prop where
  /-- The reliability is that of the last value. -/
  reliability : ∀ newer values older, h = newer ++ .update values :: older →
    (∀ values', .update values' ∉ newer) →
    (s.pointReliability i d = .noFaultDetected ↔ Trusted d (values i)) ∧
      (s.pointReliability i d = .communicationFailure ↔
        ¬ Trusted d (values i) ∧ (values i).quality = .comm) ∧
      (s.pointReliability i d = .unreliableOther ↔
        ¬ Trusted d (values i) ∧ (values i).quality ≠ .comm)
  /-- The present value is the last one that qualifies. -/
  shown : ∀ newer values older, h = newer ++ .update values :: older → Qualifies d (values i) →
    (∀ values', .update values' ∈ newer → ¬ Qualifies d (values' i)) →
    Shows d (values i) (s.presentValue d.object)
  /-- Nothing else changes the present value. -/
  kept : (∀ values, .update values ∈ h → ¬ Qualifies d (values i)) →
    s.presentValue d.object = stack d.object
  /-- A text whose reliability has changed is flagged until its notification. -/
  flagged : d.objectType = OBJECT_CHARACTERSTRING_VALUE →
    ∀ newer values older s₀ s₁, h = newer ++ .update values :: older →
    (publishSystem legacy stack points).Run older s₀ →
    (publishSystem legacy stack points).Run (.update values :: older) s₁ →
    s₀.pointReliability i d ≠ s₁.pointReliability i d → .clear d.instanceNumber ∉ newer →
    s.csvQualityChanged i = true ∧
      ∀ valueChanged pending, csvChanged points s valueChanged pending d.instanceNumber = true

theorem bacnet_published (hvalid : validCatalog points count name = true)
    (run : (publishSystem legacy stack (points.take count)).Run h s) :
    s.goodPoints = noFaultCount s (points.take count) ∧
      ∀ i d, (points.take count)[i]? = some d →
        PointPublished legacy stack (points.take count) h s i d := by
  have H := Separate.ofCatalog hvalid
  have Hs := PublishInv.ofRun H run
  refine ⟨Hs.noFaultCount, fun i d hget => ?_⟩
  have hkind := H.kind d (List.mem_of_getElem? hget)
  have hview := Hs.view i d hget
  have hvalue : s.presentValue d.object = (viewAfter stack i d h).value :=
    congrArg PointView.value hview
  have hreliability : s.pointReliability i d = (viewAfter stack i d h).reliability :=
    congrArg PointView.reliability hview
  have hchanged : s.csvQualityChanged i = (viewAfter stack i d h).changed :=
    congrArg PointView.changed hview
  have hunshown : ∀ h', (∀ values, .update values ∈ h' → ¬ Qualifies d (values i)) →
      Unshown i d h' := fun h' hother values hmem => by
    have hnot := hother values hmem
    rwa [← publishes_iff hkind, Bool.not_eq_true] at hnot
  constructor
  case reliability =>
    rintro newer values older rfl hlast
    rw [hreliability, viewAfter_reliability hlast]
    exact reliabilityOf_iff hkind (values i)
  case shown =>
    rintro newer values older rfl hqualifies hother
    have hpublish := (publishes_iff hkind (values i)).mpr hqualifies
    rw [hvalue, viewAfter_value (hunshown newer hother), viewAfter, PointView.update, hpublish]
    exact shows_presented hkind hqualifies.1
  case kept =>
    intro hother
    have hinitial := @viewAfter_value i d h stack [] (hunshown h hother)
    rw [List.append_nil] at hinitial
    exact hvalue.trans hinitial
  case flagged =>
    rintro htext newer values older s₀ s₁ rfl run₀ run₁ hne hkept
    have hbefore := congrArg PointView.reliability ((PublishInv.ofRun H run₀).view i d hget)
    have hafter := congrArg PointView.reliability ((PublishInv.ofRun H run₁).view i d hget)
    have hset : (viewAfter stack i d (.update values :: older)).changed = true := by
      rw [viewAfter, PointView.update, Bool.or_eq_true]
      refine .inr ?_
      have hdiffer : (viewAfter stack i d older).reliability ≠ reliabilityOf d (values i) :=
        fun heq => hne (hbefore.trans (heq.trans hafter.symm))
      simp [htext, hdiffer]
    have hflag := hchanged.trans (viewAfter_changed hset hkept)
    refine ⟨hflag, fun valueChanged pending => ?_⟩
    have hobject : d.object = ⟨OBJECT_CHARACTERSTRING_VALUE, d.instanceNumber⟩ := by
      rw [AtsPointDef.object, htext]
    have hindex := catalogIndex_of_text H hget hobject
    rw [csvChanged, hindex, Option.any_some, hflag, Bool.or_true, Bool.true_or]

/-- A catalogue of one text. -/
def noteCatalog : List AtsPointDef :=
  [{ objectType := OBJECT_CHARACTERSTRING_VALUE, instanceNumber := 7, name := ['N', 'o', 't', 'e']
     description := [], units := 95, stateCount := 0, stateText := none, offset := 0, wordCount := 1
     bitLsb := 0, bitWidth := 0 }]

/-- A text that was read. -/
def noteValue : AtsValue where
  numeric := 0
  text j := if j = 0 then 'A' else '\x00'
  quality := .good
  qualityReason := ""
  lastGoodMs := 0
  rawWords _ := 0x4100
  rawCount := 1

theorem bacnet_published_note : ∃ h s,
    (publishSystem false (fun _ => .binary false) (noteCatalog.take 1)).Run h s ∧
      h = [.clear 7, .update fun _ => noteValue] ∧
      s.goodPoints = noFaultCount s (noteCatalog.take 1) ∧
      ∀ i d, (noteCatalog.take 1)[i]? = some d →
        PointPublished false (fun _ => .binary false) (noteCatalog.take 1) h s i d := by
  have hvalid : validCatalog noteCatalog 1 ['G'] = true := by decide
  have hrun := StepSystem.Run.feed [.update (some fun _ => noteValue), .clear 7]
    (.init (M := publishSystem false (fun _ => .binary false) (noteCatalog.take 1)) rfl)
  exact ⟨_, _, hrun, rfl, bacnet_published hvalid hrun⟩

end ModbusGateway
