import ModbusGateway.Verify.MapSpec

/-!
# The round trip of a map

A text that renders valid points is parsed into a map that shows exactly these points, and no text at
all can exhaust the string storage.
-/

namespace ModbusGateway

open Checks

namespace PointSpec
variable {p : PointSpec} {row : CsvRow}

/-- The point as the parser stores it. -/
def toMapPoint (p : PointSpec) : MapPoint where
  pointDef := {
    objectType := p.object.code
    instanceNumber := p.instanceNumber
    name := p.name
    description := p.description
    units := p.units
    stateCount := p.states.length
    stateText := if p.states = [] then none else some p.states
    offset := p.address
    wordCount := p.words
    bitLsb := p.bit
    bitWidth := if p.kind = .bit then 1 else 0 }
  point := {
    dataType := p.kind
    function := p.function
    order := p.order.code
    length := p.length
    pollMs := p.pollMs
    scale := p.scale
    offset := p.offset }

theorem words_eq (p : PointSpec) : p.words = wordCount p.kind p.length := by
  unfold words wordCount
  cases p.kind <;> rfl

end PointSpec

theorem parseObjectType_text (k : ObjectKind) : parseObjectType k.text = some k.code := by
  cases k <;> rfl

theorem parseDataType_text (kind : CustomDataType) : parseDataType kind.text = some kind := by
  cases kind <;> rfl

/-- The checks of the parser on function, type and object. -/
def SourceChecks (objectType function : Nat) (kind : CustomDataType) : Prop :=
  ¬ (function ≤ 2 ∧ (kind ≠ .bool ∨ objectType ≠ 3)) ∧
    ¬ (function ≥ 3 ∧ kind = .bool) ∧
    ¬ decide (objectType = 40) ≠ decide (kind = .ascii) ∧
    ¬ (objectType = 3 ∧ kind ≠ .bit ∧ kind ≠ .bool) ∧
    ¬ (objectType = 13 ∧ kind.index > CustomDataType.s32.index) ∧
    ¬ (objectType = 0 ∧ kind.index > CustomDataType.f32.index)

instance : Decidable (SourceChecks objectType function kind) :=
  inferInstanceAs (Decidable (_ ∧ _))

theorem ReadableAs.sourceChecks (H : ReadableAs k function kind) :
    SourceChecks k.code function kind := by
  cases H with
  | discrete h => rcases h with rfl | rfl <;> decide
  | bit h => rcases h with rfl | rfl <;> decide
  | text h => rcases h with rfl | rfl <;> decide
  | number h hk =>
    revert kind
    rcases h with rfl | rfl <;> decide
  | state h hk =>
    revert kind
    rcases h with rfl | rfl <;> decide

theorem ReadableAs.function_range (H : ReadableAs k function kind) :
    1 ≤ function ∧ function ≤ 4 := by
  cases H <;> omega

theorem Ordered.rowOrder_eq {row : CsvRow} (H : Ordered kind order)
    (hrow : row.field 6 = order.text) : rowOrder row kind = .ok order.code := by
  unfold rowOrder
  rw [hrow]
  cases H with
  | bool => rfl
  | word hk ho =>
    simp only [List.mem_cons, List.not_mem_nil, or_false] at hk ho
    rcases hk with rfl | rfl | rfl | rfl <;> rcases ho with rfl | rfl <;> rfl
  | double hk ho =>
    simp only [List.mem_cons, List.not_mem_nil, or_false] at hk ho
    rcases hk with rfl | rfl | rfl <;> rcases ho with rfl | rfl | rfl | rfl <;> rfl

namespace PointSpec
variable {p : PointSpec} {row : CsvRow}

/-- Every documented combination passes the checks on function, type and object. -/
theorem IsRow.source (H : p.IsRow strtod row) (hp : p.Valid) :
    SourceOk row p.object.code p.function p.address p.kind := by
  have haddress := hp.address_le
  have hkind : parseDataType (row.field 5) = some p.kind := by
    rw [H.kind]
    exact parseDataType_text p.kind
  have hwords : 1 ≤ p.words := by
    have hlen := hp.length_iff
    unfold words
    cases hk : p.kind <;> simp only [hk, reduceCtorEq, iff_true] at hlen ⊢ <;> omega
  obtain ⟨h₁, h₂, h₃, h₄, h₅, h₆⟩ := hp.readable.sourceChecks
  exact ⟨(integer_iff (by decide)).mpr ⟨H.function, hp.readable.function_range⟩,
    (integer_iff (by decide)).mpr ⟨H.address, Nat.zero_le _, by omega⟩, hkind, h₁, h₂, h₃, h₄, h₅, h₆⟩

theorem IsRow.scaling (H : p.IsRow strtod row) (hp : p.Valid) :
    ScalingOk strtod row p.object.code p.kind p.scale p.offset p.units := by
  refine ⟨H.scale, H.offset, ?_, ?_, ?_⟩
  · rintro ⟨hunscaled, hne⟩
    obtain ⟨hscale, hoffset⟩ := hp.unscaled hunscaled
    rcases hne with hne | hne
    · rw [bne, hscale] at hne
      cases hne
    · rw [bne, hoffset] at hne
      cases hne
  · unfold rowUnits
    rcases H.units with hdec | ⟨hempty, hunits⟩
    · rw [if_neg hdec.nonempty, require_eq_ok]
      exact (integer_iff (by decide)).mpr ⟨hdec, Nat.zero_le _, hp.units_le⟩
    · rw [if_pos hempty, hunits]
  · rintro ⟨hobject, hunits⟩
    refine hunits (hp.unitless fun h => hobject ?_)
    rw [h]
    rfl

theorem IsRow.layout (H : p.IsRow strtod row) (hp : p.Valid) :
    LayoutOk row p.address p.kind p.toMapPoint.layout := by
  have haddress := hp.address_le
  have hbit : rowBit row p.kind = .ok p.bit := by
    have hfield := H.bit
    unfold rowBit
    split
    · next hk =>
      rw [if_pos hk] at hfield
      exact require_eq_ok.mpr ((integer_iff (by decide)).mpr ⟨hfield, Nat.zero_le _, hp.bit_le⟩)
    · next hk =>
      rw [if_neg hk] at hfield
      rw [if_pos hfield, hp.bit_eq hk]
  have hlength : rowLength row p.kind = .ok p.length := by
    have hfield := H.length
    unfold rowLength
    split
    · next hk =>
      rw [if_pos hk] at hfield
      exact require_eq_ok.mpr
        ((integer_iff (by decide)).mpr ⟨hfield, hp.length_iff.mpr hk, hp.length_le⟩)
    · next hk =>
      rw [if_neg hk] at hfield
      have hzero : p.length = 0 := by
        have hiff := hp.length_iff
        by_contra hne
        exact hk (hiff.mp (by omega))
      rw [if_pos hfield, hzero]
  have hpoll : integer (row.field 13) 1000 3600000 = some p.pollMs :=
    (integer_iff (by decide)).mpr ⟨H.pollMs, hp.poll_ge, hp.poll_le⟩
  refine ⟨hbit, hlength, ?_, hp.ordered.rowOrder_eq H.order, hpoll, rfl, p.words_eq⟩
  have hwords := p.words_eq
  change ¬ wordCount p.kind p.length + p.address > 65536
  omega

theorem IsRow.rowStates (H : p.IsRow strtod row) (hp : p.Valid) :
    RowStates row p.object.code (if p.states = [] then none else some p.states) := by
  by_cases hs : p.states = []
  · have hobject : p.object.code ≠ 13 := by
      have hne : p.object ≠ .multiStateInput := fun h => hp.states_iff.mpr h hs
      cases hk : p.object <;> simp_all [ObjectKind.code] <;> decide
    rw [if_pos hs]
    refine .none hobject ?_
    rw [H.states, hs]
    rfl
  · have hobject := hp.states_iff.mp hs
    have hsplit : (row.field 11).splitOn '|' = p.states := by
      rw [H.states]
      exact List.splitOn_intercalate '|' (fun s h => (hp.states_each s h).2.2) hs
    have hset : LabelSet ((row.field 11).splitOn '|') := by
      rw [hsplit]
      refine ⟨fun t ht => ?_, hp.states_nodup, hp.states_count⟩
      obtain ⟨hge, hle, -⟩ := hp.states_each t ht
      exact ⟨List.ne_nil_of_length_pos hge, hle⟩
    have hne : row.field 11 ≠ [] := by
      intro h
      rw [h] at hsplit hset
      exact (hset.each [] (List.mem_singleton.mpr rfl)).1 rfl
    rw [if_neg hs, hobject, ← hsplit]
    exact .multiState hne hset

/-- A documented row of a valid point is a valid row of the parser. -/
theorem IsRow.rowPoint (H : p.IsRow strtod row) (hp : p.Valid) :
    RowPoint strtod row p.toMapPoint := by
  have hname : ¬ (row.field 1 = [] ∨ (row.field 1).length > 63 ∨
      CString.hasPrefix (row.field 1) "Gateway-".toList = true) := by
    have hge := hp.name_ge
    have hle := hp.name_le
    rw [H.name]
    rintro (h | h | h)
    · rw [h] at hge
      cases hge
    · omega
    · exact hp.name_unreserved (List.isPrefixOf_iff_prefix.mp h)
  have hobject : parseObjectType (row.field 2) = some p.object.code := by
    rw [H.object]
    exact parseObjectType_text p.object
  have hdescription := hp.description_le
  have hunreserved := hp.unreserved
  refine ⟨(integer_iff (by decide)).mpr ⟨H.instanceNumber, hp.instance_ge, hp.instance_le⟩, ?_,
    hname, ?_, hobject, H.source hp, H.scaling hp, H.layout hp, H.rowStates hp, H.name.symm,
    H.description.symm, ?_⟩
  · rintro ⟨hge, hle⟩
    change 9001 ≤ p.instanceNumber at hge
    change p.instanceNumber ≤ 9004 at hle
    omega
  · rw [H.description]
    omega
  · by_cases hs : p.states = []
    · simp [toMapPoint, hs]
    · simp [toMapPoint, hs]

end PointSpec

/-! ## Maps -/

theorem ObjectKind.code_injective {k k' : ObjectKind} (h : k.code = k'.code) : k = k' := by
  cases k <;> cases k' <;> first
    | rfl
    | cases h

theorem ValidPoints.mapOk (H : ValidPoints points) : MapOk (points.map PointSpec.toMapPoint) := by
  have hdistinct : points.Pairwise fun p q => p.name ≠ q.name ∧
      ¬ (p.object.code = q.object.code ∧ p.instanceNumber = q.instanceNumber) := by
    refine (H.names.and H.identifiers).imp ?_
    rintro p q ⟨hname, hident⟩
    refine ⟨hname, fun h => hident ?_⟩
    rw [ObjectKind.code_injective h.1, h.2]
  refine ⟨?_, List.pairwise_map.mpr hdistinct, ?_⟩
  · rw [List.length_map]
    exact H.count_le
  · rw [List.map_map]
    exact H.states

/-- A rendering of valid points is a text of these points. -/
theorem Rendering.mapText (H : Rendering strtod points csv) (hpoints : ValidPoints points)
    (hsize : csv.length ≤ CUSTOM_MAX_CSV_BYTES) :
    MapText strtod csv (points.map PointSpec.toMapPoint) := by
  obtain ⟨e, rows, body, htext, heol, hlines, hrows⟩ := H
  have hvalid := hpoints.each
  have hfits : ∀ row ∈ rows, FittingRow row FIELD_COUNT := by
    clear hpoints hlines hvalid
    induction hrows with
    | nil => exact fun _ h => (by cases h)
    | cons hrow _ ih =>
      intro row hmem
      rcases List.mem_cons.mp hmem with rfl | hmem
      · exact hrow.fits
      · exact ih row hmem
  have hrows' : List.Forall₂ (RowPoint strtod) rows (points.map PointSpec.toMapPoint) := by
    clear hpoints hlines hfits
    induction hrows with
    | nil => exact .nil
    | cons hrow _ ih =>
      exact .cons (hrow.rowPoint (hvalid _ List.mem_cons_self))
        (ih fun p hp => hvalid p (List.mem_cons_of_mem _ hp))
  refine ⟨hsize, ⟨e ++ body, body, htext, .inr ⟨e, heol, rfl⟩, rows, hlines, hfits, hrows'⟩,
    hpoints.mapOk, ?_⟩
  have hcount := hpoints.count_ge
  rintro h
  rw [List.map_eq_nil_iff.mp h] at hcount
  cases hcount

theorem CustomMap.EntryOf.shows {map : CustomMap} {p : PointSpec} (H : map.EntryOf e p.toMapPoint) :
    map.Shows e p := by
  obtain ⟨hpoint, hname, hdescription, hstates, -, htype, hinstance, hunits, hcount, hoffset, hwords,
    hlsb, hwidth⟩ := H
  exact ⟨hinstance, hname, hdescription, htype, by rw [hpoint]; rfl, hoffset, by rw [hpoint]; rfl,
    hwords, by rw [hpoint]; rfl, by rw [hpoint]; rfl, by rw [hpoint]; rfl, hunits, hlsb, hwidth,
    hcount, hstates, by rw [hpoint]; rfl, by rw [hpoint]; rfl⟩

/-! ## String storage -/

/-- The error of an exhausted string area. -/
def storageLimit : String := "String storage limit exceeded"

theorem addLabels_avoids {map : CustomMap} {texts : List CString}
    (hspace : map.stringsUsed + CustomMap.bytes texts ≤ STRINGS_BYTES) :
    Avoids storageLimit (addLabels first texts count map) := by
  induction texts generalizing map count with
  | nil => exact .ok _
  | cons s texts ih =>
    have hbytes : CustomMap.bytes (s :: texts) = s.length + 1 + CustomMap.bytes texts := by
      rw [CustomMap.bytes, CustomMap.bytes, List.map_cons, List.sum_cons]
    have hsave : saveString map s = some (map.stringsUsed, map.push s) :=
      saveString_eq_some.mpr ⟨by omega, rfl, rfl⟩
    have hused : (map.pushLabel s).stringsUsed = map.stringsUsed + (s.length + 1) :=
      map.push_stringsUsed s
    unfold addLabels
    refine .bind (.reject (by decide)) fun _ _ => .bind (.reject (by decide)) fun _ _ => ?_
    rw [hsave]
    exact ih (hused ▸ by omega)

theorem checkUnique_avoids :
    Avoids storageLimit (checkUnique map name objectType instanceNumber entries) := by
  induction entries with
  | nil => exact .ok _
  | cons e entries ih =>
    exact .bind (.reject (by decide)) fun _ _ => .bind (.reject (by decide)) fun _ _ => ih

theorem rowIdentity_avoids : Avoids storageLimit (rowIdentity map row) := by
  unfold rowIdentity
  refine .bind (.reject (by decide)) fun _ _ => .bind (.require (by decide)) fun _ _ => ?_
  refine .bind (.reject (by decide)) fun _ _ => .bind (.reject (by decide)) fun _ _ => ?_
  refine .bind (.reject (by decide)) fun _ _ => .bind (.require (by decide)) fun _ _ => ?_
  exact .bind checkUnique_avoids fun _ _ => .ok _

theorem rowSource_avoids : Avoids storageLimit (rowSource row objectType) := by
  unfold rowSource
  refine .bind (.require (by decide)) fun _ _ => .bind (.require (by decide)) fun _ _ => ?_
  refine .bind (.require (by decide)) fun _ _ => .bind (.reject (by decide)) fun _ _ => ?_
  refine .bind (.reject (by decide)) fun _ _ => .bind (.reject (by decide)) fun _ _ => ?_
  refine .bind (.reject (by decide)) fun _ _ => .bind (.reject (by decide)) fun _ _ => ?_
  exact .bind (.reject (by decide)) fun _ _ => .ok _

theorem rowScaling_avoids : Avoids storageLimit (rowScaling strtod row objectType kind) := by
  have hunits : Avoids storageLimit (rowUnits row) := by
    unfold rowUnits
    split
    · exact .ok _
    · exact .require (by decide)
  unfold rowScaling
  refine .bind (.require (by decide)) fun _ _ => .bind (.require (by decide)) fun _ _ => ?_
  refine .bind (.reject (by decide)) fun _ _ => .bind hunits fun _ _ => ?_
  exact .bind (.reject (by decide)) fun _ _ => .ok _

theorem rowLayout_avoids : Avoids storageLimit (rowLayout row offset kind) := by
  have hbit : Avoids storageLimit (rowBit row kind) := by
    unfold rowBit
    split
    · exact .require (by decide)
    · split
      · exact .ok _
      · exact .error (by decide)
  have hlength : Avoids storageLimit (rowLength row kind) := by
    unfold rowLength
    split
    · exact .require (by decide)
    · split
      · exact .ok _
      · exact .error (by decide)
  have horder : Avoids storageLimit (rowOrder row kind) := by
    unfold rowOrder
    dsimp only
    repeat' split
    all_goals first
      | exact .ok _
      | exact .error (by decide)
  unfold rowLayout
  refine .bind hbit fun _ _ => .bind hlength fun _ _ => .bind (.reject (by decide)) fun _ _ => ?_
  exact .bind horder fun _ _ => .bind (.require (by decide)) fun _ _ => .ok _

theorem rowStates_avoids {map : CustomMap} {row : CsvRow}
    (hspace : map.stringsUsed + ((row.field 11).length + 1) ≤ STRINGS_BYTES) :
    Avoids storageLimit (rowStates map row objectType) := by
  unfold rowStates
  split
  · refine .bind (.reject (by decide)) fun _ _ => .bind (addLabels_avoids ?_) fun _ _ => .ok _
    rw [bytes_splitOn]
    exact hspace
  · exact .bind (.reject (by decide)) fun _ _ => .ok _

/-- Under the invariant of the loop a row finds room for its strings. -/
theorem LoopInv.addRow_avoids {map : CustomMap} (H : LoopInv map points csv)
    (hrow : readRow csv = some (row, rest)) : Avoids storageLimit (addRow strtod map row) := by
  have hspace := H.row_space hrow
  have hbytes : STRINGS_BYTES = CUSTOM_MAX_CSV_BYTES + 1 := rfl
  unfold CsvRow.storedBytes at hspace
  have hname : saveString map (row.field 1) = some (map.stringsUsed, map.push (row.field 1)) :=
    saveString_eq_some.mpr ⟨by omega, rfl, rfl⟩
  have hpush := map.push_stringsUsed (row.field 1)
  have hdescription : saveString (map.push (row.field 1)) (row.field 14) =
      some ((map.push (row.field 1)).stringsUsed,
        (map.push (row.field 1)).push (row.field 14)) :=
    saveString_eq_some.mpr ⟨by omega, rfl, rfl⟩
  have hpush₂ := (map.push (row.field 1)).push_stringsUsed (row.field 14)
  unfold addRow
  refine .bind rowIdentity_avoids fun _ _ => .bind rowSource_avoids fun _ _ => ?_
  refine .bind rowScaling_avoids fun _ _ => .bind rowLayout_avoids fun _ _ => ?_
  rw [hname]
  dsimp only [require, bind, Except.bind]
  rw [hdescription]
  have hstates (t : Nat) : Avoids storageLimit
      (rowStates ((map.push (row.field 1)).push (row.field 14)) row t) :=
    rowStates_avoids (by omega)
  exact .bind (hstates _) fun _ _ => .ok _

theorem parseRows_avoids {map : CustomMap} (H : LoopInv map points csv) :
    parseRows strtod line map csv ≠ .error (line', storageLimit) := by
  induction hn : csv.length using Nat.strong_induction_on generalizing csv map points line with
  | h n ih =>
  subst hn
  by_cases hcsv : csv = []
  · rw [hcsv, parseRows_nil]
    split
    · intro h
      injection h with h
      injection h with _ h
      exact absurd h (by decide)
    · intro h
      cases h
  · cases hrow : readRow csv with
    | none =>
      rw [parseRows_none hcsv hrow]
      intro h
      injection h with h
      injection h with _ h
      exact absurd h (by decide)
    | some r =>
      obtain ⟨row, rest⟩ := r
      have hrowAvoids : Avoids storageLimit (addRow strtod map row) := H.addRow_avoids hrow
      rw [parseRows_some hcsv hrow]
      split
      · next why hadd =>
        intro h
        injection h with h
        injection h with _ h
        exact hrowAvoids (h ▸ hadd)
      · next m hadd =>
        obtain ⟨q, hq, hadm, rfl⟩ := (H.addRow_eq_ok hrow).mp hadd
        exact ih _ (readRow_lt hrow) (H.append hrow hq hadm) rfl

/-- No text exhausts the string storage. -/
theorem parseMap_avoids : parseMap strtod memory csv ≠ .error (line, storageLimit) := by
  have hother (l : Nat) (why : String) (h : why ≠ storageLimit) :
      (.error (l, why) : Except (Nat × String) CustomMap) ≠ .error (line, storageLimit) := by
    intro heq
    injection heq with heq
    injection heq with _ heq
    exact h heq
  unfold parseMap
  split
  · exact hother _ _ (by decide)
  · next hsize =>
    split
    · exact hother _ _ (by decide)
    · split
      · exact hother _ _ (by decide)
      · split
        · exact hother _ _ (by decide)
        · next hrow =>
          have hle := readRow_lt hrow
          exact parseRows_avoids (loopInv_empty (by omega))

/-! ## The round trip -/

theorem Rendering.customMapParse_eq (H : Rendering strtod points csv) (hpoints : ValidPoints points)
    (hsize : csv.length ≤ CUSTOM_MAX_CSV_BYTES) (map : CustomMap) (errorSize : Nat) :
    customMapParse strtod true map csv errorSize =
      (true, CustomMap.ofPoints (points.map PointSpec.toMapPoint), []) := by
  unfold customMapParse
  rw [parseMap_eq_ok.mpr ⟨rfl, _, H.mapText hpoints hsize, rfl⟩]

/-- Every rendering of valid points within the size limit is parsed into a map of exactly these points,
and the storage error is not an outcome of the parser at all. -/
theorem customMapParse_roundTrip (strtod : Strtod) :
    (∀ points csv map errorSize, ValidPoints points → Rendering strtod points csv →
      csv.length ≤ CUSTOM_MAX_CSV_BYTES →
      ∃ parsed, customMapParse strtod true map csv errorSize = (true, parsed, []) ∧
        List.Forall₂ parsed.Shows parsed.entries points) ∧
    ∀ memory text line, text.length ≤ CUSTOM_MAX_CSV_BYTES →
      parseMap strtod memory text ≠ .error (line, "String storage limit exceeded") := by
  refine ⟨?_, fun _ _ _ _ => parseMap_avoids⟩
  intro points csv map errorSize hpoints hcsv hsize
  have htext := hcsv.mapText hpoints hsize
  have hholds := htext.holds
  refine ⟨_, hcsv.customMapParse_eq hpoints hsize map errorSize, ?_⟩
  have hentries := List.forall₂_map_right_iff.mp hholds.entries
  exact hentries.imp fun _ _ h => h.shows

/-- A voltage in steps of two. -/
def voltageSpec : PointSpec where
  instanceNumber := 100
  name := "Voltage".toList
  object := .analogInput
  function := 3
  address := 0
  kind := .u16
  order := .AB
  scale := 2
  offset := 0
  units := 5
  bit := 0
  states := []
  length := 0
  pollMs := 1000
  description := "Phase A".toList

def voltageRow : CsvRow :=
  ["100", "Voltage", "AI", "3", "0", "u16", "AB", "2", "", "5", "", "", "", "1000",
    "Phase A"].map String.toList

/-- `strtod` on the numbers of this row. -/
def strtodTwo : Strtod := fun s => if s = ['2'] then ⟨2, 1, false⟩ else ⟨0, 0, false⟩

theorem voltageSpec_isValid : voltageSpec.Valid where
  instance_ge := by decide
  instance_le := by decide
  unreserved := by decide
  name_ge := by decide
  name_le := by decide
  name_unreserved := by decide +kernel
  description_le := by decide
  readable := .number (.inl rfl) (by decide)
  address_le := by decide
  ordered := .word (by decide) (by decide)
  unscaled := by
    rintro (h | h | h) <;> cases h
  units_le := by decide
  unitless := fun h => absurd rfl h
  bit_le := by decide
  bit_eq := fun _ => rfl
  states_count := by decide
  states_each := fun _ h => (by cases h)
  states_nodup := .nil
  states_iff := by decide
  length_le := by decide
  length_iff := by decide
  poll_ge := by decide
  poll_le := by decide

theorem voltageSpec_valid : ValidPoints [voltageSpec] := by
  refine ⟨fun p hp => ?_, by decide, by decide, List.pairwise_singleton _ _,
    List.pairwise_singleton _ _, by decide⟩
  cases List.mem_singleton.mp hp
  exact voltageSpec_isValid

theorem voltageRow_isRow : voltageSpec.IsRow strtodTwo voltageRow where
  fits := ⟨rfl, by decide +kernel⟩
  instanceNumber := ⟨by decide, by decide, rfl⟩
  name := rfl
  object := rfl
  function := ⟨by decide, by decide, rfl⟩
  address := ⟨by decide, by decide, rfl⟩
  kind := rfl
  order := rfl
  scale := by
    have hgood : ¬ ((strtodTwo ['2']).errno = true ∨ (strtodTwo ['2']).used = 0 ∨
        (strtodTwo ['2']).used < 1 ∨ ¬ (strtodTwo ['2']).value.isFinite = true) := by
      decide +kernel
    exact (if_neg (by decide)).trans (if_neg hgood)
  offset := rfl
  units := .inl ⟨by decide, by decide, rfl⟩
  bit := rfl
  states := rfl
  length := rfl
  pollMs := ⟨by decide, by decide, rfl⟩
  description := rfl

theorem voltageRow_rendering : Rendering strtodTwo [voltageSpec]
    (CUSTOM_CSV_HEADER ++ (['\n'] ++ [','].intercalate voltageRow)) :=
  ⟨['\n'], [voltageRow], _, rfl, .lf,
    .last (Csv.Row.bare (by decide) (by decide +kernel)), .cons voltageRow_isRow .nil⟩

theorem customMapParse_roundTrip_voltage :
    ∃ parsed, customMapParse strtodTwo true {}
        (CUSTOM_CSV_HEADER ++ (['\n'] ++ [','].intercalate voltageRow)) 192 = (true, parsed, []) ∧
      List.Forall₂ parsed.Shows parsed.entries [voltageSpec] :=
  (customMapParse_roundTrip strtodTwo).1 _ _ _ _ voltageSpec_valid voltageRow_rendering
    (by decide +kernel)

end ModbusGateway
