import ModbusGateway.Bacnet.Catalog
import ModbusGateway.Verify.SavedConfig

/-!
# The two validators agree

Whatever the configuration parser accepts, the BACnet side accepts: `CatalogOk` is the catalogue check
as a property of the points, and both the ATS points and the points of a parsed map have it.
-/

namespace ModbusGateway

/-! ## The catalogue check -/

/-- Labels that pass the check and can be packed. -/
structure LabelsFit (texts : List CString) : Prop where
  each : ∀ t ∈ texts, t ≠ [] ∧ t.length ≤ GATEWAY_BACNET_STATE_NAME_MAX
  nodup : texts.Nodup
  bytes : 1 + CustomMap.bytes texts ≤ STATE_TEXT_BYTES

theorem validLabels_append (H : LabelsFit (previous ++ texts)) :
    validLabels (previous ++ texts) texts.length previous.length (1 + CustomMap.bytes previous) =
      true := by
  induction texts generalizing previous with
  | nil => rfl
  | cons t texts ih =>
    have hget : (previous ++ t :: texts)[previous.length]? = some t := by
      rw [List.getElem?_append_right (Nat.le_refl _), Nat.sub_self, List.getElem?_cons_zero]
    have htake : (previous ++ t :: texts).take previous.length = previous :=
      List.take_left
    have hbytes := H.bytes
    have hsplit : previous ++ t :: texts = (previous ++ [t]) ++ texts := by simp
    have hsum : CustomMap.bytes (previous ++ t :: texts) =
        CustomMap.bytes previous + (t.length + 1) + CustomMap.bytes texts := by
      simp [CustomMap.bytes, Nat.add_assoc]
    have hnext : 1 + CustomMap.bytes previous + (t.length + 1) =
        1 + CustomMap.bytes (previous ++ [t]) := by
      simp [CustomMap.bytes, Nat.add_assoc]
    obtain ⟨hne, hlen⟩ := H.each t (List.mem_append_right _ List.mem_cons_self)
    have hnew : t ∉ previous := fun hmem =>
      (List.nodup_append.mp H.nodup).2.2 t hmem t List.mem_cons_self rfl
    have hvalid : validString t GATEWAY_BACNET_STATE_NAME_MAX true = true := by
      simp [validString, hne, hlen]
    have htail := ih (hsplit ▸ H)
    rw [← hsplit, List.length_append, List.length_singleton, ← hnext] at htail
    simp only [List.length_cons, validLabels, hget, htake, hvalid, htail, Bool.and_true,
      Bool.true_and, Bool.and_eq_true, decide_eq_true_eq]
    exact ⟨by omega, hnew⟩

theorem packStates_append (hbytes : CustomMap.bytes (previous ++ texts) < STATE_TEXT_BYTES)
    (hstates : states.length = CustomMap.bytes previous) :
    packStates (previous ++ texts) texts.length previous.length states =
      some (states ++ texts.flatMap fun t => t ++ ['\x00']) := by
  induction texts generalizing previous states with
  | nil =>
    rw [List.flatMap_nil, List.append_nil, List.append_nil]
    rfl
  | cons t texts ih =>
    have hget : (previous ++ t :: texts)[previous.length]? = some t := by
      rw [List.getElem?_append_right (Nat.le_refl _), Nat.sub_self, List.getElem?_cons_zero]
    have hsplit : previous ++ t :: texts = (previous ++ [t]) ++ texts := by simp
    have hsum : CustomMap.bytes (previous ++ t :: texts) =
        CustomMap.bytes previous + (t.length + 1) + CustomMap.bytes texts := by
      simp [CustomMap.bytes, Nat.add_assoc]
    have hroom : ¬ states.length + (t.length + 1) ≥ STATE_TEXT_BYTES := by omega
    have hnext : (states ++ t ++ ['\x00']).length = CustomMap.bytes (previous ++ [t]) := by
      simp [CustomMap.bytes, hstates, Nat.add_assoc]
    have htail := ih (hsplit ▸ hbytes) hnext
    rw [← hsplit, List.length_append, List.length_singleton] at htail
    simp only [List.length_cons, packStates, hget, if_neg hroom, htail]
    simp

/-- The catalogue check as a property of one point. -/
structure PointOk (point : AtsPointDef) : Prop where
  valid : validPoint point = true
  states : if point.objectType = OBJECT_MULTI_STATE_INPUT then
      ∃ texts, point.stateText = some texts ∧ point.stateCount = texts.length ∧
        1 ≤ texts.length ∧ texts.length ≤ GATEWAY_BACNET_MAX_STATES ∧ LabelsFit texts
    else point.stateCount = 0 ∧ point.stateText = none

theorem PointOk.validStates (H : PointOk point) : validStates point = true := by
  have hstates := H.states
  unfold ModbusGateway.validStates
  split at hstates
  · next htype =>
    obtain ⟨texts, htexts, hcount, hge, hle, hfit⟩ := hstates
    have hlabels : validLabels ([] ++ texts) texts.length ([] : List CString).length
        (1 + CustomMap.bytes []) = true := validLabels_append hfit
    have hpos : texts.length ≠ 0 := by omega
    simp only [htype, if_true, htexts, hcount, Bool.and_eq_true, decide_eq_true_eq]
    exact ⟨⟨hpos, hle⟩, hlabels⟩
  · next htype =>
    simp [htype, hstates.1, hstates.2]

/-- Every Multi-state Input that passes the check can be created. -/
theorem PointOk.createStates (H : PointOk point)
    (htype : point.objectType = OBJECT_MULTI_STATE_INPUT) :
    ∃ texts, point.stateText = some texts ∧
      createStates point = some (texts.flatMap fun t => t ++ ['\x00']) := by
  have hstates := H.states
  rw [if_pos htype] at hstates
  obtain ⟨texts, htexts, hcount, hge, -, hfit⟩ := hstates
  have hbytes := hfit.bytes
  have hpack : packStates ([] ++ texts) texts.length ([] : List CString).length [] =
      some ([] ++ texts.flatMap fun t => t ++ ['\x00']) :=
    packStates_append (by rw [List.nil_append]; omega) rfl
  refine ⟨texts, htexts, ?_⟩
  unfold ModbusGateway.createStates
  rw [htexts, hcount]
  dsimp only
  rw [if_neg (by omega)]
  exact hpack

/-- The catalogue check as a property of all points. -/
structure CatalogOk (points : List AtsPointDef) (name : CString) : Prop where
  count_ge : 1 ≤ points.length
  count_le : points.length ≤ GATEWAY_BACNET_MAX_POINTS
  each : ∀ p ∈ points, PointOk p
  names : ∀ p ∈ points, p.name ≠ name
  distinct : points.Pairwise fun p q => clashes q p = false

theorem validPoints_append {earlier : List AtsPointDef} (heach : ∀ p ∈ points, PointOk p)
    (hnames : ∀ p ∈ points, p.name ≠ name)
    (hdistinct : (earlier ++ points).Pairwise fun p q => clashes q p = false) :
    validPoints name earlier points = true := by
  induction points generalizing earlier with
  | nil => rfl
  | cons p points ih =>
    have hsplit : earlier ++ p :: points = (earlier ++ [p]) ++ points := by simp
    have hp := heach p List.mem_cons_self
    have hany : earlier.any (clashes p) = false := by
      rw [List.any_eq_false]
      intro q hq
      rw [(List.pairwise_append.mp hdistinct).2.2 q hq p List.mem_cons_self]
      exact Bool.false_ne_true
    have htail := ih (fun q hq => heach q (List.mem_cons_of_mem p hq))
      (fun q hq => hnames q (List.mem_cons_of_mem p hq)) (hsplit ▸ hdistinct)
    have hname := hnames p List.mem_cons_self
    simp [validPoints, hp.valid, hp.validStates, hany, htail, hname]

theorem CatalogOk.validCatalog (H : CatalogOk points name) :
    validCatalog points points.length name = true := by
  have hge := H.count_ge
  have hpoints : validPoints name [] points = true :=
    validPoints_append H.each H.names H.distinct
  have hne : points.length ≠ 0 := by omega
  simp only [ModbusGateway.validCatalog, List.take_length, hpoints, Bool.and_true, Bool.and_eq_true,
    decide_eq_true_eq]
  exact ⟨hne, H.count_le⟩

/-! ## The ATS points -/

instance : Decidable (LabelsFit texts) :=
  decidable_of_iff ((∀ t ∈ texts, t ≠ [] ∧ t.length ≤ GATEWAY_BACNET_STATE_NAME_MAX) ∧
    texts.Nodup ∧ 1 + CustomMap.bytes texts ≤ STATE_TEXT_BYTES)
    ⟨fun h => ⟨h.1, h.2.1, h.2.2⟩, fun h => ⟨h.each, h.nodup, h.bytes⟩⟩

/-- `PointOk` as it can be evaluated. -/
def pointOk (point : AtsPointDef) : Bool :=
  validPoint point &&
    match point.stateText with
    | some texts =>
      point.objectType = OBJECT_MULTI_STATE_INPUT && point.stateCount = texts.length &&
        1 ≤ texts.length && texts.length ≤ GATEWAY_BACNET_MAX_STATES && decide (LabelsFit texts)
    | none => point.objectType ≠ OBJECT_MULTI_STATE_INPUT && point.stateCount = 0

theorem pointOk_sound (h : pointOk point = true) : PointOk point := by
  unfold pointOk at h
  rw [Bool.and_eq_true] at h
  obtain ⟨hvalid, hstates⟩ := h
  refine ⟨hvalid, ?_⟩
  split at hstates
  · next texts htexts =>
    simp only [Bool.and_eq_true, decide_eq_true_eq] at hstates
    obtain ⟨⟨⟨⟨htype, hcount⟩, hge⟩, hle⟩, hfit⟩ := hstates
    rw [if_pos htype]
    exact ⟨texts, htexts, hcount, hge, hle, hfit⟩
  · next htexts =>
    simp only [Bool.and_eq_true, decide_eq_true_eq] at hstates
    rw [if_neg hstates.1]
    exact ⟨hstates.2, htexts⟩

/-- Whether no number is repeated, the bits of `mask` being the numbers seen so far. -/
def freshNumbers (mask : Nat) : List Nat → Bool
  | [] => true
  | h :: hs => !mask.testBit h && freshNumbers (mask ||| 1 <<< h) hs

theorem freshNumbers_sound (h : freshNumbers mask hs = true) :
    hs.Nodup ∧ ∀ n ∈ hs, mask.testBit n = false := by
  induction hs generalizing mask with
  | nil => exact ⟨.nil, fun _ h => (by cases h)⟩
  | cons n hs ih =>
    simp only [freshNumbers, Bool.and_eq_true, Bool.not_eq_true'] at h
    obtain ⟨hnodup, hmask⟩ := ih h.2
    have hbit (m : Nat) (hm : m ∈ hs) : mask.testBit m = false ∧ m ≠ n := by
      have hor := hmask m hm
      rw [Nat.testBit_or, Bool.or_eq_false_iff, Nat.testBit_shiftLeft] at hor
      refine ⟨hor.1, ?_⟩
      rintro rfl
      simp at hor
    refine ⟨List.nodup_cons.mpr ⟨fun hmem => (hbit n hmem).2 rfl, hnodup⟩, fun m hm => ?_⟩
    rcases List.mem_cons.mp hm with rfl | hm
    · exact h.1
    · exact (hbit m hm).1

/-- A number of a name, by which different names of the table are told apart. -/
def nameNumber (s : CString) : Nat := s.foldl (fun n c => n * 7 + c.toNat) 0 % 8191

/-- The characters of the literals of a row. Evaluating a literal is much slower than reading it off. -/
theorem atsPoint_ofList (objectType instanceNumber : Nat) (l d : List Char) (units stateCount : Nat)
    (states : List String) (offset wordCount bitLsb bitWidth : Nat) :
    atsPoint objectType instanceNumber (String.ofList l) (String.ofList d) units stateCount states
      offset wordCount bitLsb bitWidth =
    { objectType, instanceNumber, name := l, description := d, units, stateCount
      stateText := if states.isEmpty then none else some (states.map String.toList)
      offset, wordCount, bitLsb, bitWidth } := by
  rw [atsPoint, String.toList_ofList, String.toList_ofList]

/-- The table passes the checks of its rows, and names and instances are not repeated. -/
structure TableOk (table : List AtsPointDef) : Prop where
  rows : table.all pointOk = true
  names : freshNumbers 0 (table.map fun p => nameNumber p.name) = true
  instances : freshNumbers 0 (table.map AtsPointDef.instanceNumber) = true

theorem TableOk.of_eq (H : ∃ table', List.Forall₂ Eq table table' ∧ TableOk table') :
    TableOk table := by
  obtain ⟨table', heq, hok⟩ := H
  rw [List.forall₂_eq_eq_eq] at heq
  exact heq ▸ hok

theorem TableOk.pointOk (H : TableOk table) (hp : p ∈ table) : PointOk p :=
  pointOk_sound (List.all_eq_true.mp H.rows p hp)

theorem TableOk.distinct (H : TableOk table) :
    table.Pairwise fun p q => clashes q p = false := by
  have hnames := List.pairwise_map.mp (freshNumbers_sound H.names).1
  have hinstances := List.pairwise_map.mp (freshNumbers_sound H.instances).1
  refine (hnames.and hinstances).imp ?_
  rintro p q ⟨hname, hinstance⟩
  have hne : q.name ≠ p.name := fun h => hname (by rw [h])
  simp [clashes, hne, Ne.symm hinstance]

theorem atsPointTable_ok : TableOk atsPointTable := by
  refine TableOk.of_eq ?_
  apply Exists.intro
  apply And.intro
  · dsimp only [atsPointTable]
    repeat apply List.Forall₂.cons (atsPoint_ofList ..)
    exact .nil
  · exact ⟨by decide +kernel, by decide +kernel, by decide +kernel⟩

theorem ofFn_atsPoints : List.ofFn atsPoints = atsPointTable := by
  unfold atsPoints
  exact List.ofFn_get atsPointTable

/-- The ATS points up to a limit, under a name that is not one of theirs. -/
theorem catalogOk_ats (hcount : 1 ≤ count) (hnames : name ∉ ((List.ofFn atsPoints).take count).map
    AtsPointDef.name) : CatalogOk ((List.ofFn atsPoints).take count) name := by
  rw [ofFn_atsPoints] at hnames ⊢
  have hlen := atsPointTable_length
  refine ⟨?_, ?_, ?_, ?_, ?_⟩
  · rw [List.length_take]
    omega
  · rw [List.length_take, hlen]
    exact le_trans (Nat.min_le_right _ _) (by decide)
  · exact fun p hp => atsPointTable_ok.pointOk (List.mem_of_mem_take hp)
  · rintro p hp rfl
    exact hnames (List.mem_map.mpr ⟨p, hp, rfl⟩)
  · exact atsPointTable_ok.distinct.sublist (List.take_sublist _ _)

/-! ## The points of a map -/

theorem RowPoint.pointOk (H : RowPoint strtod row q)
    (hsize : (row.field 11).length < FIELD_BYTES) : PointOk q.pointDef := by
  obtain ⟨-, hge, hle⟩ := (integer_iff (by decide)).mp H.instance_eq
  have hunreserved := H.unreserved
  have hname := H.name
  have hdescription := H.description
  simp only [not_or] at hname
  have htype : q.pointDef.objectType = 0 ∨ q.pointDef.objectType = 3 ∨ q.pointDef.objectType = 13 ∨
      q.pointDef.objectType = 40 := by
    have hparse := H.objectType_eq
    unfold parseObjectType at hparse
    split at hparse
    · exact .inl (Option.some.inj hparse).symm
    · split at hparse
      · exact .inr (.inl (Option.some.inj hparse).symm)
      · split at hparse
        · exact .inr (.inr (.inl (Option.some.inj hparse).symm))
        · split at hparse
          · exact .inr (.inr (.inr (Option.some.inj hparse).symm))
          · cases hparse
  refine ⟨?_, ?_⟩
  · have hinstance : q.pointDef.instanceNumber < BACNET_MAX_INSTANCE := by
      unfold BACNET_MAX_INSTANCE
      omega
    have hdiagnostic : ¬ (DIAGNOSTIC_BASE ≤ q.pointDef.instanceNumber ∧
        q.pointDef.instanceNumber < DIAGNOSTIC_BASE + 4) := by
      unfold DIAGNOSTIC_BASE
      omega
    have hnameLen : q.pointDef.name.length ≤ GATEWAY_BACNET_POINT_NAME_MAX := by
      rw [H.name_eq]
      unfold GATEWAY_BACNET_POINT_NAME_MAX
      omega
    have hnameNe : q.pointDef.name ≠ [] := by
      rw [H.name_eq]
      exact hname.1
    have hprefix : CString.hasPrefix q.pointDef.name "Gateway-".toList = false := by
      rw [H.name_eq]
      exact Bool.eq_false_iff.mpr hname.2.2
    have hdescLen : q.pointDef.description.length ≤ GATEWAY_BACNET_POINT_DESCRIPTION_MAX := by
      rw [H.description_eq]
      unfold GATEWAY_BACNET_POINT_DESCRIPTION_MAX
      omega
    have hobject : (decide (q.pointDef.objectType = OBJECT_ANALOG_INPUT) ||
        decide (q.pointDef.objectType = OBJECT_BINARY_INPUT) ||
        decide (q.pointDef.objectType = OBJECT_MULTI_STATE_INPUT) ||
        decide (q.pointDef.objectType = OBJECT_CHARACTERSTRING_VALUE)) = true := by
      rcases htype with h | h | h | h <;> rw [h] <;> rfl
    have hrange : (decide (DIAGNOSTIC_BASE ≤ q.pointDef.instanceNumber) &&
        decide (q.pointDef.instanceNumber < DIAGNOSTIC_BASE + 4)) = false := by
      rw [Bool.eq_false_iff, Ne, Bool.and_eq_true, decide_eq_true_eq, decide_eq_true_eq]
      exact hdiagnostic
    rw [validPoint, hobject, hrange, hprefix]
    simp [validString, hinstance, hnameLen, hnameNe, hdescLen]
  · have hrowStates := H.states
    have hcount := H.count_eq
    generalize q.pointDef.stateText = texts at hrowStates hcount ⊢
    generalize q.pointDef.objectType = t at hrowStates ⊢
    cases hrowStates with
    | multiState hne hset =>
      have hmax := hset.count
      have hpos := List.length_pos_iff.mpr (List.splitOn_ne_nil '|' (row.field 11))
      rw [if_pos (show 13 = OBJECT_MULTI_STATE_INPUT from rfl)]
      refine ⟨_, rfl, hcount, hpos, ?_, hset.each, hset.nodup, ?_⟩
      · unfold CUSTOM_MAX_STATES at hmax
        unfold GATEWAY_BACNET_MAX_STATES
        omega
      · rw [bytes_splitOn]
        unfold FIELD_BYTES at hsize
        unfold STATE_TEXT_BYTES
        omega
    | none hne =>
      rw [if_neg (show t ≠ OBJECT_MULTI_STATE_INPUT from hne)]
      exact ⟨hcount, rfl⟩

theorem FittingRow.field_lt {row : CsvRow} (H : FittingRow row count) (i : Nat) :
    (row.field i).length < FIELD_BYTES := by
  unfold CsvRow.field
  rw [List.getD_eq_getElem?_getD]
  cases hi : row[i]? with
  | none => decide
  | some s => exact H.fields s (List.mem_of_getElem? hi)

/-- The points of a map, under a name that is not one of theirs. -/
theorem MapText.catalogOk (H : MapText strtod csv points)
    (hnames : ∀ q ∈ points, q.pointDef.name ≠ name) :
    CatalogOk (points.map MapPoint.pointDef) name := by
  obtain ⟨tail, body, -, -, hqs⟩ := H.text
  have hcount := H.ok.count
  refine ⟨?_, ?_, ?_, ?_, ?_⟩
  · rw [List.length_map]
    exact List.length_pos_iff.mpr H.nonempty
  · rw [List.length_map]
    exact le_trans hcount (by decide)
  · intro p hp
    obtain ⟨q, hq, rfl⟩ := List.mem_map.mp hp
    obtain ⟨row, hrow, -, hfits⟩ := hqs.row hq
    exact hrow.pointOk (hfits.field_lt 11)
  · intro p hp
    obtain ⟨q, hq, rfl⟩ := List.mem_map.mp hp
    exact hnames q hq
  · refine List.pairwise_map.mpr (H.ok.distinct.imp ?_)
    rintro p q ⟨hname, hident⟩
    rw [clashes, Bool.or_eq_false_iff, Bool.and_eq_false_iff]
    refine ⟨decide_eq_false (Ne.symm hname), ?_⟩
    rw [decide_eq_false_iff_not, decide_eq_false_iff_not, ← not_and_or]
    exact fun h => hident ⟨h.1.symm, h.2.symm⟩

/-! ## The configuration -/

/-- The catalogue of an accepted configuration. -/
theorem Coherent.catalogOk (H : Coherent env text base out map) :
    CatalogOk (Boot.activePoints ⟨out, map, []⟩) out.deviceName ∧
      Boot.activeCount ⟨out, map, []⟩ = (Boot.activePoints ⟨out, map, []⟩).length := by
  unfold Boot.activePoints Boot.activeCount
  have hpreset := H.preset
  have hlen := atsPointTable_length
  cases hprofile : out.profile with
  | full =>
    rw [hprofile] at hpreset
    have hok : CatalogOk ((List.ofFn atsPoints).take ATS_POINT_COUNT) out.deviceName :=
      catalogOk_ats (by decide) (hpreset (by decide))
    have htake : (List.ofFn atsPoints).take ATS_POINT_COUNT = List.ofFn atsPoints :=
      List.take_of_length_le (by rw [List.length_ofFn]; exact Nat.le_refl _)
    rw [htake] at hok
    exact ⟨hok, List.length_ofFn.symm⟩
  | electrical =>
    rw [hprofile] at hpreset
    refine ⟨catalogOk_ats (by decide) (hpreset (by decide)), ?_⟩
    rw [List.length_take, List.length_ofFn]
    rfl
  | custom =>
    have hcsv : out.csv ≠ [] := by
      intro hempty
      have hcount := H.custom hprofile
      have hmap := H.map_eq
      rw [if_pos hempty] at hmap
      rw [hmap] at hcount
      cases hcount
    have hmap := H.map_eq
    rw [if_neg hcsv] at hmap
    have hparse : parseMap env.strtod true out.csv = .ok map := by
      have hcall := hmap {} 0
      unfold customMapParse at hcall
      split at hcall
      · next parsed hok =>
        cases hcall
        exact hok
      · cases hcall
    obtain ⟨-, points, htext, rfl⟩ := parseMap_eq_ok.mp hparse
    have hresolve := htext.holds.resolve_eq
    have hnames : ∀ q ∈ points, q.pointDef.name ≠ out.deviceName := by
      intro q hq
      have hmem : q.pointDef ∈ points.map MapPoint.pointDef := List.mem_map.mpr ⟨q, hq, rfl⟩
      rw [← hresolve] at hmem
      obtain ⟨e, he, heq⟩ := List.mem_map.mp hmem
      rw [← heq]
      exact H.names e he
    refine ⟨?_, (List.length_map _).symm⟩
    rw [hresolve]
    exact htext.catalogOk hnames

/-- What `bacnet_task` takes from the configuration. -/
structure BacnetConfig.FromBoot (input : BacnetConfig) (boot : Boot) : Prop where
  deviceInstance : input.deviceInstance = boot.settings.deviceInstance
  deviceName : input.deviceName = boot.settings.deviceName
  udpPort : input.udpPort = boot.settings.bacnetPort
  points : input.points = some boot.activePoints
  pointCount : input.pointCount = boot.activeCount

/-- The checks of `gateway_bacnet_init` on what the configuration does not decide. -/
def otherChecks (stack : BacnetStack) (initialized : Bool) (input : BacnetConfig) : Bool :=
  !initialized && input.localIp ≠ 0 && input.peerCount ≤ GATEWAY_BACNET_MAX_PEERS &&
    input.firmwareVersion.all (validString · stack.verLen false) &&
    input.location.all (validString · stack.locLen false) &&
    input.modelName.all (validString · stack.modLen true) &&
    input.description.all (validString · stack.descLen false)

/-- Whatever the configuration parser accepts passes the checks of the BACnet side: the catalogue is
valid, the checks of `gateway_bacnet_init` come down to those the configuration has no part in, and the
state texts of every Multi-state Input can be packed. -/
theorem gatewayConfigParse_bacnet
    (h : gatewayConfigParse env memory text base out map error size = ⟨true, c, parsed, error'⟩) :
    let boot : Boot := ⟨c, parsed, []⟩
    validCatalog boot.activePoints boot.activeCount c.deviceName = true ∧
      (∀ stack initialized input, input.FromBoot boot →
        bacnetInitChecks stack initialized input = otherChecks stack initialized input) ∧
      ∀ p ∈ boot.activePoints, p.objectType = OBJECT_MULTI_STATE_INPUT →
        ∃ texts, p.stateText = some texts ∧
          createStates p = some (texts.flatMap fun t => t ++ ['\x00']) := by
  intro boot
  have hcoherent : Coherent env text base c parsed := by
    obtain ⟨c', parsed', hc, heq⟩ := gatewayConfigParse_ok (congrArg ConfigResult.ok h)
    rw [h, ConfigResult.mk.injEq] at heq
    obtain ⟨-, rfl, rfl, -⟩ := heq
    exact configCandidate_coherent hc
  obtain ⟨hcatalog, hcount⟩ := hcoherent.catalogOk
  have hvalid : validCatalog boot.activePoints boot.activeCount c.deviceName = true := by
    change Boot.activeCount boot = _ at hcount
    rw [hcount]
    exact hcatalog.validCatalog
  refine ⟨hvalid, ?_, fun p hp htype => (hcatalog.each p hp).createStates htype⟩
  intro stack initialized input hinput
  obtain ⟨members, -, hfields⟩ := hcoherent.json
  have hinstance : input.deviceInstance < BACNET_MAX_INSTANCE := by
    rw [hinput.deviceInstance]
    have hle := hfields.deviceInstance.le_high
    unfold BACNET_MAX_INSTANCE
    change c.deviceInstance < _
    omega
  have hname : validString input.deviceName 95 true = true := by
    rw [hinput.deviceName]
    have hlen := hfields.name.length_lt
    have hne := hfields.name.nonempty
    have hle : c.deviceName.length ≤ 95 := by omega
    simp [validString, boot, hne, hle]
  have hprefix : CString.hasPrefix input.deviceName "Gateway-".toList = false := by
    rw [hinput.deviceName]
    exact Bool.eq_false_iff.mpr hfields.name_unreserved
  have hport : input.udpPort ≠ 0 := by
    rw [hinput.udpPort]
    have hge := hfields.bacnetPort.low_le
    change c.bacnetPort ≠ 0
    omega
  have hpointCount : (input.pointCount == 0) = false := by
    have hge := hcatalog.count_ge
    rw [hinput.pointCount]
    change (Boot.activeCount boot == 0) = false
    change Boot.activeCount boot = _ at hcount
    rw [hcount, beq_eq_false_iff_ne]
    change (Boot.activePoints boot).length ≠ 0
    change 1 ≤ (Boot.activePoints boot).length at hge
    omega
  have hnone : (input.points.isNone == (input.pointCount == 0)) = true := by
    rw [hpointCount, hinput.points]
    rfl
  have hcatalogInput : validCatalog boot.activePoints input.pointCount input.deviceName = true := by
    rw [hinput.pointCount, hinput.deviceName]
    exact hvalid
  rw [bacnetInitChecks, validInput, otherChecks, hprefix, hname, hnone, hinput.points]
  simp only [hcatalogInput, hinstance, hport, decide_true, Bool.and_true, Bool.not_false, ne_eq,
    not_false_eq_true]

theorem gatewayConfigParse_bacnet_voltage : ∃ csv map,
    gatewayConfigParse (defaultEnv strtodTwo) ⟨true, true, true, true⟩
      (flatText (gatewayConfigJson (customConfig csv) true)) gatewayConfigDefaults
      gatewayConfigDefaults {} [] SAVE_ERROR_BYTES = ⟨true, customConfig csv, map, []⟩ ∧
    let boot : Boot := ⟨customConfig csv, map, []⟩
    validCatalog boot.activePoints boot.activeCount gatewayConfigDefaults.deviceName = true := by
  obtain ⟨csv, map, hcsv, hmap, hnames⟩ := voltageRow_map
  have hparse : gatewayConfigParse (defaultEnv strtodTwo) ⟨true, true, true, true⟩
      (flatText (gatewayConfigJson (customConfig csv) true)) gatewayConfigDefaults
      gatewayConfigDefaults {} [] SAVE_ERROR_BYTES = ⟨true, customConfig csv, map, []⟩ := by
    rw [gatewayConfigParse, customConfig_accepted hmap hcsv hnames]
    rfl
  exact ⟨csv, map, hparse, (gatewayConfigParse_bacnet hparse).1⟩

end ModbusGateway
