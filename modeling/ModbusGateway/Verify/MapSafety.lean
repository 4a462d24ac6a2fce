import ModbusGateway.Custom.Access
import ModbusGateway.Modbus.Frame
import ModbusGateway.Verify.MapRoundTrip
import ModbusGateway.Verify.CustomSamples

/-!
# Accepted maps are safe

What the parser accepts can be polled and decoded: the request builder takes every point of it, and
the decoder stays inside the response and inside the arrays of a value. `Decodable` is what both need
of a point; the checks of the parser establish it.
-/

namespace ModbusGateway

/-- What the decoder and the request builder rely on. -/
structure Decodable (d : CustomDef) (p : CustomPoint) : Prop where
  function_ge : 1 ≤ p.function
  function_le : p.function ≤ 4
  offset_le : d.offset + d.wordCount ≤ 65536
  words_ge : 1 ≤ d.wordCount
  words_le : d.wordCount ≤ ATS_MAX_POINT_WORDS
  text_le : p.length ≤ 2 * ATS_MAX_POINT_WORDS
  text_words : p.dataType = .ascii → p.length ≤ 2 * d.wordCount
  pollMs_ge : 1000 ≤ p.pollMs
  pollMs_le : p.pollMs ≤ 3600000

/-! ## The decoder -/

variable {words : List UInt16} {d : CustomDef} {p : CustomPoint}

theorem asciiChecked_eq (hwords : i + n ≤ 2 * words.length) (htext : i + n ≤ ATS_TEXT_CAPACITY) :
    asciiChecked p words n i ended text =
      some ((decodeAscii p (words.getD · 0) ended i n).map fun chars =>
        fun j => if i ≤ j ∧ j < i + n then chars.getD (j - i) '\x00' else text j) := by
  induction n generalizing i ended text with
  | zero =>
    simp only [asciiChecked, decodeAscii, Option.map_some, Nat.add_zero]
    congr
    funext j
    rw [if_neg (by omega)]
  | succ n ih =>
    have hget : words[i / 2]? = some (words.getD (i / 2) 0) := by
      have hlt : i / 2 < words.length := by omega
      rw [List.getD_eq_getElem?_getD, List.getElem?_eq_getElem hlt]
      rfl
    have hset (ch : Char) : textSet text i ch = some (Function.update text i ch) :=
      if_pos (by omega)
    have hturn (ch : Nat) (hch : asciiByte p (words.getD · 0) i = ch) :
        asciiChecked p words (n + 1) i ended text =
          if (ch ≠ 0 ∧ (ch < 32 ∨ 126 < ch)) ∨ ((ended || ch == 0) = true ∧ ch ≠ 0) then some none
          else asciiChecked p words n (i + 1) (ended || ch == 0)
            (Function.update text i (Char.ofNat ch)) := by
      subst hch
      simp only [asciiChecked, hget, Option.bind_eq_bind, Option.bind_some, hset]
      rfl
    simp only [decodeAscii]
    generalize hch : asciiByte p (words.getD · 0) i = ch
    rw [hturn ch hch]
    split
    · rfl
    · rw [ih (by omega) (by omega), Option.map_map]
      congr 2
      funext chars j
      simp only [Function.comp_apply]
      by_cases hj : j = i
      · subst hj
        rw [if_neg (by omega), if_pos ⟨Nat.le_refl j, by omega⟩, Function.update_self, Nat.sub_self]
        rfl
      · rw [Function.update_of_ne hj]
        by_cases hin : i + 1 ≤ j ∧ j < i + 1 + n
        · have hsub : j - i = (j - (i + 1)) + 1 := by omega
          rw [if_pos hin, if_pos (by omega), hsub, List.getD_cons_succ]
        · rw [if_neg hin, if_neg (by omega)]

theorem getElem?_getD (hi : i < words.length) : words[i]? = some (words.getD i 0) := by
  rw [List.getD_eq_getElem?_getD, List.getElem?_eq_getElem hi]
  rfl

theorem rawChecked_eq (hwords : 1 ≤ words.length) (htype : p.dataType ≠ .ascii) :
    rawChecked d p words = some (rawNumber d p (words.getD · 0) words.length) := by
  have hfirst := getElem?_getD hwords
  unfold rawChecked rawNumber fullWord firstWord
  rw [hfirst]
  simp only [Option.bind_eq_bind, Option.bind_some, Option.pure_def]
  split
  · next htwo =>
    have hsecond : words[1]? = some (words.getD 1 0) := getElem?_getD (by omega)
    rw [hsecond]
    cases hp : p.dataType <;> first
      | exact absurd hp htype
      | rfl
  · next htwo =>
    cases hp : p.dataType <;> first
      | exact absurd hp htype
      | rfl

/-- The text of a value after the loop and the terminating NUL. -/
theorem text_store {chars : List Char} (hlen : chars.length = n) (text : Nat → Char) :
    Function.update (fun j => if 0 ≤ j ∧ j < 0 + n then chars.getD (j - 0) '\x00' else text j) n
        '\x00' =
      fun j => if j ≤ chars.length then chars.getD j '\x00' else text j := by
  funext j
  by_cases hj : j = n
  · subst hj
    rw [Function.update_self, if_pos hlen.ge, List.getD_eq_getElem?_getD,
      List.getElem?_eq_none hlen.le, Option.getD_none]
  · rw [Function.update_of_ne hj, Nat.sub_zero]
    by_cases hin : j < n
    · rw [if_pos (by omega), if_pos (by omega)]
    · rw [if_neg (by omega), if_neg (by omega)]

theorem readingChecked_eq (H : Decodable d p) (hcount : words.length = d.wordCount)
    (value : AtsValue) :
    readingChecked d p words value =
      some ((customDecode d p (words.getD · 0) words.length).map value.store) := by
  have hge := H.words_ge
  have hfirst : words[0]? = some (words.getD 0 0) := getElem?_getD (by omega)
  unfold readingChecked customDecode
  split
  · next htype =>
    have htext := H.text_words htype
    have hcap : 2 * ATS_MAX_POINT_WORDS < ATS_TEXT_CAPACITY := by decide
    have hle := H.text_le
    rw [hfirst, asciiChecked_eq (by omega) (by omega)]
    simp only [Option.bind_eq_bind, Option.bind_some, Option.pure_def]
    cases hchars : decodeAscii p (words.getD · 0) false 0 p.length with
    | none => rfl
    | some chars =>
      have hlen := decodeAscii_length hchars
      have hset : p.length < ATS_TEXT_CAPACITY := by omega
      simp only [Option.map_some, textSet, if_pos hset, Option.bind_some, text_store hlen]
      rfl
  · next htype =>
    rw [rawChecked_eq (by omega) htype]
    simp only [Option.bind_eq_bind, Option.bind_some, Option.pure_def]
    cases rawNumber d p (words.getD · 0) words.length with
    | none => rfl
    | some n =>
      simp only [Option.bind_some]
      split
      · rfl
      · split <;> rfl

/-- On a decodable point every access of the decoder is inside its array, and the default branch is
not reached. -/
theorem customMapApplyChecked_eq {map : CustomMap}
    (H : ∀ e ∈ map.entries, Decodable e.pointDef e.point) :
    customMapApplyChecked map index words now value =
      some (customMapApply map index (words.getD · 0) words.length now value) := by
  unfold customMapApplyChecked customMapApply
  cases he : map.entries[index]? with
  | none => rfl
  | some e =>
    dsimp only
    split
    · rfl
    · next hcount =>
      have hcount := Decidable.not_not.mp hcount
      have hdecodable := H e (List.mem_of_getElem? he)
      have hle := hdecodable.words_le
      rw [readingChecked_eq hdecodable hcount]
      simp only [Option.bind_eq_bind, Option.bind_some]
      cases customDecode e.pointDef e.point (words.getD · 0) words.length with
      | none => rfl
      | some reading =>
        have hraw (raw : Nat → UInt16) : rawWordsSet raw words =
            some fun j => if j < words.length then words.getD j 0 else raw j :=
          if_pos (by omega)
        simp only [Option.map_some, hraw, Option.bind_some]
        cases reading <;> rfl

/-- What a call of the decoder leaves alone. -/
theorem customMapApply_frame {map : CustomMap} (he : map.entries[index]? = some e) :
    (∀ j, e.point.length < j →
      (customMapApply map index w count now value).1.text j = value.text j) ∧
    ∀ j, count ≤ j →
      (customMapApply map index w count now value).1.rawWords j = value.rawWords j := by
  unfold customMapApply
  rw [he]
  dsimp only
  split
  · exact ⟨fun _ _ => rfl, fun _ _ => rfl⟩
  · cases hreading : customDecode e.pointDef e.point w count with
    | none => exact ⟨fun _ _ => rfl, fun _ _ => rfl⟩
    | some reading =>
      refine ⟨fun j hj => ?_, fun j hj => if_neg (by omega)⟩
      rcases customDecode_cases hreading with ⟨-, chars, rfl, hlen⟩ | ⟨-, n, rfl⟩
      · exact if_neg (by omega)
      · rfl

/-! ## What the parser establishes -/

theorem wordCount_range {length : Nat} (hascii : kind = .ascii → 1 ≤ length ∧ length ≤ 20) :
    1 ≤ wordCount kind length ∧ wordCount kind length ≤ ATS_MAX_POINT_WORDS ∧
      (kind = .ascii → length ≤ 2 * wordCount kind length) := by
  have hmax : ATS_MAX_POINT_WORDS = 10 := rfl
  unfold wordCount
  split
  · next hk =>
    obtain ⟨hge, hle⟩ := hascii hk
    refine ⟨by omega, by omega, fun _ => by omega⟩
  · next hk =>
    refine ⟨?_, ?_, fun h => absurd h hk⟩
    · split <;> decide
    · split <;> decide

theorem rowLength_range {row : CsvRow} (h : rowLength row kind = .ok length) :
    length ≤ 20 ∧ (kind = .ascii → 1 ≤ length ∧ length ≤ 20) := by
  unfold rowLength at h
  split at h
  · obtain ⟨-, hge, hle⟩ := (integer_iff (by decide)).mp (Checks.require_eq_ok.mp h)
    exact ⟨hle, fun _ => ⟨hge, hle⟩⟩
  · next hk =>
    split at h
    · cases h
      exact ⟨Nat.zero_le _, fun hascii => absurd hascii hk⟩
    · cases h

/-- The entry of a valid row is decodable. -/
theorem RowPoint.decodable {map : CustomMap} (H : RowPoint strtod row q) (he : map.EntryOf e q) :
    Decodable e.pointDef e.point := by
  obtain ⟨-, hfunction⟩ := (integer_iff (by decide)).mp H.source.function_eq
  obtain ⟨-, -, hoffset⟩ := (integer_iff (by decide)).mp H.source.offset_eq
  obtain ⟨-, hpoll⟩ := (integer_iff (by decide)).mp H.layout.poll_eq
  obtain ⟨hlength, hascii⟩ := rowLength_range H.layout.length_eq
  have hlayout : q.layout.length = q.point.length := rfl
  rw [hlayout] at hlength hascii
  obtain ⟨hwords₁, hwords₂, htext⟩ := wordCount_range hascii
  have hcount : q.pointDef.wordCount = wordCount q.point.dataType q.point.length :=
    H.layout.wordCount
  have hfits : ¬ wordCount q.point.dataType q.point.length + q.pointDef.offset > 65536 :=
    H.layout.fits
  rw [← hcount] at hwords₁ hwords₂ htext hfits
  have hmax : ATS_MAX_POINT_WORDS = 10 := rfl
  refine ⟨?_, ?_, ?_, ?_, ?_, ?_, ?_, ?_, ?_⟩
  all_goals first
    | rw [he.wordCount, he.point]
    | rw [he.wordCount, he.offset]
    | rw [he.wordCount]
    | rw [he.point]
  · exact hfunction.1
  · exact hfunction.2
  · omega
  · exact hwords₁
  · exact hwords₂
  · omega
  · exact htext
  · exact hpoll.1
  · exact hpoll.2

/-- The builder takes a decodable point. -/
theorem Decodable.request (H : Decodable d p) (tid : UInt16) (unit : UInt8) :
    (mbBuildReadRequest tid unit (UInt8.ofNat p.function) (UInt16.ofNat d.offset)
      (UInt16.ofNat d.wordCount)).isSome = true := by
  have hmax : ATS_MAX_POINT_WORDS = 10 := rfl
  have hfge := H.function_ge
  have hfle := H.function_le
  have hoffset := H.offset_le
  have hwge := H.words_ge
  have hwle := H.words_le
  have hfunction : (UInt8.ofNat p.function).toNat = p.function := by
    rw [UInt8.toNat_ofNat']
    omega
  have hwords : (UInt16.ofNat d.wordCount).toNat = d.wordCount := by
    rw [UInt16.toNat_ofNat']
    omega
  have hoff : (UInt16.ofNat d.offset).toNat = d.offset := by
    rw [UInt16.toNat_ofNat']
    omega
  have hquantity : validQuantity (UInt16.ofNat d.wordCount) = true := by
    unfold validQuantity
    rw [Bool.and_eq_true, decide_eq_true_eq, decide_eq_true_eq, UInt16.le_iff_toNat_le, hwords]
    exact ⟨hwge, by unfold MB_MAX_REGISTERS; omega⟩
  unfold mbBuildReadRequest
  rw [if_neg]
  · rfl
  · rintro (h | h | h | h)
    · rw [UInt8.lt_iff_toNat_lt, hfunction] at h
      change p.function < 1 at h
      omega
    · rw [gt_iff_lt, UInt8.lt_iff_toNat_lt, hfunction] at h
      change 4 < p.function at h
      omega
    · exact h hquantity
    · rw [hoff, hwords] at h
      omega

/-- The strings of a text of rows are no longer than the text. -/
theorem RowsOf.stringsUsed_le (H : RowsOf strtod csv points) (map : CustomMap) :
    (points.foldl CustomMap.append map).stringsUsed ≤ map.stringsUsed + csv.length := by
  obtain ⟨rows, hlines, hfits, hpoints⟩ := H
  have hrow {row : CsvRow} {t : List Char} (hr : Csv.Row Plain row t)
      (hfit : FittingRow row FIELD_COUNT) : row.storedBytes ≤ t.length := by
    have hsum := hr.length_le
    have hstored := hfit.storedBytes_le
    rw [hfit.length, FIELD_COUNT] at hsum
    omega
  induction hlines generalizing points map with
  | nil =>
    cases hpoints
    exact Nat.le_add_right _ _
  | last hr =>
    cases hpoints with
    | cons hq hqs =>
      cases hqs
      have hbytes := hq.bytes_le map
      have hle := hrow hr (hfits _ List.mem_cons_self)
      change (map.append _).stringsUsed ≤ _
      omega
  | cons hr _ _ ih =>
    cases hpoints with
    | @cons _ q _ qs hq hqs =>
      have hbytes := hq.bytes_le map
      have hle := hrow hr (hfits _ List.mem_cons_self)
      have htail := ih (map.append q) (fun row h => hfits row (List.mem_cons_of_mem _ h)) hqs
      rw [List.length_append, List.length_append, List.foldl_cons]
      omega

/-- The string at `offset` ends inside the string area of the map. -/
def CustomMap.InArea (map : CustomMap) (offset : Nat) : Prop :=
  offset + (map.string offset).length < map.stringsUsed

theorem CustomMap.Stored.inArea {map : CustomMap} (H : map.Stored offset s) :
    map.InArea offset := by
  unfold CustomMap.InArea
  rw [H.string_eq]
  exact H.inside

/-- A map whose points can be named, polled and decoded. -/
structure SafeMap (map : CustomMap) : Prop where
  count_ge : 1 ≤ map.count
  count_le : map.count ≤ CUSTOM_MAX_POINTS
  names : ∀ e ∈ map.entries,
    1 ≤ (map.string e.pointDef.name).length ∧ (map.string e.pointDef.name).length ≤ 63
  names_distinct : map.entries.Pairwise fun e e' =>
    map.string e.pointDef.name ≠ map.string e'.pointDef.name
  identifiers : map.entries.Pairwise fun e e' =>
    (e.pointDef.objectType, e.pointDef.instanceNumber) ≠
      (e'.pointDef.objectType, e'.pointDef.instanceNumber)
  unreserved : ∀ e ∈ map.entries, e.pointDef.instanceNumber < 9001 ∨ 9004 < e.pointDef.instanceNumber
  labels : ∀ e ∈ map.entries, e.pointDef.objectType = OBJECT_MULTI_STATE_INPUT →
    ∃ texts, map.labels e.pointDef = some texts ∧ texts.length = e.pointDef.stateCount ∧
      1 ≤ texts.length ∧ texts.length ≤ CUSTOM_MAX_STATES ∧ texts.Nodup ∧ [] ∉ texts
  unlabelled : ∀ e ∈ map.entries, e.pointDef.objectType ≠ OBJECT_MULTI_STATE_INPUT →
    map.labels e.pointDef = none ∧ e.pointDef.stateCount = 0
  strings_le : map.stringsUsed ≤ STRINGS_BYTES
  states_le : map.statesUsed ≤ CUSTOM_MAX_TOTAL_STATES
  strings : ∀ e ∈ map.entries, map.InArea e.pointDef.name ∧ map.InArea e.pointDef.description
  labels_inside : ∀ e ∈ map.entries, ∀ first ∈ e.pointDef.stateText,
    first + e.pointDef.stateCount ≤ map.statesUsed ∧
      ∀ offset ∈ (map.stateText.drop first).take e.pointDef.stateCount, map.InArea offset
  decodable : ∀ e ∈ map.entries, Decodable e.pointDef e.point

theorem MapText.entry (H : MapText strtod csv points)
    (he : e ∈ (CustomMap.ofPoints points).entries) :
    ∃ q ∈ points, (CustomMap.ofPoints points).EntryOf e q ∧
      ∃ row : CsvRow, RowPoint strtod row q ∧ row.NoNul ∧ FittingRow row FIELD_COUNT := by
  obtain ⟨tail, body, -, -, hqs⟩ := H.text
  have hentries := H.holds.entries
  obtain ⟨i, hi, rfl⟩ := List.mem_iff_getElem.mp he
  have hlen := hentries.length_eq
  have hq : points[i] ∈ points := List.getElem_mem _
  exact ⟨points[i], hq, List.forall₂_iff_get.mp hentries |>.2 i hi (hlen ▸ hi), hqs.row hq⟩

theorem forall₂_pairwise {R : α → β → Prop} {P : α → α → Prop} {Q : β → β → Prop}
    (h : List.Forall₂ R l l') (hP : ∀ a b a' b', R a b → R a' b' → Q b b' → P a a')
    (hl : l'.Pairwise Q) : l.Pairwise P := by
  induction h with
  | nil => exact .nil
  | @cons a b l l' hab hrest ih =>
    obtain ⟨hb, htail⟩ := List.pairwise_cons.mp hl
    refine List.pairwise_cons.mpr ⟨?_, ih htail⟩
    clear ih htail hl
    induction hrest with
    | nil => exact fun _ h => (by cases h)
    | cons hab' _ ih =>
      intro a' ha'
      rcases List.mem_cons.mp ha' with rfl | ha'
      · exact hP _ _ _ _ hab hab' (hb _ List.mem_cons_self)
      · exact ih (fun b' hb' => hb b' (List.mem_cons_of_mem _ hb')) a' ha'

theorem MapText.names_distinct (H : MapText strtod csv points) :
    (CustomMap.ofPoints points).entries.Pairwise fun e e' =>
      (CustomMap.ofPoints points).string e.pointDef.name ≠
        (CustomMap.ofPoints points).string e'.pointDef.name ∧
      (e.pointDef.objectType, e.pointDef.instanceNumber) ≠
        (e'.pointDef.objectType, e'.pointDef.instanceNumber) := by
  refine forall₂_pairwise H.holds.entries ?_ H.ok.distinct
  rintro e q e' q' he he' ⟨hname, hident⟩
  rw [he.name.string_eq, he'.name.string_eq, he.objectType, he'.objectType, he.instanceNumber,
    he'.instanceNumber]
  exact ⟨hname, fun h => hident (Prod.mk.inj h)⟩

/-- The labels of an entry are those of its row. -/
theorem CustomMap.EntryOf.labels_eq {map : CustomMap} (H : map.EntryOf e q) :
    map.labels e.pointDef = q.pointDef.stateText := congrArg AtsPointDef.stateText H.resolve_eq

theorem CustomMap.LabelsAt.inside {map : CustomMap} (H : map.LabelsAt first texts) (hne : texts ≠ []) :
    first + texts.length ≤ map.statesUsed ∧
      ∀ offset ∈ (map.stateText.drop first).take texts.length, map.InArea offset := by
  refine ⟨?_, fun offset hoffset => ?_⟩
  · have hle := H.length_le
    have hpos := List.length_pos_iff.mpr hne
    rw [List.length_drop] at hle
    unfold CustomMap.statesUsed
    omega
  · unfold CustomMap.LabelsAt at H
    generalize (map.stateText.drop first).take texts.length = offsets at H hoffset
    clear hne
    induction H with
    | nil => cases hoffset
    | cons h _ ih =>
      rcases List.mem_cons.mp hoffset with rfl | hoffset
      · exact h.inArea
      · exact ih hoffset

/-- A multi-state point has its labels. -/
theorem RowPoint.labelled (H : RowPoint strtod row q)
    (hobject : q.pointDef.objectType = OBJECT_MULTI_STATE_INPUT) :
    ∃ texts, q.pointDef.stateText = some texts ∧ texts.length = q.pointDef.stateCount ∧
      1 ≤ texts.length ∧ texts.length ≤ CUSTOM_MAX_STATES ∧ texts.Nodup ∧ [] ∉ texts := by
  have hstates := H.states
  have hcounted := H.count_eq
  generalize q.pointDef.stateText = texts at hstates hcounted ⊢
  generalize q.pointDef.objectType = t at hstates hobject
  cases hstates with
  | none hne => exact absurd hobject hne
  | multiState hne hset =>
    exact ⟨_, rfl, hcounted.symm, List.length_pos_iff.mpr (List.splitOn_ne_nil _ _), hset.count,
      hset.nodup, fun hmem => (hset.each [] hmem).1 rfl⟩

/-- Any other point has none. -/
theorem RowPoint.unlabelled (H : RowPoint strtod row q)
    (hobject : q.pointDef.objectType ≠ OBJECT_MULTI_STATE_INPUT) :
    q.pointDef.stateText = none ∧ q.pointDef.stateCount = 0 := by
  have hstates := H.states
  have hcounted := H.count_eq
  generalize q.pointDef.stateText = texts at hstates hcounted ⊢
  generalize q.pointDef.objectType = t at hstates hobject
  cases hstates with
  | none => exact ⟨rfl, hcounted⟩
  | multiState => exact absurd rfl hobject

/-- The map of an accepted text is safe. -/
theorem MapText.safe (H : MapText strtod csv points) : SafeMap (CustomMap.ofPoints points) := by
  have hcount := H.holds.count_eq
  have hdistinct := H.names_distinct
  have hstates := H.holds.states
  refine {
    count_ge := ?_
    count_le := ?_
    names := ?_
    names_distinct := hdistinct.imp fun h => h.1
    identifiers := hdistinct.imp fun h => h.2
    unreserved := ?_
    labels := ?_
    unlabelled := ?_
    strings_le := ?_
    states_le := ?_
    strings := ?_
    labels_inside := ?_
    decodable := ?_ }
  · rw [hcount]
    exact List.length_pos_iff.mpr H.nonempty
  · rw [hcount]
    exact H.ok.count
  · intro e he
    obtain ⟨q, -, hentry, row, hrow, -⟩ := H.entry he
    obtain ⟨hne, hlong, -⟩ := not_or.mp hrow.name |>.imp_right not_or.mp
    rw [hentry.name.string_eq, hrow.name_eq]
    exact ⟨List.length_pos_iff.mpr hne, by omega⟩
  · intro e he
    obtain ⟨q, -, hentry, row, hrow, -⟩ := H.entry he
    have hres := hrow.unreserved
    rw [hentry.instanceNumber]
    omega
  · intro e he hobject
    obtain ⟨q, -, hentry, row, hrow, -⟩ := H.entry he
    rw [hentry.labels_eq, hentry.stateCount]
    rw [hentry.objectType] at hobject
    exact hrow.labelled hobject
  · intro e he hobject
    obtain ⟨q, -, hentry, row, hrow, -⟩ := H.entry he
    rw [hentry.labels_eq, hentry.stateCount]
    rw [hentry.objectType] at hobject
    exact hrow.unlabelled hobject
  · obtain ⟨tail, body, htext, hend, hqs⟩ := H.text
    have hsize := H.size
    have hle := hend.length_le
    have hused := hqs.stringsUsed_le {}
    have hzero : CustomMap.stringsUsed {} = 0 := rfl
    have hbytes : STRINGS_BYTES = CUSTOM_MAX_CSV_BYTES + 1 := rfl
    have hlen := congrArg List.length htext
    rw [List.length_append] at hlen
    change (points.foldl CustomMap.append {}).stringsUsed ≤ _
    omega
  · rw [hstates]
    exact H.ok.states
  · intro e he
    obtain ⟨q, -, hentry, -⟩ := H.entry he
    exact ⟨hentry.name.inArea, hentry.description.inArea⟩
  · intro e he first hfirst
    obtain ⟨q, -, hentry, row, hrow, -⟩ := H.entry he
    have hat := hentry.states
    have hrowStates := hrow.states
    have hcounted := hrow.count_eq
    rw [hentry.stateCount]
    rw [Option.mem_def.mp hfirst] at hat
    generalize q.pointDef.stateText = texts at hrowStates hat hcounted
    generalize q.pointDef.objectType = t at hrowStates
    cases hat with
    | some hlabels =>
      cases hrowStates with
      | multiState =>
        rw [hcounted]
        exact hlabels.inside (List.splitOn_ne_nil _ _)
  · intro e he
    obtain ⟨q, -, hentry, row, hrow, -⟩ := H.entry he
    exact hrow.decodable hentry

/-- Whatever the parser accepts is the map of a text. -/
theorem customMapParse_mapText
    (h : customMapParse strtod memory map₀ csv errorSize = (true, map, error)) :
    ∃ points, MapText strtod csv points ∧ map = CustomMap.ofPoints points := by
  have hparse : parseMap strtod memory csv = .ok map := by
    unfold customMapParse at h
    split at h
    · next parsed hok =>
      cases h
      exact hok
    · cases h
  exact (parseMap_eq_ok.mp hparse).2

/-- Whatever the parser accepts is safe: the request builder takes every point with every unit and
transaction id, and on a response of the right length the decoder makes only accesses inside the
response and the arrays of the value, and changes nothing beyond the text and the words it read. -/
theorem customMapParse_safe (h : customMapParse strtod memory map₀ csv errorSize = (true, map, error)) :
    SafeMap map ∧ ∀ index e, map.entries[index]? = some e →
      (∀ tid unit, (mbBuildReadRequest tid unit (UInt8.ofNat e.point.function)
        (UInt16.ofNat e.pointDef.offset) (UInt16.ofNat e.pointDef.wordCount)).isSome = true) ∧
      ∀ words now value, words.length = e.pointDef.wordCount →
        ∃ next applied, customMapApplyChecked map index words now value = some (next, applied) ∧
          customMapApply map index (words.getD · 0) words.length now value = (next, applied) ∧
          e.point.length < ATS_TEXT_CAPACITY ∧ words.length ≤ ATS_MAX_POINT_WORDS ∧
          (∀ j, e.point.length < j → next.text j = value.text j) ∧
          ∀ j, words.length ≤ j → next.rawWords j = value.rawWords j := by
  obtain ⟨points, H, rfl⟩ := customMapParse_mapText h
  have hsafe := H.safe
  refine ⟨hsafe, fun index e he => ?_⟩
  have hdecodable := hsafe.decodable e (List.mem_of_getElem? he)
  refine ⟨hdecodable.request, fun words now value hwords => ?_⟩
  have hmax : 2 * ATS_MAX_POINT_WORDS < ATS_TEXT_CAPACITY := by decide
  have htext := hdecodable.text_le
  have hcount := hdecodable.words_le
  obtain ⟨htextFrame, hrawFrame⟩ := customMapApply_frame he
  exact ⟨_, _, customMapApplyChecked_eq hsafe.decodable, rfl, by omega, by omega, htextFrame,
    hrawFrame⟩

theorem customMapParse_safe_voltage : SafeMap (CustomMap.ofPoints [voltageSpec.toMapPoint]) :=
  (customMapParse_safe (voltageRow_rendering.customMapParse_eq voltageSpec_valid
    (by decide +kernel) {} 192)).1

end ModbusGateway
