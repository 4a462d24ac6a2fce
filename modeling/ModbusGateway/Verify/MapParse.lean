import ModbusGateway.Verify.MapRow
import Mathlib.Data.List.Induction

/-!
# The whole text of a map

`parseMap_eq_ok` says which texts the parser accepts and which map it makes of them. The invariant of
its loop is that the strings stored so far and the text still to be read fit in the string area.
-/

namespace ModbusGateway

open Checks

/-! ## Points among themselves -/

/-- The points of a map are not too many, and neither their names nor their identifiers clash. -/
structure MapOk (points : List MapPoint) : Prop where
  count : points.length ≤ CUSTOM_MAX_POINTS
  distinct : points.Pairwise fun p q => p.pointDef.name ≠ q.pointDef.name ∧
    ¬ (p.pointDef.objectType = q.pointDef.objectType ∧
      p.pointDef.instanceNumber = q.pointDef.instanceNumber)
  states : (points.map fun p => p.pointDef.stateCount).sum ≤ CUSTOM_MAX_TOTAL_STATES

theorem mapOk_nil : MapOk [] := ⟨Nat.zero_le _, .nil, Nat.zero_le _⟩

theorem mapOk_append : MapOk (points ++ [q]) ↔ MapOk points ∧ Admissible points q := by
  constructor
  · intro H
    have hcount := H.count
    have hdistinct := H.distinct
    have hstates := H.states
    rw [List.length_append, List.length_singleton] at hcount
    rw [List.pairwise_append] at hdistinct
    rw [List.map_append, List.sum_append, List.map_singleton, List.sum_singleton] at hstates
    exact ⟨⟨by omega, hdistinct.1, by omega⟩, by omega,
      fun p hp => hdistinct.2.2 p hp q (List.mem_singleton.mpr rfl), hstates⟩
  · rintro ⟨H, hq⟩
    have hcount := H.count
    have hroom := hq.room
    refine ⟨?_, ?_, ?_⟩
    · rw [List.length_append, List.length_singleton]
      omega
    · rw [List.pairwise_append]
      refine ⟨H.distinct, List.pairwise_singleton _ _, ?_⟩
      intro p hp q' hq'
      rw [List.mem_singleton.mp hq']
      exact hq.fresh p hp
    · rw [List.map_append, List.sum_append, List.map_singleton, List.sum_singleton]
      exact hq.states

theorem MapOk.prefix (H : MapOk (points ++ more)) : MapOk points := by
  have hcount := H.count
  have hstates := H.states
  rw [List.length_append] at hcount
  rw [List.map_append, List.sum_append] at hstates
  exact ⟨by omega, (List.pairwise_append.mp H.distinct).1, by omega⟩

/-! ## Rows -/

/-- The text is rows that stand for these points. -/
def RowsOf (strtod : Strtod) (csv : List Char) (points : List MapPoint) : Prop :=
  ∃ rows, Csv.Lines Plain rows csv ∧ (∀ row ∈ rows, FittingRow row FIELD_COUNT) ∧
    List.Forall₂ (RowPoint strtod) rows points

theorem Row.values_plain (H : Csv.Row Plain ss ts) : ∀ s ∈ ss, ∀ c ∈ s, Plain c := by
  induction H with
  | last h =>
    intro s hs
    rw [List.mem_singleton.mp hs]
    exact h.value_plain
  | cons h _ ih =>
    intro s hs
    rcases List.mem_cons.mp hs with rfl | hs
    · exact h.value_plain
    · exact ih s hs

theorem plain_ne_nul {c : Char} (h : Plain c) : c ≠ '\x00' := by
  rintro rfl
  cases h

theorem Row.noNul {row : CsvRow} (H : Csv.Row Plain row t) : row.NoNul := by
  intro i c hc
  unfold CsvRow.field at hc
  cases hi : row[i]? with
  | none =>
    rw [List.getD_eq_getElem?_getD, hi] at hc
    cases hc
  | some s =>
    rw [List.getD_eq_getElem?_getD, hi] at hc
    exact plain_ne_nul (Row.values_plain H s (List.mem_of_getElem? hi) c hc)

/-- The stored fields are three of the fifteen. -/
theorem FittingRow.storedBytes_le {row : CsvRow} (H : FittingRow row FIELD_COUNT) :
    row.storedBytes ≤ (row.map List.length).sum + 3 := by
  have hlen : row.length = 15 := H.length
  match row, hlen with
  | [f₀, f₁, f₂, f₃, f₄, f₅, f₆, f₇, f₈, f₉, f₁₀, f₁₁, f₁₂, f₁₃, f₁₄], _ =>
    simp only [CsvRow.storedBytes, CsvRow.field, List.getD_cons_succ, List.getD_cons_zero,
      List.map_cons, List.map_nil, List.sum_cons, List.sum_nil]
    omega

/-- The point of a row stores no more than the row has. -/
theorem RowPoint.bytes_le (H : RowPoint strtod row q) (map : CustomMap) :
    (map.append q).stringsUsed ≤ map.stringsUsed + row.storedBytes := by
  have hstates := H.states
  rw [CustomMap.append_stringsUsed, H.name_eq, H.description_eq]
  unfold CsvRow.storedBytes
  have hlabels : CustomMap.bytes (q.pointDef.stateText.getD []) ≤ (row.field 11).length + 1 := by
    generalize q.pointDef.stateText = texts at hstates
    generalize q.pointDef.objectType = objectType at hstates
    cases hstates with
    | multiState => exact (bytes_splitOn _).le
    | none => exact Nat.zero_le _
  omega

/-! ## The loop -/

variable {map map' : CustomMap} {csv rest : List Char}

theorem parseRows_nil : parseRows strtod line map [] =
    if map.count = 0 then .error (line, "At least one point is required") else .ok map := by
  rw [parseRows, if_pos rfl]

theorem parseRows_none (hcsv : csv ≠ []) (hrow : readRow csv = none) :
    parseRows strtod line map csv = .error (line + 1, syntaxError) := by
  rw [parseRows, if_neg hcsv]
  split
  · rfl
  · next h =>
    rw [hrow] at h
    cases h

theorem parseRows_some (hcsv : csv ≠ []) (hrow : readRow csv = some (row, rest)) :
    parseRows strtod line map csv =
      match addRow strtod map row with
      | .error why => .error (line + 1, why)
      | .ok map => parseRows strtod (line + 1) map rest := by
  rw [parseRows, if_neg hcsv]
  split
  · next h =>
    rw [hrow] at h
    cases h
  · next h =>
    rw [hrow] at h
    cases h
    rfl

/-- What the loop keeps: the map stands for the points read so far, and the strings stored so far fit
in the string area together with the text that is left. -/
structure LoopInv (map : CustomMap) (points : List MapPoint) (csv : List Char) : Prop where
  holds : map.Holds points
  ok : MapOk points
  space : map.stringsUsed + csv.length ≤ CUSTOM_MAX_CSV_BYTES

theorem LoopInv.statesUsed_le (H : LoopInv map points csv) :
    map.statesUsed ≤ CUSTOM_MAX_TOTAL_STATES := by
  rw [H.holds.states]
  exact H.ok.states

/-- A row that has been read leaves room for what it stores. -/
theorem LoopInv.row_space (H : LoopInv map points csv) (hrow : readRow csv = some (row, rest)) :
    map.stringsUsed + row.storedBytes + rest.length ≤ CUSTOM_MAX_CSV_BYTES := by
  obtain ⟨hfits, -⟩ := readRow_iff.mp hrow
  have hconsumes := readRow_consumes hrow
  have hstored := hfits.storedBytes_le
  have hspace := H.space
  omega

theorem readRow_noNul (hrow : readRow csv = some (row, rest)) : row.NoNul := by
  obtain ⟨-, t, tail, hgrammar, -, -⟩ := readRow_iff.mp hrow
  exact Row.noNul hgrammar

/-- One turn of the loop. -/
theorem LoopInv.addRow_eq_ok (H : LoopInv map points csv)
    (hrow : readRow csv = some (row, rest)) :
    addRow strtod map row = .ok map' ↔
      ∃ q, RowPoint strtod row q ∧ Admissible points q ∧ map' = map.append q := by
  have hspace := H.row_space hrow
  have hbytes : STRINGS_BYTES = CUSTOM_MAX_CSV_BYTES + 1 := rfl
  exact ModbusGateway.addRow_eq_ok H.holds (readRow_noNul hrow) H.statesUsed_le (by omega)

theorem LoopInv.append (H : LoopInv map points csv) (hrow : readRow csv = some (row, rest))
    (hq : RowPoint strtod row q) (hadm : Admissible points q) :
    LoopInv (map.append q) (points ++ [q]) rest := by
  have hspace := H.row_space hrow
  have hbytes := hq.bytes_le map
  exact ⟨H.holds.append (hq.wellFormed (readRow_noNul hrow)), mapOk_append.mpr ⟨H.ok, hadm⟩,
    by omega⟩

theorem Row.ne_nil (H : Csv.Row Plain row t) (hfits : FittingRow row FIELD_COUNT) : t ≠ [] := by
  have hle := H.length_le
  rw [hfits.length] at hle
  rintro rfl
  rw [List.length_nil, FIELD_COUNT] at hle
  omega

theorem Lines.rows_nil (H : Csv.Lines Plain rows [])
    (hfits : ∀ row ∈ rows, FittingRow row FIELD_COUNT) : rows = [] := by
  generalize htext : ([] : List Char) = text at H
  cases H with
  | nil => rfl
  | last hr => exact absurd htext.symm (Row.ne_nil hr (hfits _ List.mem_cons_self))
  | cons hr =>
    have hnil := List.append_eq_nil_iff.mp htext.symm
    exact absurd hnil.1 (Row.ne_nil hr (hfits _ List.mem_cons_self))

/-- The first row of a text and the rest of its rows. -/
theorem rowsOf_cons_iff (hcsv : csv ≠ []) (hrow : readRow csv = some (row, rest)) :
    RowsOf strtod csv points ↔
      ∃ q qs, points = q :: qs ∧ RowPoint strtod row q ∧ RowsOf strtod rest qs := by
  obtain ⟨hfits, t, tail, hgrammar, rfl, hend⟩ := readRow_iff.mp hrow
  constructor
  · rintro ⟨rows, hlines, hall, hpoints⟩
    generalize htext : t ++ tail = text at hlines hcsv hrow
    cases hlines with
    | nil => exact absurd rfl hcsv
    | @last r _ hr =>
      have hr' := hall r List.mem_cons_self
      have hread : readRow text = some (r, []) :=
        readRow_iff.mpr ⟨hr', text, [], hr, (List.append_nil _).symm, .inl ⟨rfl, rfl⟩⟩
      rw [hread] at hrow
      cases hrow
      cases hpoints with
      | cons hq hqs => exact ⟨_, _, rfl, hq, [], .nil, fun _ h => (by cases h), hqs⟩
    | @cons r t' e rs ts hr he hrs =>
      have hr' := hall r List.mem_cons_self
      have hread : readRow (t' ++ (e ++ ts)) = some (r, ts) :=
        readRow_iff.mpr ⟨hr', t', e ++ ts, hr, rfl, .inr ⟨e, he, rfl⟩⟩
      rw [hread] at hrow
      cases hrow
      cases hpoints with
      | cons hq hqs =>
        exact ⟨_, _, rfl, hq, rs, hrs, fun r' h => hall r' (List.mem_cons_of_mem _ h), hqs⟩
  · rintro ⟨q, qs, rfl, hq, rows, hlines, hall, hqs⟩
    have hall' : ∀ r ∈ row :: rows, FittingRow r FIELD_COUNT := by
      intro r hr
      rcases List.mem_cons.mp hr with rfl | hr
      · exact hfits
      · exact hall r hr
    rcases hend with ⟨rfl, rfl⟩ | ⟨e, he, rfl⟩
    · cases Lines.rows_nil hlines hall
      cases hqs
      rw [List.append_nil]
      exact ⟨_, .last hgrammar, hall', .cons hq .nil⟩
    · exact ⟨_, .cons hgrammar he hlines, hall', .cons hq hqs⟩

theorem RowsOf.nil_iff : RowsOf strtod [] points ↔ points = [] := by
  constructor
  · rintro ⟨rows, hlines, hall, hpoints⟩
    cases Lines.rows_nil hlines hall
    cases hpoints
    rfl
  · rintro rfl
    exact ⟨[], .nil, fun _ h => (by cases h), .nil⟩

/-- The first row of a text of rows can be read. -/
theorem RowsOf.readRow (H : RowsOf strtod csv points) (hcsv : csv ≠ []) :
    ∃ row rest, readRow csv = some (row, rest) := by
  obtain ⟨rows, hlines, hall, -⟩ := H
  cases hlines with
  | nil => exact absurd rfl hcsv
  | last hr =>
    exact ⟨_, [], readRow_iff.mpr ⟨hall _ List.mem_cons_self, _, [], hr,
      (List.append_nil _).symm, .inl ⟨rfl, rfl⟩⟩⟩
  | cons hr he hrs =>
    exact ⟨_, _, readRow_iff.mpr ⟨hall _ List.mem_cons_self, _, _, hr, rfl, .inr ⟨_, he, rfl⟩⟩⟩

/-- The loop accepts exactly the texts of rows whose points fit together with those before. -/
theorem parseRows_eq_ok (H : LoopInv map points csv) :
    parseRows strtod line map csv = .ok map' ↔
      ∃ qs, RowsOf strtod csv qs ∧ MapOk (points ++ qs) ∧ points ++ qs ≠ [] ∧
        map' = qs.foldl CustomMap.append map := by
  induction hn : csv.length using Nat.strong_induction_on generalizing csv map points line with
  | h n ih =>
  subst hn
  by_cases hcsv : csv = []
  · subst hcsv
    have hcount := H.holds.count_eq
    rw [parseRows_nil]
    constructor
    · intro h
      split at h
      · cases h
      · next hne =>
        cases h
        refine ⟨[], RowsOf.nil_iff.mpr rfl, ?_, ?_, rfl⟩
        · rw [List.append_nil]
          exact H.ok
        · rw [List.append_nil]
          rintro rfl
          exact hne hcount
    · rintro ⟨qs, hqs, -, hne, rfl⟩
      cases RowsOf.nil_iff.mp hqs
      rw [List.append_nil] at hne
      rw [if_neg]
      · rfl
      · intro hzero
        exact hne (List.length_eq_zero_iff.mp (hcount.symm.trans hzero))
  · cases hrow : readRow csv with
    | none =>
      rw [parseRows_none hcsv hrow]
      constructor
      · intro h
        cases h
      · rintro ⟨qs, hqs, -⟩
        obtain ⟨row, rest, hread⟩ := hqs.readRow hcsv
        rw [hrow] at hread
        cases hread
    | some r =>
      obtain ⟨row, rest⟩ := r
      have hturn (m : CustomMap) : addRow strtod map row = .ok m ↔
          ∃ q, RowPoint strtod row q ∧ Admissible points q ∧ m = map.append q :=
        H.addRow_eq_ok hrow
      rw [parseRows_some hcsv hrow]
      constructor
      · intro h
        split at h
        · cases h
        · next m hadd =>
          obtain ⟨q, hq, hadm, rfl⟩ := (hturn m).mp hadd
          have hinv := H.append hrow hq hadm
          obtain ⟨qs, hqs, hok, -, rfl⟩ := (ih _ (readRow_lt hrow) hinv rfl).mp h
          rw [List.append_assoc] at hok
          refine ⟨q :: qs, ?_, hok, ?_, rfl⟩
          · exact (rowsOf_cons_iff hcsv hrow).mpr ⟨q, qs, rfl, hq, hqs⟩
          · exact List.append_ne_nil_of_right_ne_nil _ (List.cons_ne_nil _ _)
      · rintro ⟨all, hall, hok, hne, rfl⟩
        obtain ⟨q, qs, rfl, hq, hqs⟩ := (rowsOf_cons_iff hcsv hrow).mp hall
        rw [List.append_cons] at hok hne
        have hadm := (mapOk_append.mp hok.prefix).2
        rw [(hturn _).mpr ⟨q, hq, hadm, rfl⟩]
        exact (ih _ (readRow_lt hrow) (H.append hrow hq hadm) rfl).mpr ⟨qs, hqs, hok, hne, rfl⟩

/-! ## The header -/

theorem Field.printable (H : Csv.Field Plain s t) : ∀ c ∈ t, Plain c := by
  cases H with
  | bare h => exact fun c hc => (h c hc).1
  | quoted h =>
    have hdouble (c : Char) (hc : c ∈ s.flatMap Csv.double) : Plain c := by
      obtain ⟨c', hc', hmem⟩ := List.mem_flatMap.mp hc
      unfold Csv.double at hmem
      split at hmem
      · simp only [List.mem_cons, List.not_mem_nil, or_false, or_self] at hmem
        rw [hmem]
        rfl
      · rw [List.mem_singleton.mp hmem]
        exact h c' hc'
    intro c hc
    rcases List.mem_cons.mp hc with rfl | hc
    · rfl
    · rcases List.mem_append.mp hc with hc | hc
      · exact hdouble c hc
      · rw [List.mem_singleton.mp hc]
        rfl

/-- A row of the grammar is printable text. -/
theorem Row.printable (H : Csv.Row Plain ss ts) : ∀ c ∈ ts, Plain c := by
  induction H with
  | last h => exact Field.printable h
  | cons h _ ih =>
    intro c hc
    rcases List.mem_append.mp hc with hc | hc
    · exact Field.printable h c hc
    · rcases List.mem_cons.mp hc with rfl | hc
      · rfl
      · exact ih c hc

/-- The fields of the header. -/
def headerFields : CsvRow :=
  ["instance", "name", "object_type", "function", "address", "data_type", "byte_order", "scale",
    "offset", "units", "bit", "states", "length", "poll_ms", "description"].map String.toList

theorem header_row : Csv.Row Plain headerFields CUSTOM_CSV_HEADER := by
  have hjoin : CUSTOM_CSV_HEADER = [','].intercalate headerFields := by decide +kernel
  have hbare : ∀ s ∈ headerFields, ∀ c ∈ s, Plain c ∧ c ≠ ',' ∧ c ≠ '"' := by decide +kernel
  rw [hjoin]
  exact Csv.Row.bare (by decide) hbare

theorem header_fits : FittingRow headerFields FIELD_COUNT :=
  ⟨rfl, by decide +kernel⟩

theorem RowEnd.head (H : RowEnd tail rest) : ∀ c ∈ tail.head?, c = '\r' ∨ c = '\n' := by
  rcases H with ⟨rfl, -⟩ | ⟨e, heol, rfl⟩
  · exact fun c hc => (by cases hc)
  · cases heol with
    | lf => exact fun c hc => .inr (Option.some.inj hc).symm
    | crlf => exact fun c hc => .inl (Option.some.inj hc).symm

/-- A line end is where the printable text ends. -/
theorem dropWhile_lineEnd {s tail : List Char} (hs : ∀ c ∈ s, Plain c)
    (htail : ∀ c ∈ tail.head?, c = '\r' ∨ c = '\n') : (s ++ tail).dropWhile printable = tail := by
  rw [List.dropWhile_append_of_pos hs]
  cases tail with
  | nil => rfl
  | cons c tail => rcases htail c rfl with rfl | rfl <;> rfl

/-- The reader takes the header line for a row exactly if it is one. -/
theorem readRow_header {tail : List Char} (htail : ∀ c ∈ tail.head?, c = '\r' ∨ c = '\n') :
    (∃ row, readRow (CUSTOM_CSV_HEADER ++ tail) = some (row, rest)) ↔ RowEnd tail rest := by
  constructor
  · rintro ⟨row, hrow⟩
    obtain ⟨-, t, tail', hgrammar, heq, hend⟩ := readRow_iff.mp hrow
    have hleft := dropWhile_lineEnd (Row.printable header_row) htail
    rw [heq, dropWhile_lineEnd (Row.printable hgrammar) hend.head] at hleft
    exact hleft ▸ hend
  · intro hend
    exact ⟨_, readRow_iff.mpr ⟨header_fits, _, _, header_row, rfl, hend⟩⟩

/-! ## The parser -/

/-- The map that stands for these points. -/
def CustomMap.ofPoints (points : List MapPoint) : CustomMap := points.foldl CustomMap.append {}

/-- The text of a map: the header and the rows of its points. -/
structure MapText (strtod : Strtod) (csv : List Char) (points : List MapPoint) : Prop where
  size : csv.length ≤ CUSTOM_MAX_CSV_BYTES
  text : ∃ tail body, csv = CUSTOM_CSV_HEADER ++ tail ∧ RowEnd tail body ∧ RowsOf strtod body points
  ok : MapOk points
  nonempty : points ≠ []

theorem loopInv_empty (hsize : csv.length ≤ CUSTOM_MAX_CSV_BYTES) : LoopInv {} [] csv :=
  ⟨CustomMap.holds_empty, mapOk_nil, by
    have hused : CustomMap.stringsUsed {} = 0 := rfl
    omega⟩

/-- The check of the header. -/
theorem header_iff : ¬ (¬ CUSTOM_CSV_HEADER.isPrefixOf csv ∨
      ∃ c ∈ csv[CUSTOM_CSV_HEADER.length]?, c ≠ '\r' ∧ c ≠ '\n') ↔
    ∃ tail, csv = CUSTOM_CSV_HEADER ++ tail ∧ ∀ c ∈ tail.head?, c = '\r' ∨ c = '\n' := by
  rw [not_or, Decidable.not_not, List.isPrefixOf_iff_prefix]
  constructor
  · rintro ⟨⟨tail, rfl⟩, hnext⟩
    refine ⟨tail, rfl, fun c hc => ?_⟩
    rw [List.getElem?_append_right (Nat.le_refl _), Nat.sub_self, ← List.head?_eq_getElem?] at hnext
    by_cases hcr : c = '\r'
    · exact .inl hcr
    · exact .inr (Decidable.not_not.mp fun hlf => hnext ⟨c, hc, hcr, hlf⟩)
  · rintro ⟨tail, htext, hnext⟩
    obtain rfl := htext.symm
    refine ⟨List.prefix_append _ _, ?_⟩
    rw [List.getElem?_append_right (Nat.le_refl _), Nat.sub_self, ← List.head?_eq_getElem?]
    rintro ⟨c, hc, hcr, hlf⟩
    rcases hnext c hc with rfl | rfl
    · exact hcr rfl
    · exact hlf rfl

/-- The parser accepts exactly the texts of maps. -/
theorem parseMap_eq_ok : parseMap strtod memory csv = .ok map ↔
    memory = true ∧ ∃ points, MapText strtod csv points ∧ map = CustomMap.ofPoints points := by
  have hloop (body : List Char) (hsize : body.length ≤ CUSTOM_MAX_CSV_BYTES) :
      parseRows strtod 1 {} body = .ok map ↔ ∃ qs, RowsOf strtod body qs ∧ MapOk ([] ++ qs) ∧
        [] ++ qs ≠ [] ∧ map = qs.foldl CustomMap.append {} :=
    parseRows_eq_ok (loopInv_empty hsize)
  unfold parseMap
  constructor
  · intro h
    split at h
    · cases h
    · next hsize =>
      split at h
      · cases h
      · next hmemory =>
        split at h
        · cases h
        · next hheader =>
          obtain ⟨tail, htext, hnext⟩ := header_iff.mp hheader
          obtain rfl := htext.symm
          split at h
          · cases h
          · next row body hrow =>
            have hend := (readRow_header hnext).mp ⟨row, hrow⟩
            have hle := readRow_lt hrow
            obtain ⟨qs, hqs, hok, hne, rfl⟩ := (hloop body (by omega)).mp h
            exact ⟨Decidable.not_not.mp hmemory, qs,
              ⟨by omega, ⟨tail, body, rfl, hend, hqs⟩, hok, hne⟩, rfl⟩
  · rintro ⟨hmemory, points, H, rfl⟩
    obtain ⟨tail, body, htext, hend, hqs⟩ := H.text
    obtain rfl := htext.symm
    obtain ⟨row, hrow⟩ := (readRow_header hend.head).mpr hend
    have hle := readRow_lt hrow
    have hsize := H.size
    have hne : CUSTOM_CSV_HEADER ++ tail ≠ [] := fun h => by
      rw [h] at hle
      cases hle
    rw [if_neg (not_or.mpr ⟨hne, by omega⟩), if_neg (not_not.mpr hmemory),
      if_neg (header_iff.mpr ⟨tail, rfl, hend.head⟩), hrow]
    exact (hloop body (by omega)).mpr ⟨points, hqs, H.ok, H.nonempty, rfl⟩

theorem CustomMap.holds_ofPoints {points : List MapPoint} (hwf : ∀ q ∈ points, q.WellFormed) :
    (CustomMap.ofPoints points).Holds points := by
  induction points using List.reverseRecOn with
  | nil => exact CustomMap.holds_empty
  | append_singleton points q ih =>
    rw [CustomMap.ofPoints, List.foldl_append]
    exact (ih fun p hp => hwf p (List.mem_append_left _ hp)).append
      (hwf q (List.mem_append_right _ (List.mem_singleton.mpr rfl)))

/-- Every point of a text of rows comes from a row. -/
theorem RowsOf.row (H : RowsOf strtod csv points) (hq : q ∈ points) :
    ∃ row : CsvRow, RowPoint strtod row q ∧ row.NoNul ∧ FittingRow row FIELD_COUNT := by
  obtain ⟨rows, hlines, hfits, hpoints⟩ := H
  have hplain : ∀ row ∈ rows, CsvRow.NoNul row := by
    clear hpoints hfits
    induction hlines with
    | nil => exact fun _ h => (by cases h)
    | last hr =>
      intro row hrow
      rw [List.mem_singleton.mp hrow]
      exact Row.noNul hr
    | cons hr _ _ ih =>
      intro row hrow
      rcases List.mem_cons.mp hrow with rfl | hrow
      · exact Row.noNul hr
      · exact ih row hrow
  clear hlines
  induction hpoints with
  | nil => cases hq
  | cons hpoint _ ih =>
    rcases List.mem_cons.mp hq with rfl | hq
    · exact ⟨_, hpoint, hplain _ List.mem_cons_self, hfits _ List.mem_cons_self⟩
    · exact ih hq (fun row hrow => hfits row (List.mem_cons_of_mem _ hrow))
        fun row hrow => hplain row (List.mem_cons_of_mem _ hrow)

/-- The map of a text stands for the points of the text. -/
theorem MapText.holds (H : MapText strtod csv points) : (CustomMap.ofPoints points).Holds points := by
  obtain ⟨tail, body, -, -, hqs⟩ := H.text
  refine CustomMap.holds_ofPoints fun q hq => ?_
  obtain ⟨row, hpoint, hplain, -⟩ := hqs.row hq
  exact hpoint.wellFormed hplain

end ModbusGateway
