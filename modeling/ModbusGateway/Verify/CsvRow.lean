import ModbusGateway.Custom.Row
import ModbusGateway.Theory.Csv

/-!
# The grammar of a row

The row reader accepts exactly the rows of comma-separated text that fit its limits
(`readRow_iff`): one lemma for each turn of its two loops, then fields, then rows.
-/

namespace ModbusGateway

open Csv

/-! ## Bare fields -/

/-- A bare field ends at the end of the input, a comma or a line end. -/
def Stops : List Char → Prop
  | [] => True
  | c :: _ => c = ',' ∨ c = '\r' ∨ c = '\n'

theorem readBare_stop (n : Nat) (h : Stops csv) : readBare n csv = some ([], csv) := by
  cases csv with
  | nil => rfl
  | cons c csv => rcases h with rfl | rfl | rfl <;> rfl

theorem readBare_cons {n : Nat} (hc : printable c = true ∧ c ≠ ',' ∧ c ≠ '"')
    (hn : n + 1 < FIELD_BYTES) :
    readBare n (c :: csv) = (readBare (n + 1) csv).map fun r => (c :: r.1, r.2) := by
  have hfull : ¬ n + 1 ≥ FIELD_BYTES := by omega
  simp [readBare, hc, hfull]

/-- The inversion of one turn of the loop. -/
theorem readBare_cons_some {n : Nat} (h : readBare n (c :: csv) = some (s, rest)) :
    (s = [] ∧ rest = c :: csv ∧ Stops (c :: csv)) ∨
      ((printable c = true ∧ c ≠ ',' ∧ c ≠ '"') ∧ n + 1 < FIELD_BYTES ∧
        ∃ s', s = c :: s' ∧ readBare (n + 1) csv = some (s', rest)) := by
  unfold readBare at h
  split at h
  · split at h
    · next heol =>
      cases h
      exact .inl ⟨rfl, rfl, .inr heol⟩
    · cases h
  · next hp =>
    split at h
    · next hcomma =>
      cases h
      exact .inl ⟨rfl, rfl, .inl hcomma⟩
    · next hcomma =>
      split at h
      · cases h
      · next hquote =>
        split at h
        · cases h
        · next hfull =>
          obtain ⟨r, hr, heq⟩ := Option.map_eq_some_iff.mp h
          cases heq
          exact .inr ⟨⟨Decidable.not_not.mp hp, hcomma, hquote⟩, by omega, _, rfl, hr⟩

theorem readBare_iff {n : Nat} (hn : n < FIELD_BYTES) : readBare n csv = some (s, rest) ↔
    (∀ c ∈ s, printable c = true ∧ c ≠ ',' ∧ c ≠ '"') ∧ n + s.length < FIELD_BYTES ∧
      csv = s ++ rest ∧ Stops rest := by
  constructor
  · intro h
    induction csv generalizing n s with
    | nil =>
      cases h
      exact ⟨fun _ hc => (by cases hc), hn, rfl, trivial⟩
    | cons c csv ih =>
      rcases readBare_cons_some h with ⟨rfl, rfl, hstop⟩ | ⟨hc, hn', s', rfl, hrest⟩
      · exact ⟨fun _ hc => (by cases hc), hn, rfl, hstop⟩
      · obtain ⟨hs, hlen, rfl, hstop⟩ := ih hn' hrest
        refine ⟨fun c' hc' => ?_, by rw [List.length_cons]; omega, rfl, hstop⟩
        rcases List.mem_cons.mp hc' with rfl | hc'
        · exact hc
        · exact hs c' hc'
  · rintro ⟨hs, hlen, rfl, hstop⟩
    induction s generalizing n with
    | nil => exact readBare_stop n hstop
    | cons c s ih =>
      rw [List.length_cons] at hlen
      rw [List.cons_append, readBare_cons (hs c List.mem_cons_self) (by omega),
        ih (by omega) (fun c' hc' => hs c' (List.mem_cons_of_mem c hc')) (by omega)]
      rfl

/-! ## Quoted fields -/

theorem readQuoted_quote {n : Nat} (h : rest.head? ≠ some '"') :
    readQuoted n ('"' :: rest) = some ([], rest) := by
  cases rest with
  | nil => rfl
  | cons c rest =>
    have hc : c ≠ '"' := fun heq => h (by rw [heq]; rfl)
    simp [readQuoted, hc]

theorem readQuoted_char {n : Nat} (hprint : printable c = true) (hquote : c ≠ '"') :
    readQuoted n (c :: csv) = if n + 1 ≥ FIELD_BYTES then none
      else (readQuoted (n + 1) csv).map fun r => (c :: r.1, r.2) := by
  simp [readQuoted, hprint, hquote]

theorem readQuoted_refused {n : Nat} (hprint : ¬ printable c = true) :
    readQuoted n (c :: csv) = none := by
  have hquote : c ≠ '"' := fun h => hprint (h ▸ rfl)
  simp [readQuoted, hprint, hquote]

theorem readQuoted_double {n : Nat} (hp : printable c = true) (hn : n + 1 < FIELD_BYTES) :
    readQuoted n (double c ++ csv) = (readQuoted (n + 1) csv).map fun r => (c :: r.1, r.2) := by
  have hfull : ¬ n + 1 ≥ FIELD_BYTES := by omega
  unfold double
  split
  · next hc => simp [readQuoted, hc, hfull]
  · next hc => simp [readQuoted, hc, hfull, hp]

theorem readQuoted_some {n : Nat} (hn : n < FIELD_BYTES)
    (h : readQuoted n csv = some (s, rest)) :
    (∀ c ∈ s, printable c = true) ∧ n + s.length < FIELD_BYTES ∧
      csv = s.flatMap double ++ '"' :: rest ∧ rest.head? ≠ some '"' := by
  fun_induction readQuoted n csv generalizing s with
  | case1 => cases h
  | case2 => cases h
  | case3 n csv hfull ih =>
    obtain ⟨r, hr, heq⟩ := Option.map_eq_some_iff.mp h
    cases heq
    obtain ⟨hs, hlen, hcsv, hrest⟩ := ih (by omega) hr
    refine ⟨fun c hc => ?_, by rw [List.length_cons]; omega, ?_, hrest⟩
    · rcases List.mem_cons.mp hc with rfl | hc
      · rfl
      · exact hs c hc
    · rw [hcsv]
      rfl
  | case4 n csv hne =>
    cases h
    refine ⟨fun _ hc => (by cases hc), hn, rfl, fun hhead => ?_⟩
    obtain ⟨tail, htail⟩ := List.head?_eq_some_iff.mp hhead
    exact hne tail htail
  | case5 => cases h
  | case6 => cases h
  | case7 n c csv hne hne' hp hfull ih =>
    obtain ⟨r, hr, heq⟩ := Option.map_eq_some_iff.mp h
    cases heq
    obtain ⟨hs, hlen, hcsv, hrest⟩ := ih (by omega) hr
    refine ⟨fun c' hc' => ?_, by rw [List.length_cons]; omega, ?_, hrest⟩
    · rcases List.mem_cons.mp hc' with rfl | hc'
      · exact Decidable.not_not.mp hp
      · exact hs c' hc'
    · rw [hcsv, List.flatMap_cons, double, if_neg hne']
      rfl

theorem readQuoted_double_append {n : Nat} (hs : ∀ c ∈ s, printable c = true)
    (hlen : n + s.length < FIELD_BYTES) (hrest : rest.head? ≠ some '"') :
    readQuoted n (s.flatMap double ++ '"' :: rest) = some (s, rest) := by
  induction s generalizing n with
  | nil => exact readQuoted_quote hrest
  | cons c s ih =>
    rw [List.length_cons] at hlen
    rw [List.flatMap_cons, List.append_assoc, readQuoted_double (hs c List.mem_cons_self) (by omega),
      ih (fun c' hc' => hs c' (List.mem_cons_of_mem c hc')) (by omega)]
    rfl

/-! ## Fields -/

/-- The characters of a field. -/
abbrev Plain (c : Char) : Prop := printable c = true

theorem readOne_bare (h : csv.head? ≠ some '"') : readOne csv = readBare 0 csv := by
  unfold readOne
  split
  · exact absurd rfl h
  · rfl

theorem readOne_some (h : readOne csv = some (s, rest)) :
    ∃ t, Field Plain s t ∧ csv = t ++ rest ∧ s.length < FIELD_BYTES := by
  unfold readOne at h
  split at h
  · next csv =>
    obtain ⟨hs, hlen, rfl, -⟩ := readQuoted_some (by decide) h
    exact ⟨_, .quoted hs, by simp, by omega⟩
  · obtain ⟨hs, hlen, rfl, -⟩ := (readBare_iff (by decide)).mp h
    exact ⟨s, .bare hs, rfl, by omega⟩

theorem Stops.head_ne (h : Stops csv) : csv.head? ≠ some '"' := by
  cases csv with
  | nil => exact fun h => by cases h
  | cons c csv => rcases h with rfl | rfl | rfl <;> simp

theorem readOne_field (h : Field Plain s t) (hlen : s.length < FIELD_BYTES) (hstop : Stops rest) :
    readOne (t ++ rest) = some (s, rest) := by
  cases h with
  | bare hs =>
    have hhead : (s ++ rest).head? ≠ some '"' := by
      cases s with
      | nil => exact hstop.head_ne
      | cons c s => exact fun h => (hs c List.mem_cons_self).2.2 (Option.some.inj h)
    rw [readOne_bare hhead]
    exact (readBare_iff (by decide)).mpr ⟨hs, by omega, rfl, hstop⟩
  | quoted hs =>
    rw [List.cons_append, List.append_assoc]
    exact readQuoted_double_append hs (by omega) hstop.head_ne

/-! ## Rows -/

/-- `rest` is what follows a row that ends with `tail`. -/
def RowEnd (tail rest : List Char) : Prop :=
  (tail = [] ∧ rest = []) ∨ ∃ e, Eol e ∧ tail = e ++ rest

theorem readEol_iff : readEol csv = some rest ↔ RowEnd csv rest := by
  constructor
  · intro h
    unfold readEol at h
    split at h
    · cases h
      exact .inl ⟨rfl, rfl⟩
    · cases h
      exact .inr ⟨_, .crlf, rfl⟩
    · cases h
      exact .inr ⟨_, .lf, rfl⟩
    · cases h
  · rintro (⟨rfl, rfl⟩ | ⟨e, heol, rfl⟩)
    · rfl
    · cases heol <;> rfl

theorem readComma_some (h : readComma csv = some rest) : csv = ',' :: rest := by
  unfold readComma at h
  split at h <;> cases h
  rfl

theorem RowEnd.stops (h : RowEnd tail rest) : Stops tail := by
  rcases h with ⟨rfl, -⟩ | ⟨e, heol, rfl⟩
  · trivial
  · cases heol with
    | lf => exact .inr (.inr rfl)
    | crlf => exact .inr (.inl rfl)

/-- A row within the limits of the reader. -/
structure FittingRow (row : CsvRow) (count : Nat) : Prop where
  length : row.length = count
  fields : ∀ s ∈ row, s.length < FIELD_BYTES

theorem readFields_some (h : readFields left csv = some (row, rest)) :
    FittingRow row (left + 1) ∧ ∃ t tail, Row Plain row t ∧ csv = t ++ tail ∧ RowEnd tail rest := by
  induction left generalizing csv row with
  | zero =>
    simp only [readFields, Option.bind_eq_bind, Option.bind_eq_some_iff, Prod.exists] at h
    obtain ⟨s, csv₁, hone, csv₂, heol, heq⟩ := h
    cases heq
    obtain ⟨t, hfield, rfl, hlen⟩ := readOne_some hone
    exact ⟨⟨rfl, by simpa using hlen⟩, t, csv₁, .last hfield, rfl, readEol_iff.mp heol⟩
  | succ left ih =>
    simp only [readFields, Option.bind_eq_bind, Option.bind_eq_some_iff, Prod.exists] at h
    obtain ⟨s, csv₁, hone, csv₂, hcomma, ss, csv₃, hrest, heq⟩ := h
    cases heq
    obtain ⟨t, hfield, rfl, hlen⟩ := readOne_some hone
    obtain ⟨hfits, ts, tail, hrow, rfl, hend⟩ := ih hrest
    refine ⟨⟨congrArg (· + 1) hfits.length, ?_⟩, t ++ ',' :: ts, tail, .cons hfield hrow, ?_, hend⟩
    · intro s' hs'
      rcases List.mem_cons.mp hs' with rfl | hs'
      · exact hlen
      · exact hfits.fields s' hs'
    · rw [readComma_some hcomma]
      simp

theorem readFields_row (hrow : Row Plain row t) (hfits : FittingRow row (left + 1))
    (hend : RowEnd tail rest) : readFields left (t ++ tail) = some (row, rest) := by
  induction hrow generalizing left with
  | @last s t hfield =>
    have hleft : left = 0 := Nat.succ.inj hfits.length.symm
    subst hleft
    have hone := readOne_field hfield (hfits.fields s List.mem_cons_self) hend.stops
    simp only [readFields, hone, Option.bind_eq_bind, Option.bind_some, readEol_iff.mpr hend]
    rfl
  | @cons s t ss ts hfield hrow ih =>
    have hlen : ss.length = left := Nat.succ.inj hfits.length
    obtain ⟨left, rfl⟩ : ∃ k, left = k + 1 := by
      cases hrow <;> exact ⟨_, hlen.symm⟩
    have hone : readOne (t ++ ',' :: (ts ++ tail)) = some (s, ',' :: (ts ++ tail)) :=
      readOne_field hfield (hfits.fields s List.mem_cons_self) (.inl rfl)
    have htail := ih ⟨hlen, fun s' hs' => hfits.fields s' (List.mem_cons_of_mem s hs')⟩
    rw [List.append_assoc, List.cons_append]
    simp only [readFields, hone, Option.bind_eq_bind, Option.bind_some, readComma, htail]
    rfl

/-- The row reader accepts exactly the rows of the grammar. -/
theorem readRow_iff : readRow csv = some (row, rest) ↔
    FittingRow row FIELD_COUNT ∧
      ∃ t tail, Row Plain row t ∧ csv = t ++ tail ∧ RowEnd tail rest := by
  constructor
  · exact readFields_some
  · rintro ⟨hfits, t, tail, hrow, rfl, hend⟩
    exact readFields_row hrow hfits hend

theorem RowEnd.length_le (h : RowEnd tail rest) : rest.length ≤ tail.length := by
  rcases h with ⟨rfl, rfl⟩ | ⟨e, -, rfl⟩
  · exact Nat.le_refl _
  · rw [List.length_append]
    omega

/-- A row takes at least its fields and the commas between them. -/
theorem readRow_consumes (h : readRow csv = some (row, rest)) :
    rest.length + (row.map List.length).sum + 14 ≤ csv.length := by
  obtain ⟨hfits, t, tail, hrow, rfl, hend⟩ := readRow_iff.mp h
  have hle := hend.length_le
  have hrowle := hrow.length_le
  have hcount := hfits.length
  rw [hcount, FIELD_COUNT] at hrowle
  rw [List.length_append]
  omega

theorem readRow_lt (h : readRow csv = some (row, rest)) : rest.length < csv.length := by
  have hle := readRow_consumes h
  omega

end ModbusGateway
