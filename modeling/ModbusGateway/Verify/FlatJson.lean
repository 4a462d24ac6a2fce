import ModbusGateway.Config.Print

/-!
# Reading a flat object back

`flatParse` reads the unformatted text of a flat object. With it what is relied on of cJSON can be met.
-/

namespace ModbusGateway

/-- The character behind a backslash. -/
def unescape (c : Char) : Char := if c = 'r' then '\r' else if c = 'n' then '\n' else c

/-- A string from behind its opening quote, and what follows its closing one. -/
def flatString : List Char → Option (CString × List Char)
  | [] => none
  | '"' :: text => some ([], text)
  | ['\\'] => none
  | '\\' :: c :: text => (flatString text).map fun r => (unescape c :: r.1, r.2)
  | c :: text => (flatString text).map fun r => (c :: r.1, r.2)

/-- A string or an unsigned number. -/
def flatValue : List Char → Option (JsonValue × List Char)
  | '"' :: text => (flatString text).map fun r => (.string r.1, r.2)
  | text =>
    let digits := text.takeWhile Char.isDigit
    if digits = [] then none
    else some (.number (some (Nat.ofDigitChars 10 digits 0 : Rat)), text.dropWhile Char.isDigit)

/-- A quoted name, a colon and a value. -/
def flatMember (text : List Char) : Option ((CString × JsonValue) × List Char) :=
  match flatString text.tail with
  | some (key, c :: text) =>
    if c = ':' then (flatValue text).map fun r => ((key, r.1), r.2) else none
  | _ => none

/-- The members up to the closing brace. -/
def flatMembers : Nat → List Char → Option (JsonMembers × List Char)
  | 0, _ => none
  | fuel + 1, text =>
    match flatMember text with
    | some (m, c :: text) =>
      if c = ',' then (flatMembers fuel text).map fun r => (m :: r.1, r.2) else some ([m], text)
    | _ => none

/-- The object of a text and where it ends. -/
def flatParse : CjsonParse
  | ['{', '}'] => ⟨some [], some 2⟩
  | text =>
    match flatMembers text.length text.tail with
    | some (members, rest) => ⟨some members, some (text.length - rest.length)⟩
    | none => ⟨none, none⟩

theorem flatString_escape (c d : Char) (text : List Char) (hd : unescape d = c) :
    flatString ('\\' :: d :: text) = (flatString text).map fun r => (c :: r.1, r.2) := by
  rw [← hd, flatString]

theorem flatString_plain {c : Char} (hquote : c ≠ '"') (hslash : c ≠ '\\') (text : List Char) :
    flatString (c :: text) = (flatString text).map fun r => (c :: r.1, r.2) := by
  rw [flatString]
  · exact hquote
  · rintro rfl
    exact absurd rfl hslash
  · rintro _ _ rfl
    exact absurd rfl hslash

theorem flatString_escapeChar (c : Char) (text : List Char) :
    flatString (escapeChar c ++ text) = (flatString text).map fun r => (c :: r.1, r.2) := by
  unfold escapeChar
  split
  · next h =>
    apply flatString_escape
    rcases h with rfl | rfl <;> rfl
  · next h =>
    rw [not_or] at h
    split
    · next hr => exact flatString_escape _ _ _ hr.symm
    · split
      · next hn => exact flatString_escape _ _ _ hn.symm
      · exact flatString_plain h.1 h.2 text

/-- A quoted string is read back, whatever follows it. -/
theorem flatString_quote (s : CString) (text : List Char) :
    flatString (s.flatMap escapeChar ++ ('"' :: text)) = some (s, text) := by
  induction s with
  | nil => rfl
  | cons c s ih => rw [List.flatMap_cons, List.append_assoc, flatString_escapeChar, ih, Option.map_some]

theorem toDigits_isDigit {c : Char} (h : c ∈ Nat.toDigits 10 n) : c.isDigit = true :=
  Nat.isDigit_of_mem_toDigits (by decide) (by decide) h

theorem span_digits (n : Nat) {c : Char} (hc : c.isDigit = false) (text : List Char) :
    (Nat.toDigits 10 n ++ c :: text).takeWhile Char.isDigit = Nat.toDigits 10 n ∧
      (Nat.toDigits 10 n ++ c :: text).dropWhile Char.isDigit = c :: text := by
  constructor
  · rw [List.takeWhile_append_of_pos fun _ h => toDigits_isDigit h,
      List.takeWhile_cons_of_neg (by simp [hc]), List.append_nil]
  · rw [List.dropWhile_append_of_pos fun _ h => toDigits_isDigit h,
      List.dropWhile_cons_of_neg (by simp [hc])]

theorem flatValue_text (H : FlatValue value) {c : Char} (hc : c.isDigit = false) (text : List Char) :
    flatValue (valueText value ++ c :: text) = some (value, c :: text) := by
  cases H with
  | string hs =>
    rw [valueText, jsonQuote, List.cons_append, List.append_assoc, List.singleton_append, flatValue,
      flatString_quote, Option.map_some]
  | @number n hn =>
    have hfloor : valueText (.number (some ((n : Nat) : Rat))) = Nat.toDigits 10 n := by
      change Nat.toDigits 10 ((n : Rat).floor.toNat) = _
      rw [← Int.cast_natCast, Rat.floor_intCast, Int.toNat_natCast]
    have hne : Nat.toDigits 10 n ≠ [] := Nat.toDigits_ne_nil
    rw [hfloor, flatValue]
    · rw [(span_digits n hc text).1, (span_digits n hc text).2, if_neg hne,
        Nat.ofDigitChars_ten_toDigits]
    · intro rest heq
      obtain ⟨d, ds, hds⟩ := List.exists_cons_of_ne_nil hne
      rw [hds, List.cons_append] at heq
      have hd : d.isDigit = true := toDigits_isDigit (hds ▸ List.mem_cons_self)
      rw [(List.cons.inj heq).1] at hd
      exact absurd hd (by decide)

theorem flatMember_text (H : FlatValue m.2) {c : Char} (hc : c.isDigit = false) (text : List Char) :
    flatMember (memberText m ++ c :: text) = some (m, c :: text) := by
  rw [memberText, jsonQuote, List.append_assoc, List.cons_append, List.append_assoc,
    List.singleton_append, List.cons_append, flatMember, List.tail_cons, flatString_quote]
  dsimp only
  rw [if_pos rfl, flatValue_text H hc, Option.map_some]

theorem flatMembers_text {members : JsonMembers} (H : ∀ m ∈ members, FlatValue m.2)
    (hne : members ≠ []) (hfuel : members.length ≤ fuel) (text : List Char) :
    flatMembers fuel ([','].intercalate (members.map memberText) ++ '}' :: text) =
      some (members, text) := by
  induction members generalizing fuel with
  | nil => exact absurd rfl hne
  | cons m members ih =>
    obtain ⟨fuel, rfl⟩ : ∃ n, fuel = n + 1 := by
      cases fuel with
      | zero => cases hfuel
      | succ n => exact ⟨n, rfl⟩
    have hm := H m List.mem_cons_self
    cases members with
    | nil =>
      rw [List.map_singleton, List.intercalate_singleton, flatMembers, flatMember_text hm (by decide)]
      dsimp only
      rw [if_neg (by decide)]
    | cons m' members =>
      have hrest := ih (fun m hm => H m (List.mem_cons_of_mem _ hm)) (List.cons_ne_nil _ _)
        (Nat.le_of_succ_le_succ hfuel)
      rw [List.map_cons] at hrest
      rw [List.map_cons, List.map_cons, List.intercalate_cons_cons, List.append_assoc,
        List.append_assoc, List.singleton_append, flatMembers,
        flatMember_text hm (by decide)]
      dsimp only
      rw [if_pos rfl, hrest, Option.map_some]

theorem length_le_flatText (members : JsonMembers) : members.length ≤ (flatText members).length := by
  have hjoin (ts : List (List Char)) (hts : ∀ t ∈ ts, t ≠ []) :
      ts.length ≤ ([','].intercalate ts).length := by
    induction ts with
    | nil => exact Nat.le_refl _
    | cons t ts ih =>
      have ht := List.length_pos_iff.mpr (hts t List.mem_cons_self)
      have hrest := ih fun t' ht' => hts t' (List.mem_cons_of_mem t ht')
      cases ts with
      | nil =>
        rw [List.intercalate_singleton]
        exact ht
      | cons t' ts =>
        rw [List.intercalate_cons_cons, List.length_append, List.length_append,
          List.length_singleton, List.length_cons]
        omega
  have hmembers := hjoin (members.map memberText) fun t ht => by
    obtain ⟨m, -, rfl⟩ := List.mem_map.mp ht
    exact List.cons_ne_nil _ _
  rw [List.length_map] at hmembers
  rw [flatText, List.length_cons, List.length_append]
  omega

/-- What is relied on of cJSON is what this reader does. -/
theorem flatParse_roundTrip : CjsonRoundTrip flatParse flatText where
  print_eq _ := rfl
  parse_print {members} H := by
    cases members with
    | nil => rfl
    | cons m members =>
      have hread := flatMembers_text (fun m hm => (H m hm).2) (List.cons_ne_nil m members)
        (length_le_flatText (m :: members)) []
      rw [flatParse, flatText, List.tail_cons, ← flatText, hread]
      · rfl
      · intro heq
        rw [heq, (List.cons.inj heq).2] at hread
        cases hread

end ModbusGateway
