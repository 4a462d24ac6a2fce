import ModbusGateway.Verify.ConfigParse
import ModbusGateway.Verify.FlatJson
import ModbusGateway.Verify.JsonScan
import ModbusGateway.Verify.MapRoundTrip
import ModbusGateway.Web.Save

/-!
# A saved configuration boots

The text that is stored passes every check it meets at the next boot. The scanners are run over the
image of the printer, string by string; the fields are those of the candidate.
-/

namespace ModbusGateway

/-! ## The scanners on printed text -/

theorem escapeChar_cases (c : Char) :
    (escapeChar c = [c] ∧ c ≠ '"' ∧ c ≠ '\\') ∨
      ∃ d, escapeChar c = ['\\', d] ∧ d ≠ 'u' ∧ d ≠ '\x00' := by
  unfold escapeChar
  split
  · next h =>
    right
    rcases h with rfl | rfl
    · exact ⟨_, rfl, by decide, by decide⟩
    · exact ⟨_, rfl, by decide, by decide⟩
  · next h =>
    rw [not_or] at h
    split
    · exact .inr ⟨_, rfl, by decide, by decide⟩
    · split
      · exact .inr ⟨_, rfl, by decide, by decide⟩
      · exact .inl ⟨rfl, h⟩

theorem hasNulEscape_quote (s : CString) (text : List Char) :
    hasNulEscape (jsonQuote s ++ text) = hasNulEscape text := by
  have hbody : hasNulEscape (s.flatMap escapeChar ++ ('"' :: text)) = hasNulEscape text := by
    induction s with
    | nil => exact hasNulEscape_cons (by decide) text
    | cons c s ih =>
      rw [List.flatMap_cons, List.append_assoc]
      rcases escapeChar_cases c with ⟨hc, -, hne⟩ | ⟨d, hc, hd, -⟩
      · rw [hc, List.singleton_append, hasNulEscape_cons hne, ih]
      · rw [hc, List.cons_append, List.singleton_append, hasNulEscape_escape hd, ih]
  rw [jsonQuote, List.cons_append, hasNulEscape_cons (by decide), List.append_assoc,
    List.singleton_append, hbody]

/-- A text without quotes, backslashes and brackets: a numeral. -/
def Bare (text : List Char) : Prop := ∀ c ∈ text, c.isDigit = true

theorem Bare.ne {text : List Char} (H : Bare text) (hd : d.isDigit = false) : ∀ c ∈ text, c ≠ d := by
  rintro c hc rfl
  rw [H c hc] at hd
  cases hd

theorem hasNulEscape_bare {s : List Char} (H : Bare s) (text : List Char) :
    hasNulEscape (s ++ text) = hasNulEscape text := by
  induction s with
  | nil => rfl
  | cons c s ih =>
    have hc : c ≠ '\\' := H.ne (by decide) c List.mem_cons_self
    rw [List.cons_append, hasNulEscape_cons hc]
    exact ih fun c' hc' => H c' (List.mem_cons_of_mem _ hc')

/-- In a string nothing but the closing quote has a meaning. -/
theorem flatLoop_quote (s : CString) (depth : Nat) (text : List Char) :
    flatLoop false false depth (jsonQuote s ++ text) = flatLoop false false depth text := by
  have hbody : flatLoop false true depth (s.flatMap escapeChar ++ ('"' :: text)) =
      flatLoop false false depth text := by
    induction s with
    | nil => rfl
    | cons c s ih =>
      rw [List.flatMap_cons, List.append_assoc]
      rcases escapeChar_cases c with ⟨hc, hquote, hslash⟩ | ⟨d, hc, -, -⟩
      · rw [hc, List.singleton_append]
        simp only [flatLoop, hquote, hslash, and_false, if_false, if_true, Bool.false_eq_true]
        exact ih
      · rw [hc, List.cons_append, List.singleton_append]
        simp only [flatLoop, and_self, if_true, if_false, Bool.false_eq_true]
        exact ih
  rw [jsonQuote, List.cons_append, List.append_assoc, List.singleton_append]
  exact hbody

theorem flatLoop_bare {s : List Char} (H : Bare s) (depth : Nat) (text : List Char) :
    flatLoop false false depth (s ++ text) = flatLoop false false depth text := by
  induction s with
  | nil => rfl
  | cons c s ih =>
    have hc : c ∉ ['"', '{', '[', '}', ']'] := by
      have hne := fun d hd => H.ne (d := d) hd c List.mem_cons_self
      simp only [List.mem_cons, List.not_mem_nil, or_false, not_or]
      exact ⟨hne _ (by decide), hne _ (by decide), hne _ (by decide), hne _ (by decide),
        hne _ (by decide)⟩
    rw [List.cons_append, flatLoop_cons hc]
    exact ih fun c' hc' => H c' (List.mem_cons_of_mem _ hc')

/-- A piece of text that leaves a scanner as it was. -/
def Neutral (scan : List Char → Bool) (s : List Char) : Prop := ∀ text, scan (s ++ text) = scan text

theorem Neutral.append {scan : List Char → Bool} (hs : Neutral scan s) (ht : Neutral scan t) :
    Neutral scan (s ++ t) := by
  intro text
  rw [List.append_assoc, hs, ht]

theorem Neutral.intercalate {scan : List Char → Bool} (hsep : Neutral scan sep)
    (hts : ∀ t ∈ ts, Neutral scan t) : Neutral scan (sep.intercalate ts) := by
  induction ts with
  | nil => exact fun _ => rfl
  | cons t ts ih =>
    cases ts with
    | nil =>
      rw [List.intercalate_singleton]
      exact hts t List.mem_cons_self
    | cons t' ts =>
      rw [List.intercalate_cons_cons]
      exact ((hts t List.mem_cons_self).append hsep).append
        (ih fun t ht => hts t (List.mem_cons_of_mem _ ht))

theorem toDigits_bare (n : Nat) : Bare (Nat.toDigits 10 n) :=
  fun c hc => Nat.isDigit_of_mem_toDigits (by decide) (by decide) hc

/-- A scanner that is left alone by strings, numerals and separators is left alone by members. -/
theorem Neutral.member {scan : List Char → Bool} (hquote : ∀ s, Neutral scan (jsonQuote s))
    (hbare : ∀ s, Bare s → Neutral scan s) (hcolon : Neutral scan [':'])
    (m : CString × JsonValue) : Neutral scan (memberText m) := by
  have hvalue : Neutral scan (valueText m.2) := by
    cases m.2 with
    | number v => exact hbare _ (toDigits_bare _)
    | string s => exact hquote s
    | other => exact fun _ => rfl
  exact (hquote m.1).append (hcolon.append hvalue)

theorem flatText_isFlat (members : JsonMembers) : gatewayJsonIsFlat (flatText members) = true := by
  have hmembers : Neutral (flatLoop false false 1) ([','].intercalate (members.map memberText)) := by
    refine .intercalate (flatLoop_cons (by decide) 1) fun t ht => ?_
    obtain ⟨m, -, rfl⟩ := List.mem_map.mp ht
    exact .member (fun s => flatLoop_quote s 1) (fun s hs => flatLoop_bare hs 1)
      (flatLoop_cons (by decide) 1) m
  have hopen (text : List Char) :
      flatLoop false false 0 ('{' :: text) = flatLoop false false 1 text := by
    rfl
  rw [gatewayJsonIsFlat, flatText, hopen, hmembers]
  rfl

theorem hasNulEscape_flatText (members : JsonMembers) : hasNulEscape (flatText members) = false := by
  have hmembers : Neutral hasNulEscape ([','].intercalate (members.map memberText)) := by
    refine .intercalate (hasNulEscape_cons (by decide)) fun t ht => ?_
    obtain ⟨m, -, rfl⟩ := List.mem_map.mp ht
    exact .member hasNulEscape_quote (fun s hs => hasNulEscape_bare hs)
      (hasNulEscape_cons (by decide)) m
  rw [flatText, hasNulEscape_cons (by decide), hmembers]
  rfl

/-! ## No NUL -/

theorem plain_ne_nul' {c : Char} (h : printable c = true ∨ c = '\r' ∨ c = '\n') : c ≠ '\x00' := by
  rintro rfl
  revert h
  decide

theorem jsonQuote_noNul (hs : plainText s) : '\x00' ∉ jsonQuote s := by
  unfold jsonQuote
  simp only [List.mem_cons, List.mem_append, List.mem_flatMap, List.not_mem_nil, or_false, not_or,
    not_exists, not_and]
  refine ⟨by decide, fun c hc => ?_, by decide⟩
  rcases escapeChar_cases c with ⟨heq, -⟩ | ⟨d, heq, -, hd⟩
  · rw [heq, List.mem_singleton]
    exact Ne.symm (plain_ne_nul' (hs c hc))
  · rw [heq]
    simp [Ne.symm hd]

theorem mem_intercalate {sep : List α} {ts : List (List α)} (h : a ∈ sep.intercalate ts) :
    a ∈ sep ∨ ∃ t ∈ ts, a ∈ t := by
  induction ts with
  | nil => cases h
  | cons t ts ih =>
    cases ts with
    | nil =>
      rw [List.intercalate_singleton] at h
      exact .inr ⟨t, List.mem_cons_self, h⟩
    | cons t' ts =>
      rw [List.intercalate_cons_cons, List.mem_append, List.mem_append] at h
      rcases h with (h | h) | h
      · exact .inr ⟨t, List.mem_cons_self, h⟩
      · exact .inl h
      · rcases ih h with h | ⟨t'', ht, h⟩
        · exact .inl h
        · exact .inr ⟨t'', List.mem_cons_of_mem _ ht, h⟩

theorem flatText_noNul (H : FlatMembers members) : gatewayJsonHasNul (flatText members) = false := by
  have hnul : '\x00' ∉ flatText members := by
    unfold flatText
    intro hmem
    rcases List.mem_cons.mp hmem with h | h
    · cases h
    · rcases List.mem_append.mp h with h | h
      · rcases mem_intercalate h with h | ⟨t, ht, h⟩
        · revert h
          decide
        · obtain ⟨m, hm, rfl⟩ := List.mem_map.mp ht
          obtain ⟨hkey, hvalue⟩ := H m hm
          rcases List.mem_append.mp h with h | h
          · exact jsonQuote_noNul hkey h
          · rcases List.mem_cons.mp h with h | h
            · cases h
            · cases hv : m.2 with
              | other =>
                rw [hv] at h
                cases h
              | string s =>
                rw [hv] at h hvalue
                cases hvalue with
                | string hs => exact jsonQuote_noNul hs h
              | number v =>
                rw [hv] at h
                exact (toDigits_bare _).ne (by decide) _ h rfl
      · revert h
        decide
  rw [gatewayJsonHasNul, hasNulEscape_flatText, Bool.or_false]
  simpa using hnul

/-! ## Size -/

theorem jsonQuote_length (s : CString) : (jsonQuote s).length ≤ 2 * s.length + 2 := by
  have hbody : (s.flatMap escapeChar).length ≤ 2 * s.length := by
    induction s with
    | nil => exact Nat.le_refl _
    | cons c s ih =>
      have hc : (escapeChar c).length ≤ 2 := by
        rcases escapeChar_cases c with ⟨h, -⟩ | ⟨d, h, -⟩
        · rw [h]
          exact Nat.le_succ 1
        · rw [h]
          exact Nat.le_refl 2
      rw [List.flatMap_cons, List.length_append, List.length_cons]
      omega
  rw [jsonQuote, List.length_cons, List.length_append, List.length_singleton]
  omega

theorem toDigits_length (h : n < 2 ^ 32) : (Nat.toDigits 10 n).length ≤ 10 :=
  (Nat.length_toDigits_le_iff (by decide) (by decide)).mpr (by omega)

theorem length_intercalate_le (ts : List (List Char)) :
    ([','].intercalate ts).length ≤ (ts.map fun t => t.length + 1).sum := by
  induction ts with
  | nil => exact Nat.le_refl _
  | cons t ts ih =>
    cases ts with
    | nil => simp
    | cons t' ts =>
      rw [List.intercalate_cons_cons, List.length_append, List.length_append, List.length_singleton,
        List.map_cons, List.sum_cons]
      omega

theorem memberText_string (key s : CString) :
    (memberText (key, .string s)).length ≤ 2 * key.length + 2 * s.length + 5 := by
  have hkey := jsonQuote_length key
  have hvalue := jsonQuote_length s
  rw [memberText, List.length_append, List.length_cons]
  change (jsonQuote key).length + ((jsonQuote s).length + 1) ≤ _
  omega

theorem memberText_field (name : String) (h : n < 2 ^ 32) :
    (memberText (jsonField name n)).length ≤ 2 * name.toList.length + 13 := by
  have hkey := jsonQuote_length name.toList
  have hvalue := toDigits_length h
  have hnum : valueText (jsonField name n).2 = Nat.toDigits 10 n := by
    change Nat.toDigits 10 ((n : Rat).floor.toNat) = _
    rw [floor_natCast, Int.toNat_natCast]
  rw [memberText, hnum, List.length_append, List.length_cons]
  change (jsonQuote name.toList).length + _ ≤ _
  omega

/-! ## The stored text -/

/-- What is known of a configuration that is stored. -/
structure Savable (env : ConfigEnv) (c : GatewayConfig) : Prop where
  host_ne : c.modbusHost ≠ []
  host_lt : c.modbusHost.length < 16
  host_plain : ∀ ch ∈ c.modbusHost, 32 ≤ ch.toNat ∧ ch.toNat ≤ 126
  unicast : UnicastHost env c.modbusHost
  name_ne : c.deviceName ≠ []
  name_lt : c.deviceName.length < 96
  name_plain : ∀ ch ∈ c.deviceName, 32 ≤ ch.toNat ∧ ch.toNat ≤ 126
  name_unreserved : ¬ CString.hasPrefix c.deviceName "Gateway-".toList = true
  modbusPort : 1 ≤ c.modbusPort ∧ c.modbusPort ≤ 65535
  modbusUnit : c.modbusUnit ≤ 255
  bacnetPort : 1 ≤ c.bacnetPort ∧ c.bacnetPort ≤ 65535
  deviceInstance : c.deviceInstance ≤ 4194302
  expectedFirmware : c.expectedFirmware ≤ 65535
  expectedMacFragment : c.expectedMacFragment ≤ 32767
  revision : 1 ≤ c.revision ∧ c.revision ≤ UINT32_MAX
  csv_le : c.csv.length ≤ CUSTOM_MAX_CSV_BYTES
  csv_plain : plainText c.csv

theorem profileId_length (profile : GwProfile) :
    1 ≤ (gatewayProfileId profile).toList.length ∧ (gatewayProfileId profile).toList.length ≤ 19 := by
  cases profile <;> decide +kernel

theorem profileId_plain (profile : GwProfile) :
    ∀ ch ∈ (gatewayProfileId profile).toList, 32 ≤ ch.toNat ∧ ch.toNat ≤ 126 := by
  cases profile <;> decide +kernel

variable {env : ConfigEnv} {c : GatewayConfig}

theorem plainText_of_range {s : CString} (H : ∀ ch ∈ s, 32 ≤ ch.toNat ∧ ch.toNat ≤ 126) :
    plainText s := by
  intro ch hch
  left
  unfold printable
  rw [Bool.and_eq_true, decide_eq_true_eq, decide_eq_true_eq]
  exact H ch hch

/-- A key is looked up as a string: taking literals apart is slow. -/
theorem mem_configKeys {name : String}
    (h : name ∈ ["profile", "modbus_host", "modbus_port", "modbus_unit", "device_instance",
      "device_name", "bacnet_port", "expected_firmware", "expected_mac_fragment", "revision", "csv"]) :
    name.toList ∈ configKeys :=
  List.mem_map_of_mem h

theorem Savable.numbers_le (H : Savable env c) :
    c.modbusPort ≤ UINT32_MAX ∧ c.modbusUnit ≤ UINT32_MAX ∧ c.deviceInstance ≤ UINT32_MAX ∧
      c.bacnetPort ≤ UINT32_MAX ∧ c.expectedFirmware ≤ UINT32_MAX ∧
      c.expectedMacFragment ≤ UINT32_MAX ∧ c.revision ≤ UINT32_MAX := by
  have hmax : UINT32_MAX = 2 ^ 32 - 1 := rfl
  have hport := H.modbusPort
  have hunit := H.modbusUnit
  have hbacnet := H.bacnetPort
  have hinstance := H.deviceInstance
  have hfirmware := H.expectedFirmware
  have hmac := H.expectedMacFragment
  have hrevision := H.revision
  omega

theorem Savable.flatMembers (H : Savable env c) : FlatMembers (gatewayConfigJson c true) := by
  have hkeys : ∀ key ∈ configKeys, plainText key := by
    intro key hkey
    apply plainText_of_range
    revert key
    decide +kernel
  have hword {n : Nat} (h : n ≤ UINT32_MAX) : n < 2 ^ 32 := Nat.lt_succ_of_le h
  obtain ⟨hport, hunit, hinstance, hbacnet, hfirmware, hmac, hrevision⟩ := H.numbers_le
  intro m hm
  simp only [gatewayConfigJson, if_true, List.cons_append, List.nil_append, List.mem_cons,
    List.not_mem_nil, or_false] at hm
  rcases hm with rfl | rfl | rfl | rfl | rfl | rfl | rfl | rfl | rfl | rfl | rfl
  · exact ⟨hkeys _ (mem_configKeys (by decide)), .string (plainText_of_range (profileId_plain _))⟩
  · exact ⟨hkeys _ (mem_configKeys (by decide)), .string (plainText_of_range H.host_plain)⟩
  · exact ⟨hkeys _ (mem_configKeys (by decide)), .string (plainText_of_range H.name_plain)⟩
  · exact ⟨hkeys _ (mem_configKeys (by decide)), .number (hword hport)⟩
  · exact ⟨hkeys _ (mem_configKeys (by decide)), .number (hword hunit)⟩
  · exact ⟨hkeys _ (mem_configKeys (by decide)), .number (hword hinstance)⟩
  · exact ⟨hkeys _ (mem_configKeys (by decide)), .number (hword hbacnet)⟩
  · exact ⟨hkeys _ (mem_configKeys (by decide)), .number (hword hfirmware)⟩
  · exact ⟨hkeys _ (mem_configKeys (by decide)), .number (hword hmac)⟩
  · exact ⟨hkeys _ (mem_configKeys (by decide)), .number (hword hrevision)⟩
  · exact ⟨hkeys _ (mem_configKeys (by decide)), .string H.csv_plain⟩

theorem configKeys_length {name : String} (h : name.toList ∈ configKeys) : name.toList.length ≤ 21 := by
  have hall : ∀ key ∈ configKeys, key.length ≤ 21 := by decide +kernel
  exact hall _ h

/-- The stored text is never too long. -/
theorem Savable.flatText_length (H : Savable env c) :
    (flatText (gatewayConfigJson c true)).length ≤ GW_CONFIG_MAX_JSON := by
  obtain ⟨hport, hunit, hinstance, hbacnet, hfirmware, hmac, hrevision⟩ := H.numbers_le
  have hhost := H.host_lt
  have hname := H.name_lt
  have hcsv := H.csv_le
  have hprofile := (profileId_length c.profile).2
  have hstring {name : String} (h : name.toList ∈ configKeys) (s : CString) :
      (memberText (name.toList, .string s)).length ≤ 2 * s.length + 47 := by
    have hkey := configKeys_length h
    have hmember := memberText_string name.toList s
    omega
  have hfield {name : String} (h : name.toList ∈ configKeys) {n : Nat} (hn : n ≤ UINT32_MAX) :
      (memberText (jsonField name n)).length ≤ 55 := by
    have hkey := configKeys_length h
    have hmember := memberText_field name (Nat.lt_succ_of_le hn : n < 2 ^ 32)
    omega
  have h₁ := @hstring "profile" (mem_configKeys (by decide)) (gatewayProfileId c.profile).toList
  have h₂ := @hstring "modbus_host" (mem_configKeys (by decide)) c.modbusHost
  have h₃ := @hstring "device_name" (mem_configKeys (by decide)) c.deviceName
  have h₄ := @hfield "modbus_port" (mem_configKeys (by decide)) _ hport
  have h₅ := @hfield "modbus_unit" (mem_configKeys (by decide)) _ hunit
  have h₆ := @hfield "device_instance" (mem_configKeys (by decide)) _ hinstance
  have h₇ := @hfield "bacnet_port" (mem_configKeys (by decide)) _ hbacnet
  have h₈ := @hfield "expected_firmware" (mem_configKeys (by decide)) _ hfirmware
  have h₉ := @hfield "expected_mac_fragment" (mem_configKeys (by decide)) _ hmac
  have h₁₀ := @hfield "revision" (mem_configKeys (by decide)) _ hrevision
  have h₁₁ := @hstring "csv" (mem_configKeys (by decide)) c.csv
  have hjoin := length_intercalate_le ((gatewayConfigJson c true).map memberText)
  simp only [gatewayConfigJson, if_true, List.cons_append, List.nil_append, List.map_cons,
    List.map_nil, List.sum_cons, List.sum_nil] at hjoin ⊢
  rw [flatText, List.length_cons, List.length_append, List.length_singleton]
  unfold CUSTOM_MAX_CSV_BYTES at hcsv
  unfold GW_CONFIG_MAX_JSON
  simp only [List.map_cons, List.map_nil]
  omega

/-! ## The CSV -/

theorem plainText_append {s t : CString} (hs : plainText s) (ht : plainText t) :
    plainText (s ++ t) := by
  intro ch hch
  rcases List.mem_append.mp hch with hch | hch
  · exact hs ch hch
  · exact ht ch hch

theorem plainText_of_plain {s : CString} (hs : ∀ ch ∈ s, Plain ch) : plainText s :=
  fun ch hch => .inl (hs ch hch)

theorem Eol.plainText (H : Csv.Eol e) : plainText e := by
  intro ch hch
  right
  cases H with
  | lf => exact .inr (List.mem_singleton.mp hch)
  | crlf =>
    rcases List.mem_cons.mp hch with rfl | hch
    · exact .inl rfl
    · exact .inr (List.mem_singleton.mp hch)

theorem Lines.plainText (H : Csv.Lines Plain rows csv) : plainText csv := by
  induction H with
  | nil => exact fun _ h => (by cases h)
  | last hrow => exact plainText_of_plain (Row.printable hrow)
  | cons hrow heol _ ih =>
    exact plainText_append (plainText_of_plain (Row.printable hrow))
      (plainText_append (Eol.plainText heol) ih)

/-- The text of a map is printed back as it was. -/
theorem MapText.plainText (H : MapText strtod csv points) : plainText csv := by
  obtain ⟨tail, body, htext, hend, rows, hlines, -⟩ := H.text
  have hbody : ModbusGateway.plainText body := Lines.plainText hlines
  have htail : ModbusGateway.plainText tail := by
    rcases hend with ⟨rfl, rfl⟩ | ⟨e, heol, rfl⟩
    · exact hbody
    · exact plainText_append (Eol.plainText heol) hbody
  rw [htext]
  exact plainText_append (plainText_of_plain (Row.printable header_row)) htail

theorem MapText.csv_ne (H : MapText strtod csv points) : csv ≠ [] := by
  obtain ⟨tail, -, htext, -⟩ := H.text
  have hheader : CUSTOM_CSV_HEADER ≠ [] := by decide +kernel
  rw [htext]
  exact List.append_ne_nil_of_left_ne_nil hheader tail

theorem MapText.mapOf (H : MapText strtod csv points) :
    MapOf strtod csv (CustomMap.ofPoints points) := by
  rw [MapOf, if_neg H.csv_ne]
  exact parseMap_eq_ok.mpr ⟨rfl, points, H, rfl⟩

theorem MapOf.csv_ok (H : MapOf strtod csv map) :
    csv.length ≤ CUSTOM_MAX_CSV_BYTES ∧ plainText csv := by
  by_cases hcsv : csv = []
  · rw [hcsv]
    exact ⟨Nat.zero_le _, fun _ h => (by cases h)⟩
  · rw [MapOf, if_neg hcsv] at H
    obtain ⟨-, points, htext, -⟩ := parseMap_eq_ok.mp H
    exact ⟨htext.size, htext.plainText⟩

/-! ## The candidate -/

/-- A candidate that passed its checks may be stored, with any revision. -/
theorem FieldsOf.savable {revision : Nat} (H : FieldsOf env members base c) (hmap : MapFor env c map)
    (hrevision : 1 ≤ revision ∧ revision ≤ UINT32_MAX) :
    Savable env { c with revision := revision } := by
  obtain ⟨hcsv, hplain⟩ := hmap.map_eq.csv_ok
  exact {
    host_ne := H.host.nonempty
    host_lt := H.host.length_lt
    host_plain := H.host.printable
    unicast := H.unicast
    name_ne := H.name.nonempty
    name_lt := H.name.length_lt
    name_plain := H.name.printable
    name_unreserved := H.name_unreserved
    modbusPort := ⟨H.modbusPort.low_le, H.modbusPort.le_high⟩
    modbusUnit := H.modbusUnit.le_high
    bacnetPort := ⟨H.bacnetPort.low_le, H.bacnetPort.le_high⟩
    deviceInstance := H.deviceInstance.le_high
    expectedFirmware := H.expectedFirmware.le_high
    expectedMacFragment := H.expectedMacFragment.le_high
    revision := hrevision
    csv_le := hcsv
    csv_plain := hplain }

theorem getItem_of_mem (hnodup : (members.map Prod.fst).Nodup) (h : (key, value) ∈ members) :
    getItem members key = some value := by
  induction members with
  | nil => cases h
  | cons m members ih =>
    rw [List.map_cons, List.nodup_cons] at hnodup
    obtain ⟨hnew, hrest⟩ := hnodup
    rcases List.mem_cons.mp h with rfl | hmem
    · rw [getItem, List.find?_cons_of_pos (by simp)]
      rfl
    · have hne : m.1 ≠ key := by
        rintro rfl
        exact hnew (List.mem_map.mpr ⟨_, hmem, rfl⟩)
      rw [getItem, List.find?_cons_of_neg (by simpa using hne)]
      exact ih hrest hmem

/-- The properties that are printed are those that are parsed. -/
theorem json_keys (c : GatewayConfig) : KnownKeys (gatewayConfigJson c true) := by
  have hkeys : (gatewayConfigJson c true).map Prod.fst =
      ["profile", "modbus_host", "device_name", "modbus_port", "modbus_unit", "device_instance",
        "bacnet_port", "expected_firmware", "expected_mac_fragment", "revision", "csv"].map
        String.toList := by
    rfl
  constructor
  · rw [hkeys]
    decide +kernel
  · rw [hkeys]
    decide +kernel

theorem Savable.fieldsOf (H : Savable env c) (base : GatewayConfig) :
    FieldsOf env (gatewayConfigJson c true) base c := by
  have hitem {key : CString} {value : JsonValue} (h : (key, value) ∈ gatewayConfigJson c true) :
      getItem (gatewayConfigJson c true) key = some value :=
    getItem_of_mem (json_keys c).once h
  have hnumber {name : String} {n low high : Nat} (h : jsonField name n ∈ gatewayConfigJson c true)
      (hlow : low ≤ n) (hhigh : n ≤ high) :
      IsNumber (gatewayConfigJson c true) name low high n :=
    ⟨hitem h, hlow, hhigh⟩
  have hprofile := profileId_length c.profile
  have hne : (gatewayProfileId c.profile).toList ≠ [] := by
    intro h
    rw [h] at hprofile
    cases hprofile.1
  exact {
    profile := ⟨hitem (by simp [gatewayConfigJson]), hne, by omega, profileId_plain c.profile⟩
    host := ⟨hitem (by simp [gatewayConfigJson]), H.host_ne, H.host_lt, H.host_plain⟩
    unicast := H.unicast
    name := ⟨hitem (by simp [gatewayConfigJson]), H.name_ne, H.name_lt, H.name_plain⟩
    name_unreserved := H.name_unreserved
    modbusPort := hnumber (by simp [gatewayConfigJson]) H.modbusPort.1 H.modbusPort.2
    modbusUnit := hnumber (by simp [gatewayConfigJson]) (Nat.zero_le _) H.modbusUnit
    bacnetPort := hnumber (by simp [gatewayConfigJson]) H.bacnetPort.1 H.bacnetPort.2
    deviceInstance := hnumber (by simp [gatewayConfigJson]) (Nat.zero_le _) H.deviceInstance
    expectedFirmware := hnumber (by simp [gatewayConfigJson]) (Nat.zero_le _) H.expectedFirmware
    expectedMacFragment :=
      hnumber (by simp [gatewayConfigJson]) (Nat.zero_le _) H.expectedMacFragment
    revision := hnumber (by simp [gatewayConfigJson]) H.revision.1 H.revision.2
    csv := .request (hitem (by simp [gatewayConfigJson])) H.csv_le }

/-- The text that is stored passes the checks on the text. -/
theorem Savable.textOk (H : Savable env c) (hcjson : CjsonRoundTrip env.parse print) :
    TextOk env (print (gatewayConfigJson c true)) (gatewayConfigJson c true) := by
  have hflat := H.flatMembers
  have hprint := hcjson.print_eq hflat
  have hobject : completeObject env.parse (print (gatewayConfigJson c true)) =
      some (gatewayConfigJson c true) := by
    unfold completeObject
    rw [hcjson.parse_print hflat]
    dsimp only
    rw [List.drop_length, if_pos]
    exact ⟨Nat.le_refl _, rfl⟩
  refine ⟨?_, ?_, ?_, ?_, hobject, json_keys c⟩
  · rw [hprint]
    exact List.cons_ne_nil _ _
  · rw [hprint]
    exact H.flatText_length
  · rw [hprint]
    exact flatText_noNul hflat
  · rw [hprint]
    exact flatText_isFlat _

/-! ## From the request to the boot -/

/-- At boot every call succeeds and NVS returns the bytes that were stored. -/
structure LoadCalls.Healthy (calls : LoadCalls) (blob : List Char) : Prop where
  prepare : calls.prepare = ESP_OK
  init : calls.init = ESP_OK
  opened : calls.opened = ESP_OK
  size : calls.size = (ESP_OK, blob.length)
  buffer : calls.buffer = true
  read : calls.read = (ESP_OK, blob.length)
  memory : calls.memory = ⟨true, true, true, true⟩

theorem MapFor.revision (H : MapFor env c map) (revision : Nat) :
    MapFor env { c with revision } map :=
  ⟨H.custom, H.map_eq, H.names, H.preset⟩

/-- What is stored for a reply with status 200. -/
theorem saveHandler_stored
    (h : saveHandler env print calls kept body s = (.saved revision, s')) :
    ∃ c map, gatewayConfigParse env calls.memory body s.active gatewayConfigDefaults {} []
        SAVE_ERROR_BYTES = ⟨true, c, map, []⟩ ∧ c.revision = s.active.revision ∧
      s.active.revision ≠ UINT32_MAX ∧
      s'.stored = some (print (gatewayConfigJson { c with revision := u32 (c.revision + 1) } true)) := by
  unfold saveHandler at h
  split at h
  · cases h
  · split at h
    · cases h
    · dsimp only at h
      split at h
      · cases h
      · next hok =>
        obtain ⟨c, map, -, heq⟩ := gatewayConfigParse_ok (Decidable.not_not.mp hok)
        rw [heq] at h
        simp only [ne_eq, ite_not] at h
        split at h
        · next hrevision =>
          split at h
          · cases h
          · next hmax =>
            split at h
            · cases h
            · split at h
              · cases h
                exact ⟨c, map, heq, hrevision, hmax, rfl⟩
              · cases h
        · cases h

/-- What a healthy boot makes of a stored text is what the parser makes of it. -/
theorem gatewayWebLoad_healthy (H : LoadCalls.Healthy load blob) (hne : blob ≠ [])
    (hsize : blob.length ≤ GW_CONFIG_MAX_JSON) :
    gatewayWebLoad env errName load blob base map size =
      let r := gatewayConfigParse env ⟨true, true, true, true⟩ blob base base map [] size
      (r.out, r.map, r.error) := by
  have hlength : blob.length ≠ 0 := fun h => hne (List.length_eq_zero_iff.mp h)
  unfold gatewayWebLoad
  rw [H.prepare, H.init, H.opened, H.size, H.buffer, H.read, H.memory, List.take_length]
  have hfound : ¬ ESP_OK = ESP_ERR_NVS_NOT_FOUND := by decide
  have hlimit : ¬ blob.length > GW_CONFIG_MAX_JSON := by omega
  simp only [if_true, ne_eq, not_true_eq_false, if_false, hfound, hlength, hlimit, or_self,
    gt_iff_lt, Nat.lt_irrefl]

/-- What a save writes is loaded at the next boot, whatever the defaults are: as the candidate with the
next revision and as the map of its CSV. -/
theorem savedConfig_loads (hcjson : CjsonRoundTrip env.parse print)
    (hparse : gatewayConfigParse env memory body active out₀ map₀ error₀ size₀ = ⟨true, c, map, error⟩)
    (hmax : c.revision ≠ UINT32_MAX) :
    u32 (c.revision + 1) = c.revision + 1 ∧
      (if c.csv = [] then map = {} else
        ∀ m size, customMapParse env.strtod true m c.csv size = (true, map, [])) ∧
      TextOk env (print (gatewayConfigJson { c with revision := c.revision + 1 } true))
        (gatewayConfigJson { c with revision := c.revision + 1 } true) ∧
      ∀ load errName base m size,
        LoadCalls.Healthy load (print (gatewayConfigJson { c with revision := c.revision + 1 } true)) →
        gatewayWebLoad env errName load
          (print (gatewayConfigJson { c with revision := c.revision + 1 } true)) base m size =
          ({ c with revision := c.revision + 1 }, map, []) := by
  obtain ⟨c', map', hcandidate, heq⟩ := gatewayConfigParse_ok (congrArg ConfigResult.ok hparse)
  rw [hparse, ConfigResult.mk.injEq] at heq
  obtain ⟨-, rfl, rfl, -⟩ := heq
  obtain ⟨⟨members, -, hfields⟩, hmap, -⟩ := configCandidate_eq_ok.mp hcandidate
  have hnext : c.revision + 1 ≤ UINT32_MAX := by
    have hle := hfields.revision.le_high
    omega
  have hwrap : u32 (c.revision + 1) = c.revision + 1 :=
    Nat.mod_eq_of_lt (Nat.lt_succ_of_le hnext)
  have hsavable := hfields.savable hmap ⟨Nat.le_add_left 1 c.revision, hnext⟩
  have htext := hsavable.textOk hcjson
  refine ⟨hwrap, (configCandidate_coherent hcandidate).map_eq, htext,
    fun load errName base m size hload => ?_⟩
  have hagain : configCandidate env ⟨true, true, true, true⟩
      (print (gatewayConfigJson { c with revision := c.revision + 1 } true)) base m size =
      .ok ({ c with revision := c.revision + 1 }, map) :=
    configCandidate_eq_ok.mpr ⟨⟨_, htext, hsavable.fieldsOf base⟩, hmap.revision _, rfl,
      fun _ => ⟨rfl, rfl, rfl⟩⟩
  rw [gatewayWebLoad_healthy hload htext.nonempty htext.size, gatewayConfigParse, hagain]
  simp only [ite_self]

/-- A text that was stored for a reply with status 200 is not too long, passes the scanners and is
loaded at the next boot, whatever the defaults are: as the candidate with the next revision and as the
map of its CSV. -/
theorem saveHandler_boots (hcjson : CjsonRoundTrip env.parse print)
    (hsave : saveHandler env print calls kept body s = (.saved revision, s')) :
    ∃ c map blob, gatewayConfigParse env calls.memory body s.active gatewayConfigDefaults {} []
        SAVE_ERROR_BYTES = ⟨true, c, map, []⟩ ∧
      s'.stored = some blob ∧
      (if c.csv = [] then map = {} else
        ∀ m size, customMapParse env.strtod true m c.csv size = (true, map, [])) ∧
      blob.length ≤ GW_CONFIG_MAX_JSON ∧ gatewayJsonHasNul blob = false ∧
      gatewayJsonIsFlat blob = true ∧
      ∀ load errName base m size, LoadCalls.Healthy load blob →
        gatewayWebLoad env errName load blob base m size =
          ({ c with revision := c.revision + 1 }, map, []) := by
  obtain ⟨c, map, hparse, hrevision, hmax, hstored⟩ := saveHandler_stored hsave
  obtain ⟨hwrap, hmap, htext, hloads⟩ := savedConfig_loads hcjson hparse (hrevision ▸ hmax)
  rw [hwrap] at hstored
  exact ⟨c, map, _, hparse, hstored, hmap, htext.size, htext.noNul, htext.flat, hloads⟩

/-- The defaults with a point map. -/
def customConfig (csv : CString) : GatewayConfig :=
  { gatewayConfigDefaults with profile := .custom, csv := csv }

/-- An environment that knows the address of the defaults. -/
def defaultEnv (strtod : Strtod) : ConfigEnv where
  parse := flatParse
  inetPton host := if host = gatewayConfigDefaults.modbusHost then some 0xC0000251 else none
  strtod := strtod

theorem customConfig_mapFor (hmap : MapOf strtod csv map) (hcsv : csv ≠ [])
    (hnames : ∀ e ∈ map.entries, map.string e.pointDef.name ≠ gatewayConfigDefaults.deviceName) :
    MapFor (defaultEnv strtod) (customConfig csv) map :=
  ⟨fun _ => hcsv, hmap, hnames, fun h => absurd rfl h⟩

/-- The defaults may be stored. -/
theorem defaults_savable : Savable (defaultEnv strtod) gatewayConfigDefaults where
  host_ne := by decide +kernel
  host_lt := by decide +kernel
  host_plain := by decide +kernel
  unicast := by
    have hhost : (defaultEnv strtod).inetPton gatewayConfigDefaults.modbusHost = some 0xC0000251 := by
      simp [defaultEnv]
    exact ⟨_, hhost, by decide, by decide⟩
  name_ne := by decide +kernel
  name_lt := by decide +kernel
  name_plain := by decide +kernel
  name_unreserved := by decide +kernel
  modbusPort := by decide
  modbusUnit := by decide
  bacnetPort := by decide
  deviceInstance := by decide
  expectedFirmware := by decide
  expectedMacFragment := by decide
  revision := by decide
  csv_le := Nat.zero_le _
  csv_plain := fun _ h => (by cases h)

theorem customConfig_savable (hmap : MapOf strtod csv map) :
    Savable (defaultEnv strtod) (customConfig csv) :=
  have H : Savable (defaultEnv strtod) gatewayConfigDefaults := defaults_savable
  ⟨H.host_ne, H.host_lt, H.host_plain, H.unicast, H.name_ne, H.name_lt, H.name_plain,
    H.name_unreserved, H.modbusPort, H.modbusUnit, H.bacnetPort, H.deviceInstance,
    H.expectedFirmware, H.expectedMacFragment, H.revision, hmap.csv_ok.1, hmap.csv_ok.2⟩

/-- The text of such a configuration is accepted, whatever the base is. -/
theorem customConfig_accepted (hmap : MapOf strtod csv map) (hcsv : csv ≠ [])
    (hnames : ∀ e ∈ map.entries, map.string e.pointDef.name ≠ gatewayConfigDefaults.deviceName)
    (base : GatewayConfig) (m : CustomMap) (size : Nat) :
    configCandidate (defaultEnv strtod) ⟨true, true, true, true⟩
      (flatText (gatewayConfigJson (customConfig csv) true)) base m size =
      .ok (customConfig csv, map) :=
  configCandidate_eq_ok.mpr ⟨⟨_, (customConfig_savable hmap).textOk flatParse_roundTrip,
    (customConfig_savable hmap).fieldsOf base⟩, customConfig_mapFor hmap hcsv hnames, rfl,
    fun _ => ⟨rfl, rfl, rfl⟩⟩

/-- A map with one voltage. -/
theorem voltageRow_map : ∃ csv map, csv ≠ [] ∧ MapOf strtodTwo csv map ∧
    (∀ e ∈ map.entries, map.string e.pointDef.name ≠ gatewayConfigDefaults.deviceName) := by
  have hrow : ∃ csv, MapText strtodTwo csv ([voltageSpec].map PointSpec.toMapPoint) :=
    ⟨_, voltageRow_rendering.mapText voltageSpec_valid (by decide +kernel)⟩
  obtain ⟨csv, htext⟩ := hrow
  exact ⟨csv, _, htext.csv_ne, htext.mapOf, by decide +kernel⟩

theorem saveHandler_boots_voltage : ∃ csv map blob,
    gatewayConfigParse (defaultEnv strtodTwo) ⟨true, true, true, true⟩
      (flatText (gatewayConfigJson (customConfig csv) true)) gatewayConfigDefaults
      gatewayConfigDefaults {} [] SAVE_ERROR_BYTES = ⟨true, customConfig csv, map, []⟩ ∧
    gatewayWebLoad (defaultEnv strtodTwo) (fun _ => "") ⟨ESP_OK, ESP_OK, ESP_OK,
      (ESP_OK, blob.length), true, (ESP_OK, blob.length), ⟨true, true, true, true⟩⟩ blob
      gatewayConfigDefaults {} 192 = ({ customConfig csv with revision := 2 }, map, []) := by
  obtain ⟨csv, map, hcsv, hmap, hnames⟩ := voltageRow_map
  have haccepted := customConfig_accepted hmap hcsv hnames
  have hsaved : ∃ s', saveHandler (defaultEnv strtodTwo) flatText
      ⟨true, true, ⟨true, true, true, true⟩, true, true, ESP_OK, ESP_OK, ESP_OK⟩ none
      (flatText (gatewayConfigJson (customConfig csv) true)) ⟨gatewayConfigDefaults, false, none⟩ =
      (.saved 2, s') := by
    unfold saveHandler
    rw [gatewayConfigParse, haccepted]
    exact ⟨_, rfl⟩
  obtain ⟨s', hsaved⟩ := hsaved
  obtain ⟨c, map', blob, hparse, -, -, -, -, -, hload⟩ :=
    saveHandler_boots flatParse_roundTrip hsaved
  have hc : c = customConfig csv ∧ map' = map := by
    dsimp only at hparse
    rw [gatewayConfigParse, haccepted, ConfigResult.mk.injEq] at hparse
    exact ⟨hparse.2.1.symm, hparse.2.2.1.symm⟩
  obtain ⟨rfl, rfl⟩ := hc
  exact ⟨csv, map', blob, hparse, hload _ _ _ _ _ ⟨rfl, rfl, rfl, rfl, rfl, rfl, rfl⟩⟩

end ModbusGateway
