import ModbusGateway.Config.Parse
import ModbusGateway.Verify.MapSafety
import Mathlib.Tactic.Linarith

/-!
# What an accepted configuration is

`gateway_config_parse` changes its destination and its map together or not at all. `Coherent` is what
an accepted configuration has to do with the JSON text, with the base and with its map.
-/

namespace ModbusGateway

open Checks

/-! ## Properties -/

theorem checkKeys_eq_ok : checkKeys seen members = .ok u ↔
    (∀ k ∈ members.map Prod.fst, k ∈ configKeys ∧ k ∉ seen) ∧ (members.map Prod.fst).Nodup := by
  induction members generalizing seen with
  | nil => simp [checkKeys]
  | cons m members ih =>
    have hkeys : (∀ k ∈ (m :: members).map Prod.fst, k ∈ configKeys ∧ k ∉ seen) ↔
        (m.1 ∈ configKeys ∧ m.1 ∉ seen) ∧
          ∀ k ∈ members.map Prod.fst, k ∈ configKeys ∧ k ∉ seen := by
      rw [List.map_cons, List.forall_mem_cons]
    rw [hkeys, List.map_cons, List.nodup_cons]
    simp only [checkKeys, bind_eq_ok, reject_eq_ok, exists_const, ih, not_or, not_not]
    constructor
    · rintro ⟨hm, hrest, hnodup⟩
      refine ⟨⟨hm, fun k hk => ⟨(hrest k hk).1, fun h => ?_⟩⟩, fun hmem => ?_, hnodup⟩
      · exact (hrest k hk).2 (List.mem_cons_of_mem _ h)
      · exact (hrest m.1 hmem).2 List.mem_cons_self
    · rintro ⟨⟨hm, hrest⟩, hnew, hnodup⟩
      refine ⟨hm, fun k hk => ⟨(hrest k hk).1, fun hmem => ?_⟩, hnodup⟩
      rcases List.mem_cons.mp hmem with rfl | hseen
      · exact hnew hk
      · exact (hrest k hk).2 hseen

/-- The properties are known ones, each at most once. -/
structure KnownKeys (members : JsonMembers) : Prop where
  known : ∀ k ∈ members.map Prod.fst, k ∈ configKeys
  once : (members.map Prod.fst).Nodup

/-- What the checks on the text demand. -/
structure TextOk (env : ConfigEnv) (text : List Char) (members : JsonMembers) : Prop where
  nonempty : text ≠ []
  size : text.length ≤ GW_CONFIG_MAX_JSON
  noNul : gatewayJsonHasNul text = false
  flat : gatewayJsonIsFlat text = true
  object : completeObject env.parse text = some members
  keys : KnownKeys members

theorem configMembers_eq_ok : configMembers env text = .ok members ↔ TextOk env text members := by
  simp only [configMembers, bind_eq_ok, reject_eq_ok, require_eq_ok, checkKeys_eq_ok, pure_eq_ok,
    exists_const, not_or, not_lt, Bool.not_eq_true, Bool.not_eq_false]
  constructor
  · rintro ⟨⟨hne, hsize, -⟩, hnul, hflat, m, hobject, ⟨hknown, honce⟩, rfl⟩
    exact ⟨hne, hsize, hnul, hflat, hobject, fun k hk => (hknown k hk).1, honce⟩
  · rintro ⟨hne, hsize, hnul, hflat, hobject, hknown, honce⟩
    have hplain := hnul
    rw [gatewayJsonHasNul, Bool.or_eq_false_iff] at hplain
    exact ⟨⟨hne, hsize, hplain.1⟩, hnul, hflat, _, hobject,
      ⟨fun k hk => ⟨hknown k hk, List.not_mem_nil⟩, honce⟩, rfl⟩

/-! ## Fields -/

/-- The property is a number with exactly this value, which is in range. -/
structure IsNumber (members : JsonMembers) (name : String) (low high value : Nat) : Prop where
  item : getItem members name.toList = some (.number (some (value : Rat)))
  low_le : low ≤ value
  le_high : value ≤ high

theorem floor_natCast (n : Nat) : (n : Rat).floor = n := by
  rw [← Int.cast_natCast, Rat.floor_intCast]

theorem jsonNumber_eq_some : jsonNumber members name.toList low high = some v ↔
    ∃ n : Nat, v = (n : Rat) ∧ IsNumber members name low high n := by
  unfold jsonNumber
  constructor
  · intro h
    split at h
    · next w hitem =>
      split at h
      · cases h
      · next hok =>
        cases h
        simp only [not_or, not_lt, not_not] at hok
        obtain ⟨hlow, hhigh, hfloor⟩ := hok
        have hzero : (0 : Rat) ≤ v := le_trans (Nat.cast_nonneg low) hlow
        have hnonneg : 0 ≤ v.floor := Rat.le_floor_iff.mpr (by exact_mod_cast hzero)
        obtain ⟨n, hn⟩ := Int.eq_ofNat_of_zero_le hnonneg
        have hv : v = (n : Rat) := by
          rw [← hfloor, hn]
          rfl
        subst hv
        exact ⟨n, rfl, hitem, by exact_mod_cast hlow, by exact_mod_cast hhigh⟩
    · cases h
  · rintro ⟨n, rfl, hitem, hlow, hhigh⟩
    rw [hitem]
    dsimp only
    rw [if_neg]
    simp only [not_or, not_lt, not_not]
    refine ⟨by exact_mod_cast hlow, by exact_mod_cast hhigh, ?_⟩
    rw [floor_natCast]
    rfl

/-- Within the range of its type a number is stored exactly. -/
theorem narrow_natCast {n : Nat} (h : n < 2 ^ bits) : narrow bits (n : Rat) = n := by
  rw [narrow, floor_natCast, Int.toNat_natCast, Nat.mod_eq_of_lt h]

theorem configField_eq_ok (hbits : high < 2 ^ bits) :
    configField members bits name low high = .ok n ↔ IsNumber members name low high n := by
  simp only [configField, bind_eq_ok, require_eq_ok, jsonNumber_eq_some, pure_eq_ok]
  constructor
  · rintro ⟨v, ⟨m, rfl, hm⟩, rfl⟩
    have hle := hm.le_high
    rw [narrow_natCast (by omega)]
    exact hm
  · intro hn
    have hle := hn.le_high
    exact ⟨_, ⟨n, rfl, hn⟩, narrow_natCast (by omega)⟩

/-- The property is this printable text, shorter than `capacity`. -/
structure IsText (members : JsonMembers) (name : String) (capacity : Nat) (s : CString) : Prop where
  item : getItem members name.toList = some (.string s)
  nonempty : s ≠ []
  length_lt : s.length < capacity
  printable : ∀ c ∈ s, 32 ≤ c.toNat ∧ c.toNat ≤ 126

theorem jsonString_eq_some : jsonString members name.toList capacity = some s ↔
    IsText members name capacity s := by
  unfold jsonString
  constructor
  · intro h
    split at h
    · next t hitem =>
      split at h
      · cases h
      · next hok =>
        cases h
        simp only [not_or, not_exists, not_and] at hok
        obtain ⟨hne, hlen, hplain⟩ := hok
        refine ⟨hitem, hne, by omega, fun c hc => ?_⟩
        have hc := hplain c hc
        omega
    · cases h
  · rintro ⟨hitem, hne, hlen, hplain⟩
    rw [hitem]
    dsimp only
    rw [if_neg]
    simp only [not_or, not_exists, not_and]
    refine ⟨hne, by omega, fun c hc => ?_⟩
    have hc := hplain c hc
    omega

/-- An IPv4 literal with its first octet in 1..223. -/
structure UnicastHost (env : ConfigEnv) (host : CString) : Prop where
  literal : ∃ ip, env.inetPton host = some ip ∧ 1 ≤ ip.toNat / 2 ^ 24 ∧ ip.toNat / 2 ^ 24 ≤ 223

theorem firstOctet (ip : UInt32) : (ip >>> 24).toNat = ip.toNat / 2 ^ 24 := by
  rw [UInt32.toNat_shiftRight, Nat.shiftRight_eq_div_pow]
  rfl

theorem configHost_eq_ok : configHost env members = .ok host ↔
    IsText members "modbus_host" 16 host ∧ UnicastHost env host := by
  have hoctet (ip : UInt32) : ¬ (ip = 0 ∨ ip >>> 24 = 0 ∨ ip >>> 24 ≥ 224) ↔
      1 ≤ ip.toNat / 2 ^ 24 ∧ ip.toNat / 2 ^ 24 ≤ 223 := by
    rw [← firstOctet, ge_iff_le, UInt32.le_iff_toNat_le, ← UInt32.toNat_inj, ← UInt32.toNat_inj]
    have hzero : ip.toNat = 0 → (ip >>> 24).toNat = 0 := by
      intro h
      rw [firstOctet, h, Nat.zero_div]
    have h224 : (224 : UInt32).toNat = 224 := rfl
    have h0 : (0 : UInt32).toNat = 0 := rfl
    omega
  simp only [configHost, bind_eq_ok, require_eq_ok, reject_eq_ok, pure_eq_ok, exists_const,
    jsonString_eq_some, hoctet]
  constructor
  · rintro ⟨s, hs, ip, hip, hrange, rfl⟩
    exact ⟨hs, ⟨ip, hip, hrange⟩⟩
  · rintro ⟨hs, ip, hip, hrange⟩
    exact ⟨host, hs, ip, hip, hrange, rfl⟩

theorem configName_eq_ok : configName members = .ok name ↔
    IsText members "device_name" 96 name ∧ ¬ CString.hasPrefix name "Gateway-".toList = true := by
  simp only [configName, bind_eq_ok, require_eq_ok, reject_eq_ok, pure_eq_ok, exists_const,
    jsonString_eq_some]
  constructor
  · rintro ⟨s, hs, hprefix, rfl⟩
    exact ⟨hs, hprefix⟩
  · rintro ⟨hs, hprefix⟩
    exact ⟨name, hs, hprefix, rfl⟩

/-- Where the CSV comes from. -/
inductive CsvFrom (members : JsonMembers) (base : GatewayConfig) : CString → Prop
  | request : getItem members "csv".toList = some (.string s) → s.length ≤ CUSTOM_MAX_CSV_BYTES →
    CsvFrom members base s
  | base : getItem members "csv".toList = none → CsvFrom members base base.csv

theorem configCsv_eq_ok : configCsv members base = .ok csv ↔ CsvFrom members base csv := by
  unfold configCsv
  constructor
  · intro h
    split at h
    · next hitem =>
      cases h
      exact .base hitem
    · next s hitem =>
      split at h
      · cases h
      · next hlen =>
        cases h
        exact .request hitem (by omega)
    · cases h
  · intro h
    cases h with
    | request hitem hlen =>
      rw [hitem]
      exact if_neg (by omega)
    | base hitem => rw [hitem]

theorem parseProfile_eq_some : parseProfile s = some profile ↔
    s = (gatewayProfileId profile).toList := by
  unfold parseProfile
  constructor
  · intro h
    split at h
    · cases h
      assumption
    · split at h
      · cases h
        assumption
      · split at h
        · cases h
          assumption
        · cases h
  · rintro rfl
    cases profile <;> decide

/-- The fields of a configuration are those of the JSON object. -/
structure FieldsOf (env : ConfigEnv) (members : JsonMembers) (base c : GatewayConfig) : Prop where
  profile : IsText members "profile" 32 (gatewayProfileId c.profile).toList
  host : IsText members "modbus_host" 16 c.modbusHost
  unicast : UnicastHost env c.modbusHost
  name : IsText members "device_name" 96 c.deviceName
  name_unreserved : ¬ CString.hasPrefix c.deviceName "Gateway-".toList = true
  modbusPort : IsNumber members "modbus_port" 1 65535 c.modbusPort
  modbusUnit : IsNumber members "modbus_unit" 0 255 c.modbusUnit
  bacnetPort : IsNumber members "bacnet_port" 1 65535 c.bacnetPort
  deviceInstance : IsNumber members "device_instance" 0 4194302 c.deviceInstance
  expectedFirmware : IsNumber members "expected_firmware" 0 65535 c.expectedFirmware
  expectedMacFragment : IsNumber members "expected_mac_fragment" 0 32767 c.expectedMacFragment
  revision : IsNumber members "revision" 1 UINT32_MAX c.revision
  csv : CsvFrom members base c.csv

theorem configFields_eq_ok : configFields env members base = .ok c ↔
    FieldsOf env members base c := by
  have h16 (name : String) (low high n : Nat) (h : high < 2 ^ 16) :
      configField members 16 name low high = .ok n ↔ IsNumber members name low high n :=
    configField_eq_ok h
  simp only [configFields, bind_eq_ok, require_eq_ok, pure_eq_ok, jsonString_eq_some,
    parseProfile_eq_some, configHost_eq_ok, configName_eq_ok, configCsv_eq_ok,
    h16 _ _ 65535 _ (by decide), h16 _ _ 32767 _ (by decide),
    configField_eq_ok (show 255 < 2 ^ 8 by decide),
    configField_eq_ok (show 4194302 < 2 ^ 32 by decide),
    configField_eq_ok (show UINT32_MAX < 2 ^ 32 by decide)]
  constructor
  · rintro ⟨_, hp, profile, rfl, host, ⟨hhost, hunicast⟩, name, ⟨hname, hfree⟩, port, hport, unit,
      hunit, bacnet, hbacnet, device, hdevice, firmware, hfirmware, mac, hmac, revision, hrevision,
      csv, hcsv, rfl⟩
    exact ⟨hp, hhost, hunicast, hname, hfree, hport, hunit, hbacnet, hdevice, hfirmware, hmac,
      hrevision, hcsv⟩
  · intro H
    exact ⟨_, H.profile, _, rfl, _, ⟨H.host, H.unicast⟩, _, ⟨H.name, H.name_unreserved⟩, _,
      H.modbusPort, _, H.modbusUnit, _, H.bacnetPort, _, H.deviceInstance, _, H.expectedFirmware, _,
      H.expectedMacFragment, _, H.revision, _, H.csv, rfl⟩

/-! ## The map -/

theorem customMapParse_of_ok (h : parseMap strtod memory csv = .ok parsed) (map : CustomMap)
    (size : Nat) : customMapParse strtod memory map csv size = (true, parsed, []) := by
  unfold customMapParse
  rw [h]

theorem customMapParse_of_error (h : parseMap strtod memory csv = .error why) (map : CustomMap)
    (size : Nat) : ∃ text, customMapParse strtod memory map csv size = (false, map, text) := by
  unfold customMapParse
  rw [h]
  exact ⟨_, rfl⟩

/-- The map of a text does not depend on anything else. -/
theorem parseMap_memory (h : parseMap strtod memory csv = .ok parsed) :
    memory = true ∧ parseMap strtod true csv = .ok parsed := by
  obtain ⟨rfl, -⟩ := parseMap_eq_ok.mp h
  exact ⟨rfl, h⟩

/-- The map is that of the CSV, the empty one if there is none. -/
def MapOf (strtod : Strtod) (csv : CString) (map : CustomMap) : Prop :=
  if csv = [] then map = {} else parseMap strtod true csv = .ok map

/-- What the checks on the candidate as a whole demand. -/
structure MapFor (env : ConfigEnv) (c : GatewayConfig) (map : CustomMap) : Prop where
  custom : c.profile = .custom → c.csv ≠ []
  map_eq : MapOf env.strtod c.csv map
  names : ∀ e ∈ map.entries, map.string e.pointDef.name ≠ c.deviceName
  preset : c.profile ≠ .custom → c.deviceName ∉ presetNames c.profile

/-- The allocations that a CSV needs succeed. -/
def ConfigMemory.forCsv (memory : ConfigMemory) (csv : CString) : Prop :=
  csv ≠ [] → memory.scratch = true ∧ memory.scratchParse = true ∧ memory.mapParse = true

theorem checkScratch_eq_ok : checkScratch env memory c size = .ok u ↔
    (c.csv ≠ [] → memory.scratch = true ∧ memory.scratchParse = true ∧
      ∃ scratch, parseMap env.strtod true c.csv = .ok scratch ∧
        ∀ e ∈ scratch.entries, scratch.string e.pointDef.name ≠ c.deviceName) := by
  unfold checkScratch
  by_cases hcsv : c.csv = []
  · rw [if_pos hcsv]
    exact ⟨fun _ hne => absurd hcsv hne, fun _ => rfl⟩
  · simp only [if_neg hcsv, bind_eq_ok, reject_eq_ok, exists_const, Bool.not_eq_false]
    cases hparse : parseMap env.strtod memory.scratchParse c.csv with
    | error why =>
      obtain ⟨text, htext⟩ := customMapParse_of_error hparse {} size
      rw [htext]
      constructor
      · rintro ⟨-, h⟩
        cases h
      · intro h
        obtain ⟨-, hmemory, scratch, hok, -⟩ := h hcsv
        rw [hmemory, hok] at hparse
        cases hparse
    | ok scratch =>
      obtain ⟨hmemory, hok⟩ := parseMap_memory hparse
      rw [customMapParse_of_ok hparse {} size]
      simp only [reject_eq_ok, not_exists, not_and]
      constructor
      · rintro ⟨hscratch, hnames⟩
        exact fun _ => ⟨hscratch, hmemory, scratch, hok, hnames⟩
      · intro h
        obtain ⟨hscratch, -, scratch', hok', hnames⟩ := h hcsv
        rw [hok] at hok'
        cases hok'
        exact ⟨hscratch, hnames⟩

theorem parseInto_eq_ok : parseInto env memory c map size = .ok parsed ↔
    MapOf env.strtod c.csv parsed ∧ (c.csv ≠ [] → memory.mapParse = true) := by
  unfold parseInto MapOf
  by_cases hcsv : c.csv = []
  · simp only [if_pos hcsv, Except.ok.injEq]
    exact ⟨fun h => ⟨h.symm, fun hne => absurd hcsv hne⟩, fun h => h.1.symm⟩
  · simp only [if_neg hcsv]
    cases hparse : parseMap env.strtod memory.mapParse c.csv with
    | error why =>
      obtain ⟨text, htext⟩ := customMapParse_of_error hparse map size
      rw [htext]
      constructor
      · intro h
        cases h
      · rintro ⟨hok, hmemory⟩
        rw [hmemory hcsv, hok] at hparse
        cases hparse
    | ok m =>
      obtain ⟨hmemory, hok⟩ := parseMap_memory hparse
      rw [customMapParse_of_ok hparse map size, hok]
      simp only [Except.ok.injEq]
      exact ⟨fun h => ⟨h, fun _ => hmemory⟩, fun h => h.1⟩

theorem configMap_eq_ok : configMap env memory c map size = .ok parsed ↔
    MapFor env c parsed ∧ memory.forCsv c.csv := by
  simp only [configMap, bind_eq_ok, reject_eq_ok, exists_const, checkScratch_eq_ok, parseInto_eq_ok,
    not_and]
  constructor
  · rintro ⟨hcustom, hscratch, hpreset, hmap, hmemory⟩
    refine ⟨⟨hcustom, hmap, ?_, hpreset⟩, fun hcsv => ?_⟩
    · intro e he
      by_cases hcsv : c.csv = []
      · rw [MapOf, if_pos hcsv] at hmap
        subst hmap
        cases he
      · obtain ⟨-, -, scratch, hok, hnames⟩ := hscratch hcsv
        rw [MapOf, if_neg hcsv, hok] at hmap
        cases hmap
        exact hnames e he
    · obtain ⟨hs, hp, -⟩ := hscratch hcsv
      exact ⟨hs, hp, hmemory hcsv⟩
  · rintro ⟨H, hmemory⟩
    refine ⟨H.custom, fun hcsv => ?_, H.preset, H.map_eq, fun hcsv => (hmemory hcsv).2.2⟩
    have hok := H.map_eq
    rw [MapOf, if_neg hcsv] at hok
    exact ⟨(hmemory hcsv).1, (hmemory hcsv).2.1, parsed, hok, H.names⟩

/-- All checks together. -/
theorem configCandidate_eq_ok : configCandidate env memory text base map size = .ok (c, parsed) ↔
    (∃ members, TextOk env text members ∧ FieldsOf env members base c) ∧ MapFor env c parsed ∧
      memory.candidate = true ∧ memory.forCsv c.csv := by
  simp only [configCandidate, bind_eq_ok, mapError_eq_ok, configMembers_eq_ok, reject_eq_ok,
    exists_const, configFields_eq_ok, configMap_eq_ok, pure_eq_ok, Prod.mk.injEq,
    Bool.not_eq_false]
  constructor
  · rintro ⟨members, htext, hmemory, c', hfields, m, ⟨hmap, hcsv⟩, rfl, rfl⟩
    exact ⟨⟨members, htext, hfields⟩, hmap, hmemory, hcsv⟩
  · rintro ⟨⟨members, htext, hfields⟩, hmap, hmemory, hcsv⟩
    exact ⟨members, htext, hmemory, c, hfields, parsed, ⟨hmap, hcsv⟩, rfl, rfl⟩

/-! ## The parser -/

/-- What an accepted configuration has to do with the JSON text, the base and the map. -/
structure Coherent (env : ConfigEnv) (text : List Char) (base out : GatewayConfig)
    (map : CustomMap) : Prop where
  json : ∃ members, TextOk env text members ∧ FieldsOf env members base out
  map_eq : if out.csv = [] then map = {} else
    ∀ m size, customMapParse env.strtod true m out.csv size = (true, map, [])
  custom : out.profile = .custom → 1 ≤ map.count
  names : ∀ e ∈ map.entries, map.string e.pointDef.name ≠ out.deviceName
  preset : out.profile ≠ .custom → out.deviceName ∉ presetNames out.profile

theorem MapOf.count_ge (H : MapOf strtod csv map) (hcsv : csv ≠ []) : 1 ≤ map.count := by
  rw [MapOf, if_neg hcsv] at H
  obtain ⟨-, points, htext, rfl⟩ := parseMap_eq_ok.mp H
  exact htext.safe.count_ge

theorem configCandidate_coherent
    (h : configCandidate env memory text base map size = .ok (c, parsed)) :
    Coherent env text base c parsed := by
  obtain ⟨hjson, hmap, -⟩ := configCandidate_eq_ok.mp h
  refine ⟨hjson, ?_, fun hprofile => hmap.map_eq.count_ge (hmap.custom hprofile), hmap.names,
    hmap.preset⟩
  have hof := hmap.map_eq
  unfold MapOf at hof
  split at hof
  · next hcsv =>
    rw [if_pos hcsv]
    exact hof
  · next hcsv =>
    rw [if_neg hcsv]
    exact customMapParse_of_ok hof

/-- The parser in terms of its checks. -/
theorem gatewayConfigParse_ok (h : (gatewayConfigParse env memory text base out map error size).ok = true) :
    ∃ c parsed, configCandidate env memory text base map size = .ok (c, parsed) ∧
      gatewayConfigParse env memory text base out map error size =
        ⟨true, c, parsed, if size = 0 then error else []⟩ := by
  unfold gatewayConfigParse at h ⊢
  cases hc : configCandidate env memory text base map size with
  | error why =>
    rw [hc] at h
    cases h
  | ok r => exact ⟨r.1, r.2, rfl, rfl⟩

section
variable {map : CustomMap} {why : ConfigError} (hwhy : why.leaves map ≠ map)
include hwhy

theorem why_ne (message : String) : ConfigError.why message ≠ why := by
  rintro rfl
  exact hwhy rfl

theorem checkScratch_avoids : Avoids why (checkScratch env memory c size) := by
  unfold checkScratch
  split
  · exact .ok ()
  · refine (Avoids.reject (why_ne hwhy _)).bind fun _ _ => ?_
    split
    · refine .error ?_
      rintro rfl
      exact hwhy rfl
    · exact .reject (why_ne hwhy _)

/-- The caller's map is for `custom_map_parse` alone, which keeps it where it fails. -/
theorem parseInto_avoids : Avoids why (parseInto env memory c map size) := by
  unfold parseInto
  split
  · exact .ok _
  · cases hparse : parseMap env.strtod memory.mapParse c.csv with
    | error line =>
      obtain ⟨text, htext⟩ := customMapParse_of_error hparse map size
      rw [htext]
      refine .error ?_
      rintro rfl
      exact hwhy rfl
    | ok parsed =>
      rw [customMapParse_of_ok hparse map size]
      exact .ok parsed

theorem configCandidate_avoids : Avoids why (configCandidate env memory text base map size) := by
  have hmap (c : GatewayConfig) : Avoids why (configMap env memory c map size) :=
    (Avoids.reject (why_ne hwhy _)).bind fun _ _ => (checkScratch_avoids hwhy).bind fun _ _ =>
      (Avoids.reject (why_ne hwhy _)).bind fun _ _ => parseInto_avoids hwhy
  exact (Avoids.mapError (why_ne hwhy)).bind fun _ _ => (Avoids.reject (why_ne hwhy _)).bind fun _ _ =>
    (Avoids.mapError (why_ne hwhy)).bind fun c _ => (hmap c).bind fun _ _ => .ok _

end

/-- A refused text changes nothing, and an accepted one sets the configuration and the map to what it
says. -/
theorem gatewayConfigParse_atomic (env : ConfigEnv) (memory : ConfigMemory) (text : List Char)
    (base out : GatewayConfig) (map : CustomMap) (error : CString) (size : Nat) :
    let r := gatewayConfigParse env memory text base out map error size
    (r.ok = false → r.out = out ∧ r.map = map) ∧
      (r.ok = true → Coherent env text base r.out r.map) := by
  intro r
  refine ⟨fun hfail => ?_, fun hok => ?_⟩
  · change (gatewayConfigParse env memory text base out map error size).ok = false at hfail
    change (gatewayConfigParse env memory text base out map error size).out = out ∧
      (gatewayConfigParse env memory text base out map error size).map = map
    unfold gatewayConfigParse at hfail ⊢
    cases hc : configCandidate env memory text base map size with
    | error why => exact ⟨rfl, by_contra fun hwhy => configCandidate_avoids hwhy hc⟩
    | ok accepted =>
      rw [hc] at hfail
      cases hfail
  · obtain ⟨c, parsed, hc, heq⟩ := gatewayConfigParse_ok hok
    change Coherent env text base (gatewayConfigParse env memory text base out map error size).out
      (gatewayConfigParse env memory text base out map error size).map
    rw [heq]
    exact configCandidate_coherent hc

end ModbusGateway
