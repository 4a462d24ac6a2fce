import ModbusGateway.Verify.SavedConfig
import ModbusGateway.Web.Session

/-!
# No update is lost

A save is accepted only on top of the configuration that the running boot has loaded, and once. What was
accepted is durable, is what the next boot loads, and from then on is what a save has to be based on.
-/

namespace ModbusGateway

variable {env : ConfigEnv} {print : JsonMembers → List Char} {base : GatewayConfig}

/-! ## One save -/

/-- What a save can do. -/
inductive SaveOutcome (env : ConfigEnv) (print : JsonMembers → List Char) (calls : SaveCalls)
    (kept : Option (List Char)) (body : List Char) (s : WebState) : SaveReply × WebState → Prop
  | untouched : SaveOutcome env print calls kept body s (.refused status message, s)
  | failed (sent : sentConfig env calls.memory body s.active = some c)
    (pending : s.restartPending = false) (revision : c.revision = s.active.revision)
    (room : c.revision ≠ UINT32_MAX) :
    SaveOutcome env print calls kept body s (.refused status message, { s with stored := kept })
  | saved (sent : sentConfig env calls.memory body s.active = some c)
    (pending : s.restartPending = false) (revision : c.revision = s.active.revision)
    (room : c.revision ≠ UINT32_MAX) :
    SaveOutcome env print calls kept body s (.saved (s.active.revision + 1),
      { s with stored := some (savedText print c), restartPending := true })

theorem saveHandler_outcome (env : ConfigEnv) (print : JsonMembers → List Char) (calls : SaveCalls)
    (kept : Option (List Char)) (body : List Char) (s : WebState) :
    SaveOutcome env print calls kept body s (saveHandler env print calls kept body s) := by
  unfold saveHandler
  split
  · exact .untouched
  · next hpending =>
    have hpending : s.restartPending = false := Bool.eq_false_iff.mpr hpending
    split
    · exact .untouched
    · dsimp only
      split
      · exact .untouched
      · next hok =>
        have hok := Decidable.not_not.mp hok
        have hsent : sentConfig env calls.memory body s.active =
            some (gatewayConfigParse env calls.memory body s.active gatewayConfigDefaults {} []
              SAVE_ERROR_BYTES).out := if_pos hok
        split
        · exact .untouched
        · next hrevision =>
          have hrevision := Decidable.not_not.mp hrevision
          split
          · exact .untouched
          · next hmax =>
            have hmax : _ ≠ UINT32_MAX := hrevision ▸ hmax
            split
            · exact .untouched
            · split
              · exact .failed hsent hpending hrevision hmax
              · exact .saved hsent hpending hrevision hmax

/-! ## Loading -/

/-- A boot that reads this blob has this configuration and this map. -/
def Loads (env : ConfigEnv) (base : GatewayConfig) (stored : Option (List Char)) (c : GatewayConfig)
    (map : CustomMap) : Prop :=
  ∀ errName calls, LoadCalls.Reads calls stored →
    gatewayWebLoad env errName calls (stored.getD []) base {} CONFIG_ERROR_BYTES = (c, map, [])

theorem LoadCalls.Reads.healthy {calls : LoadCalls} (h : calls.Reads (some blob)) :
    calls.Healthy blob := by
  obtain ⟨hprepare, hinit, hopened, hsize, hbuffer, hread, hmemory⟩ := h
  exact ⟨hprepare, hinit, hopened, hsize, hbuffer, hread, hmemory⟩

/-- A text that no boot can load is reported. -/
theorem gatewayWebLoad_unreadable {calls : LoadCalls} (H : calls.Healthy blob)
    (hbad : blob.length = 0 ∨ blob.length > GW_CONFIG_MAX_JSON) :
    (gatewayWebLoad env errName calls blob base map CONFIG_ERROR_BYTES).2.2 ≠ [] := by
  have hfound : ¬ ESP_OK = ESP_ERR_NVS_NOT_FOUND := by decide
  unfold gatewayWebLoad
  rw [H.prepare, H.init, H.opened, H.size]
  simp only [if_true, ne_eq, not_true_eq_false, if_false, hfound, false_or, if_pos hbad]
  decide +kernel

/-- One boot that succeeds says what every boot makes of the same blob. -/
theorem Loads.ofBoot {stored : Option (List Char)} (hreads : LoadCalls.Reads calls stored)
    (hload : gatewayWebLoad env errName calls (stored.getD []) base {} CONFIG_ERROR_BYTES =
      (c, map, [])) : Loads env base stored c map := by
  intro errName' calls' hreads'
  cases stored with
  | none =>
    obtain ⟨hprepare, hinit, hopened, hsize⟩ := hreads
    obtain ⟨hprepare', hinit', hopened', hsize'⟩ := hreads'
    rw [← hload]
    simp [gatewayWebLoad, hprepare, hinit, hopened, hsize, hprepare', hinit', hopened', hsize']
  | some blob =>
    have hbad : ¬ (blob.length = 0 ∨ blob.length > GW_CONFIG_MAX_JSON) := fun hbad =>
      gatewayWebLoad_unreadable hreads.healthy hbad (congrArg (·.2.2) hload)
    have hne : blob ≠ [] := fun h => hbad (.inl (List.length_eq_zero_iff.mpr h))
    have hsize : blob.length ≤ GW_CONFIG_MAX_JSON := Nat.le_of_not_lt fun h => hbad (.inr h)
    rw [Option.getD_some] at hload ⊢
    rw [gatewayWebLoad_healthy hreads'.healthy hne hsize, ← hload,
      gatewayWebLoad_healthy hreads.healthy hne hsize]

/-- What a save wrote is loaded with the next revision. -/
theorem savedText_loads (hcjson : CjsonRoundTrip env.parse print)
    (hsent : sentConfig env memory body active = some c) (hmax : c.revision ≠ UINT32_MAX) :
    ∃ map, Loads env base (some (savedText print c)) { c with revision := c.revision + 1 } map := by
  unfold sentConfig at hsent
  dsimp only at hsent
  split at hsent
  · next hok =>
    obtain ⟨c', map, -, heq⟩ := gatewayConfigParse_ok hok
    rw [heq] at hsent
    cases hsent
    obtain ⟨hwrap, -, -, hloads⟩ := savedConfig_loads hcjson heq hmax
    refine ⟨map, fun errName calls hreads => ?_⟩
    have hhealthy := hreads.healthy
    unfold savedText at hhealthy ⊢
    rw [hwrap] at hhealthy ⊢
    exact hloads calls errName base {} CONFIG_ERROR_BYTES hhealthy
  · cases hsent

/-! ## Histories -/

/-- What the newest boot loaded. -/
def lastBoot : List WebEvent → Option (GatewayConfig × CustomMap)
  | [] => none
  | .boot active map :: _ => some (active, map)
  | .read .. :: h | .save .. :: h => lastBoot h

/-- The configuration that was accepted since the newest boot, with its new revision. -/
def promised : List WebEvent → Option GatewayConfig
  | [] | .boot .. :: _ => none
  | .read .. :: h => promised h
  | .save _ e :: h =>
    match e.reply, e.sent with
    | .saved revision, some c => some { c with revision }
    | _, _ => promised h

/-- The revisions that were answered with 200, newest first. -/
def answered : List WebEvent → List Nat
  | [] => []
  | .save _ e :: h =>
    match e.reply with
    | .saved revision => revision :: answered h
    | .refused .. => answered h
  | .read .. :: h | .boot .. :: h => answered h

/-- What holds of a save that comes after the events `h`. -/
structure SoundSave (h : List WebEvent) (e : SaveEvent) : Prop where
  accepted : ∀ revision, e.reply = .saved revision → promised h = none ∧
    ∃ boot map c, lastBoot h = some (boot, map) ∧ e.sent = some c ∧ c.revision = boot.revision ∧
      revision = boot.revision + 1 ∧ ∀ earlier ∈ answered h, earlier < revision
  refused : (promised h).isSome ∨
      (∃ boot map, lastBoot h = some (boot, map) ∧ ∀ c ∈ e.sent, c.revision ≠ boot.revision) →
    (∃ status message, e.reply = .refused status message) ∧ e.after = e.before
  based : e.after ≠ e.before → ∃ c, e.sent = some c ∧ ∀ earlier ∈ answered h, earlier ≤ c.revision

/-- What holds of an event that comes after the events `h`. -/
def Sound (h : List WebEvent) : WebEvent → Prop
  | .read _ revision => ∃ boot map, lastBoot h = some (boot, map) ∧ revision = boot.revision
  | .save _ e => SoundSave h e
  | .boot active _ => ∀ c, promised h = some c → active = c

/-- What a running device knows about its history. -/
structure Session (env : ConfigEnv) (base : GatewayConfig) (h : List WebEvent) (s : WebDevice) :
    Prop where
  active : lastBoot h = some (s.web.active, s.map)
  pending : s.web.restartPending = (promised h).isSome
  durable : ∃ d map, Loads env base s.web.stored d map ∧ s.web.active.revision ≤ d.revision ∧
    ∀ c, promised h = some c → d = c
  free : promised h = none → ∀ revision ∈ answered h, revision ≤ s.web.active.revision
  taken : ∀ c, promised h = some c → c.revision = s.web.active.revision + 1 ∧
    ∀ revision ∈ answered h, revision ≤ c.revision

theorem Session.answered_le {s : WebDevice} (H : Session env base h s)
    (hloads : Loads env base s.web.stored d map) (hreads : LoadCalls.Reads calls s.web.stored) :
    (∀ c, promised h = some c → d = c) ∧ ∀ revision ∈ answered h, revision ≤ d.revision := by
  obtain ⟨d', map', hloads', hle, hpromised⟩ := H.durable
  obtain rfl : d = d' := by
    have heq := (hloads (fun _ => "") calls hreads).symm.trans (hloads' _ calls hreads)
    exact congrArg Prod.fst heq
  refine ⟨hpromised, fun revision hmem => ?_⟩
  cases hp : promised h with
  | none => exact (H.free hp revision hmem).trans hle
  | some c =>
    rw [hpromised c hp]
    exact (H.taken c hp).2 revision hmem

/-- A save that changes nothing. -/
theorem Session.untouched {s : WebDevice} (H : Session env base h s) (client : Nat)
    (sent : Option GatewayConfig) :
    SoundSave h ⟨sent, .refused status message, s.web.stored, s.web.stored⟩ ∧
      Session env base
        (.save client ⟨sent, .refused status message, s.web.stored, s.web.stored⟩ :: h) s :=
  ⟨⟨nofun, fun _ => ⟨⟨_, _, rfl⟩, rfl⟩, fun h => absurd rfl h⟩,
    H.active, H.pending, H.durable, H.free, H.taken⟩

theorem Session.nothing_promised {s : WebDevice} (H : Session env base h s)
    (hpending : s.web.restartPending = false) : promised h = none := by
  have hsome := H.pending.symm.trans hpending
  rwa [Option.isSome_eq_false_iff, Option.isNone_iff_eq_none] at hsome

/-- A save on top of what the running boot has loaded, before any other, is sound: it is answered with
200 or refused, and what is in flash afterwards does not matter. -/
theorem Session.soundSave {s : WebDevice} {reply : SaveReply} {before after : Option (List Char)}
    (H : Session env base h s) (hnone : promised h = none)
    (hrevision : c.revision = s.web.active.revision)
    (haccepted : ∀ revision, reply = .saved revision → revision = s.web.active.revision + 1) :
    SoundSave h ⟨some c, reply, before, after⟩ where
  accepted revision heq := by
    obtain rfl := haccepted revision heq
    refine ⟨hnone, _, _, c, H.active, rfl, hrevision, rfl, fun earlier hmem => ?_⟩
    exact Nat.lt_succ_of_le (H.free hnone earlier hmem)
  refused hstale := by
    rcases hstale with hsome | ⟨boot, map, hboot, hother⟩
    · rw [hnone] at hsome
      cases hsome
    · rw [H.active] at hboot
      cases hboot
      exact absurd hrevision (hother c rfl)
  based _ := by
    refine ⟨c, rfl, fun earlier hmem => ?_⟩
    rw [hrevision]
    exact H.free hnone earlier hmem

/-- A save whose write failed. -/
theorem Session.failed {s : WebDevice} (H : Session env base h s)
    (hcjson : CjsonRoundTrip env.parse print)
    (hsent : sentConfig env memory body s.web.active = some c)
    (hpending : s.web.restartPending = false) (hrevision : c.revision = s.web.active.revision)
    (hmax : c.revision ≠ UINT32_MAX)
    (hkept : kept = s.web.stored ∨
      ∃ c, sentConfig env memory body s.web.active = some c ∧ kept = some (savedText print c))
    (client : Nat) :
    SoundSave h ⟨some c, .refused status message, s.web.stored, kept⟩ ∧
      Session env base (.save client ⟨some c, .refused status message, s.web.stored, kept⟩ :: h)
        { s with web := { s.web with stored := kept } } := by
  have hnone := H.nothing_promised hpending
  refine ⟨H.soundSave hnone hrevision fun _ heq => (by cases heq), ?_⟩
  refine ⟨H.active, H.pending, ?_, H.free, H.taken⟩
  rcases hkept with rfl | ⟨c', hsent', rfl⟩
  · exact H.durable
  · rw [hsent] at hsent'
    cases hsent'
    obtain ⟨map, hloads⟩ := savedText_loads hcjson hsent hmax
    refine ⟨_, map, hloads, ?_, fun p hp => ?_⟩
    · change s.web.active.revision ≤ c.revision + 1
      omega
    · change promised h = some p at hp
      rw [hnone] at hp
      cases hp

/-- A save that is answered with 200. -/
theorem Session.saved {s : WebDevice} (H : Session env base h s)
    (hcjson : CjsonRoundTrip env.parse print)
    (hsent : sentConfig env memory body s.web.active = some c)
    (hpending : s.web.restartPending = false) (hrevision : c.revision = s.web.active.revision)
    (hmax : c.revision ≠ UINT32_MAX) (client : Nat) :
    SoundSave h
        ⟨some c, .saved (s.web.active.revision + 1), s.web.stored, some (savedText print c)⟩ ∧
      Session env base
        (.save client
          ⟨some c, .saved (s.web.active.revision + 1), s.web.stored, some (savedText print c)⟩ :: h)
        { s with web :=
          { s.web with stored := some (savedText print c), restartPending := true } } := by
  have hnone := H.nothing_promised hpending
  refine ⟨H.soundSave hnone hrevision fun _ heq => (SaveReply.saved.inj heq).symm, ?_⟩
  obtain ⟨map, hloads⟩ := savedText_loads hcjson hsent hmax
  refine ⟨H.active, rfl, ⟨_, map, hloads, ?_, fun p hp => ?_⟩, nofun, fun p hp => ?_⟩
  · change s.web.active.revision ≤ c.revision + 1
    omega
  · cases hp
    rw [hrevision]
  · cases hp
    refine ⟨rfl, fun revision hmem => ?_⟩
    rcases List.mem_cons.mp hmem with rfl | hmem
    · exact Nat.le_refl _
    · exact (H.free hnone revision hmem).trans (Nat.le_succ _)

/-! ## Runs -/

/-- A step of a running device. -/
theorem Session.step {s : WebDevice} (H : Session env base h s)
    (hcjson : CjsonRoundTrip env.parse print) (hstep : WebStep env print base s l s') :
    Sound h l ∧ Session env base (l :: h) s' := by
  cases hstep with
  | read client =>
    exact ⟨⟨_, _, H.active, rfl⟩, H.active, H.pending, H.durable, H.free, H.taken⟩
  | save client calls kept body _ hkept =>
    have hout := saveHandler_outcome env print calls kept body s.web
    generalize saveHandler env print calls kept body s.web = r at hout ⊢
    cases hout with
    | untouched => exact H.untouched client _
    | failed hsent hpending hrevision hmax =>
      rw [hsent]
      exact H.failed hcjson hsent hpending hrevision hmax hkept client
    | saved hsent hpending hrevision hmax =>
      rw [hsent]
      exact H.saved hcjson hsent hpending hrevision hmax client
  | boot errName calls hreads hload =>
    have hloads := Loads.ofBoot hreads hload
    obtain ⟨hpromised, hanswered⟩ := H.answered_le hloads hreads
    exact ⟨hpromised, rfl, rfl, ⟨_, _, hloads, Nat.le_refl _, nofun⟩, fun _ => hanswered, nofun⟩

/-- The first boot of a device. -/
theorem Session.first (hstep : WebStep env print base s l s') (hoff : s.running = false) :
    Sound [] l ∧ Session env base [l] s' := by
  cases hstep with
  | read client hon =>
    rw [hoff] at hon
    cases hon
  | save client calls kept body hon =>
    rw [hoff] at hon
    cases hon
  | boot errName calls hreads hload =>
    exact ⟨nofun, rfl, rfl, ⟨_, _, Loads.ofBoot hreads hload, Nat.le_refl _, nofun⟩, nofun, nofun⟩

theorem Session.ofRun (hcjson : CjsonRoundTrip env.parse print)
    (run : (webSystem env print base).Run h s) :
    (∀ newer l older, h = newer ++ l :: older → Sound older l) ∧
      (s.running = true ∧ Session env base h s ∨ s.running = false ∧ h = []) := by
  induction run with
  | init hinit => exact ⟨fun newer _ _ heq => (by cases newer <;> cases heq), .inr ⟨hinit, rfl⟩⟩
  | @step h s l s' _ hstep ih =>
    obtain ⟨hsound, hsession⟩ := ih
    have hnext : Sound h l ∧ Session env base (l :: h) s' := by
      rcases hsession with ⟨-, H⟩ | ⟨hoff, rfl⟩
      · exact H.step hcjson hstep
      · exact Session.first hstep hoff
    have hrunning : s'.running = true := by
      cases hstep with
      | read _ hon => exact hon
      | save _ _ _ _ hon => exact hon
      | boot => rfl
    refine ⟨fun newer l' older heq => ?_, .inl ⟨hrunning, hnext.2⟩⟩
    cases newer with
    | nil =>
      obtain ⟨rfl, rfl⟩ := List.cons.inj heq
      exact hnext.1
    | cons x newer => exact hsound newer l' older (List.cons.inj heq).2

/-- Accepted revisions only go up. -/
theorem answered_increasing
    (hsound : ∀ newer l older, h = newer ++ l :: older → Sound older l) :
    (answered h).Pairwise (· > ·) := by
  induction h with
  | nil => exact .nil
  | cons l h ih =>
    have hrest := ih fun newer l' older heq => hsound (l :: newer) l' older (by rw [heq]; rfl)
    cases l with
    | read | boot => exact hrest
    | save client e =>
      have hsave : SoundSave h e := hsound [] _ h rfl
      unfold answered
      cases hreply : e.reply with
      | refused => exact hrest
      | saved revision =>
        obtain ⟨-, _, _, _, -, -, -, -, hlater⟩ := hsave.accepted revision hreply
        exact List.pairwise_cons.mpr ⟨hlater, hrest⟩

/-- Over all interleavings of clients, failing writes and restarts every event is sound, the revisions
answered with 200 increase, and what a running device works with is what its boot loaded. -/
theorem saves_not_lost (hcjson : CjsonRoundTrip env.parse print)
    (run : (webSystem env print base).Run h s) :
    (∀ newer l older, h = newer ++ l :: older → Sound older l) ∧ (answered h).Pairwise (· > ·) ∧
      (s.running = true → lastBoot h = some (s.web.active, s.map)) := by
  obtain ⟨hsound, hsession⟩ := Session.ofRun hcjson run
  refine ⟨hsound, answered_increasing hsound, fun hon => ?_⟩
  rcases hsession with ⟨-, H⟩ | ⟨hoff, -⟩
  · exact H.active
  · rw [hoff] at hon
    cases hon

/-! ## One update -/

/-- A row of the point table in front of rows without the name: the names are compared as strings. -/
theorem forall_name_ne_cons {name taken : String} (h : name ≠ taken)
    (H : ∀ p ∈ rows, AtsPointDef.name p ≠ taken.toList) :
    ∀ p ∈ atsPoint t i name d u c ss o w b k :: rows, p.name ≠ taken.toList :=
  List.forall_mem_cons.mpr ⟨mt String.toList_injective h, H⟩

/-- No point has the default name of the gateway. -/
theorem atsPointTable_name_ne :
    ∀ p ∈ atsPointTable, p.name ≠ "Kohler-MPAC1500-Gateway".toList := by
  unfold atsPointTable
  repeat refine forall_name_ne_cons (by decide +kernel) ?_
  exact List.forall_mem_nil _

theorem presetNames_sub (h : name ∈ presetNames profile) : ∃ p ∈ atsPointTable, p.name = name := by
  obtain ⟨p, hp, hname⟩ := List.mem_map.mp h
  obtain ⟨i, hi⟩ := List.mem_ofFn.mp (List.mem_of_mem_take hp)
  refine ⟨p, ?_, hname⟩
  rw [← hi]
  exact List.get_mem _ _

/-- The text of the defaults is accepted as it is. -/
theorem defaults_accepted (active : GatewayConfig) :
    configCandidate (defaultEnv strtodTwo) ⟨true, true, true, true⟩
      (flatText (gatewayConfigJson gatewayConfigDefaults true)) active {} SAVE_ERROR_BYTES =
      .ok (gatewayConfigDefaults, {}) := by
  have hsavable : Savable (defaultEnv strtodTwo) gatewayConfigDefaults := defaults_savable
  have hmap : MapFor (defaultEnv strtodTwo) gatewayConfigDefaults {} :=
    ⟨nofun, rfl, nofun, fun _ hname => by
      obtain ⟨p, hp, heq⟩ := presetNames_sub hname
      exact atsPointTable_name_ne p hp heq⟩
  exact configCandidate_eq_ok.mpr ⟨⟨_, hsavable.textOk flatParse_roundTrip, hsavable.fieldsOf active⟩,
    hmap, rfl, fun _ => ⟨rfl, rfl, rfl⟩⟩

/-- All calls of a save succeed. -/
def goodSave : SaveCalls := ⟨true, true, ⟨true, true, true, true⟩, true, true, ESP_OK, ESP_OK, ESP_OK⟩

/-- All calls of a boot that finds no blob. -/
def emptyLoad : LoadCalls :=
  ⟨ESP_OK, ESP_OK, ESP_OK, (ESP_ERR_NVS_NOT_FOUND, 0), true, (ESP_OK, 0), ⟨true, true, true, true⟩⟩

/-- All calls of a boot that reads a blob. -/
def goodLoad (blob : List Char) : LoadCalls :=
  ⟨ESP_OK, ESP_OK, ESP_OK, (ESP_OK, blob.length), true, (ESP_OK, blob.length),
    ⟨true, true, true, true⟩⟩

/-- A boot that finds no blob keeps the defaults. -/
theorem emptyLoad_loads (errName : EspErr → String) :
    gatewayWebLoad env errName emptyLoad [] base {} CONFIG_ERROR_BYTES = (base, {}, []) := by
  simp [gatewayWebLoad, emptyLoad]

/-- A save that is let through and written. -/
theorem saveHandler_saves {s : WebState}
    (hsent : sentConfig env goodSave.memory body s.active = some c) (hpending : s.restartPending = false)
    (hrevision : c.revision = s.active.revision) (hroom : c.revision ≠ UINT32_MAX) :
    saveHandler env print goodSave kept body s = (.saved (s.active.revision + 1),
      { s with stored := some (savedText print c), restartPending := true }) := by
  unfold sentConfig at hsent
  dsimp only at hsent
  split at hsent
  · next hok =>
    have hout := Option.some.inj hsent
    have hmax : ¬ s.active.revision = UINT32_MAX := hrevision ▸ hroom
    unfold saveHandler
    rw [if_neg (by simp [hpending]), if_neg (by simp [goodSave])]
    dsimp only
    rw [if_neg (not_not_intro hok), hout, if_neg (not_not_intro hrevision), if_neg hmax,
      if_neg (by simp [goodSave]), if_neg (by decide)]
    rfl
  · cases hsent

/-- The defaults as a client reads them are the defaults when they come back. -/
theorem defaults_sent : ∃ body, sentConfig (defaultEnv strtodTwo) goodSave.memory body
    gatewayConfigDefaults = some gatewayConfigDefaults := by
  refine ⟨flatText (gatewayConfigJson gatewayConfigDefaults true), ?_⟩
  unfold sentConfig goodSave
  dsimp only
  rw [gatewayConfigParse, defaults_accepted]
  exact if_pos rfl

/-- A client reads the defaults and saves them; after the restart they are active as revision 2. -/
theorem saves_not_lost_restart : ∃ h s,
    (webSystem (defaultEnv strtodTwo) flatText gatewayConfigDefaults).Run h s ∧ answered h = [2] ∧
      s.web.active = { gatewayConfigDefaults with revision := 2 } ∧
      lastBoot h = some (s.web.active, s.map) := by
  obtain ⟨body, hsent⟩ := defaults_sent
  obtain ⟨map, hloads⟩ : ∃ map, Loads (defaultEnv strtodTwo) gatewayConfigDefaults
      (some (savedText flatText gatewayConfigDefaults))
      { gatewayConfigDefaults with revision := gatewayConfigDefaults.revision + 1 } map :=
    savedText_loads flatParse_roundTrip hsent (by decide)
  generalize hblob : savedText flatText gatewayConfigDefaults = blob at hloads
  have hoff : (webSystem (defaultEnv strtodTwo) flatText gatewayConfigDefaults).Run []
      ⟨⟨gatewayConfigDefaults, false, none⟩, {}, false⟩ := .init rfl
  have hbooted := hoff.step (.boot (fun _ => "") emptyLoad ⟨rfl, rfl, rfl, rfl⟩ (emptyLoad_loads _))
  have hread := hbooted.step (.read 0 rfl)
  have hsaved := hread.step (.save 0 goodSave none body rfl (.inl rfl))
  rw [saveHandler_saves (s := ⟨gatewayConfigDefaults, false, none⟩) hsent rfl rfl (by decide),
    hblob] at hsaved
  have hreads : LoadCalls.Reads (goodLoad blob) (some blob) := ⟨rfl, rfl, rfl, rfl, rfl, rfl, rfl⟩
  have hrestarted := hsaved.step (.boot (fun _ => "") _ hreads (hloads _ _ hreads))
  exact ⟨_, _, hrestarted, rfl, rfl, (saves_not_lost flatParse_roundTrip hrestarted).2.2 rfl⟩

end ModbusGateway
