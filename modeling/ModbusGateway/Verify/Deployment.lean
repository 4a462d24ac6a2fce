import ModbusGateway.Ota.Client
import ModbusGateway.Verify.Upload

/-!
# Updates over the network

What the client concludes from the statuses it polls is what has happened on the device: whether the
device has booted since, whether the uploaded image runs, and whether it was validated. The image that ran
before stays in its slot until then.
-/

namespace ModbusGateway

variable {reader : ImageReader}

/-! ## What an upload can do -/

/-- There is no third slot. -/
theorem OtaSlot.eq_of_ne {a b c : OtaSlot} (ha : a ≠ c) (hb : b ≠ c) : a = b := by
  cases a <;> cases b <;> cases c <;> first | rfl | exact absurd rfl ha | exact absurd rfl hb

/-- An upload that passes the checks is for another slot than the one that runs, and that one is
valid. -/
theorem uploadChecks_ok {calls : UploadCalls} (h : uploadChecks calls s = .ok r) :
    calls.target ≠ calls.running ∧ calls.state = (ESP_OK, .valid) ∧ s.restartPending = false ∧
      calls.target = some r.2 := by
  unfold uploadChecks at h
  split at h
  · cases h
  next hauthorized =>
  have hstate : calls.state = (ESP_OK, .valid) ∧ s.restartPending = false := by
    unfold gatewayOtaAuthorizeMutation at hauthorized
    split at hauthorized
    · cases hauthorized
    · cases hauthorized
    · cases hauthorized
    · split at hauthorized
      · cases hauthorized
      next hbusy =>
      split at hauthorized
      · cases hauthorized
      next hcode =>
      split at hauthorized
      · cases hauthorized
      next hvalid =>
      have hcode : calls.state.1 = ESP_OK := by
        by_contra hne
        exact hcode (.inr hne)
      refine ⟨Prod.ext hcode (of_not_not hvalid), Bool.eq_false_iff.mpr fun hpending => ?_⟩
      exact hbusy (.inr hpending)
  split at h
  · cases h
  split at h
  · cases h
  split at h
  · cases h
  split at h
  · cases h
  next target htarget =>
  split at h
  · cases h
  next hslot =>
  split at h
  · cases h
  cases h
  rw [htarget]
  exact ⟨fun hsame => hslot (.inl hsame), hstate.1, hstate.2, rfl⟩

/-- The events of a refused upload are one reply. -/
theorem uploadPost_refused {calls : UploadCalls} {s : OtaState} (h : uploadChecks calls s = .error denial) :
    uploadPost calls s = (s, [calls.deny denial]) := by
  unfold uploadPost
  rw [h]

/-- The call opens or completes an image. -/
def OtaEvent.touches (e : OtaEvent) : Bool := e.begins || e.completes

theorem uploadPost_touches {calls : UploadCalls} {s : OtaState}
    (h : (uploadPost calls s).2.any OtaEvent.touches = true) : ∃ r, uploadChecks calls s = .ok r := by
  cases hchecks : uploadChecks calls s with
  | error denial =>
    rw [uploadPost_refused hchecks] at h
    cases h
  | ok r => exact ⟨r, rfl⟩

/-- Where it touches the flash, the running slot is valid and not the target. -/
theorem AboutFlash.touches {calls : UploadCalls} (A : AboutFlash reader d calls)
    (h : (uploadPost calls s).2.any OtaEvent.touches = true) :
    d.states d.running = .valid ∧ s.restartPending = false ∧
      ∀ slot : OtaSlot, calls.target = some slot.partition → slot ≠ d.running := by
  obtain ⟨r, hr⟩ := uploadPost_touches h
  obtain ⟨htarget, hstate, hpending, -⟩ := uploadChecks_ok hr
  refine ⟨?_, hpending, fun slot hslot heq => htarget ?_⟩
  · rw [← A.state (congrArg Prod.fst hstate)]
    exact congrArg Prod.snd hstate
  · rw [hslot, A.running, heq]

theorem any_touches {events : List OtaEvent} {p : OtaEvent → Bool} (hp : ∀ e, p e = true → e.touches = true)
    (h : events.any p = true) : events.any OtaEvent.touches = true := by
  obtain ⟨e, he, hpe⟩ := List.any_eq_true.mp h
  exact List.any_eq_true.mpr ⟨e, he, hp e hpe⟩

/-- A refusal is no acceptance. -/
theorem deny_ne_accepted (calls : AuthCalls) (denial : Denial) :
    calls.deny denial ≠ .reply (.uploadAccepted version partition imageHash) := by
  unfold AuthCalls.deny AuthCalls.respond
  split
  · exact fun h => by cases h
  · exact fun h => by cases h

theorem uploadFail_not_accepted {calls : UploadCalls} :
    .reply (.uploadAccepted version partition imageHash) ∉ (uploadFail calls s begun buffer denial).2 := by
  unfold uploadFail
  dsimp only
  rw [List.mem_append, List.mem_append, List.mem_singleton]
  rintro ((h | h) | h)
  · split at h
    · cases List.mem_singleton.mp h
    · cases h
  · split at h
    · cases List.mem_singleton.mp h
    · cases h
  · exact deny_ne_accepted _ _ h.symm

/-- What an accepted upload has made sure of. -/
structure AcceptedUpload (calls : UploadCalls) (partition : CString) (imageHash : ByteString) : Prop where
  target : ∃ target, calls.target = some target ∧ partition = target.label
  digest : calls.digest.1 = ESP_OK
  hash : imageHash = hexDigest calls.digest.2
  ended : calls.ended = ESP_OK

theorem uploadFinish_accepted {calls : UploadCalls} (htarget : calls.target = some target)
    (h : .reply (.uploadAccepted version partition imageHash) ∈ (uploadFinish calls s app target).2) :
    AcceptedUpload calls partition imageHash := by
  unfold uploadFinish at h
  split at h
  · exact absurd h uploadFail_not_accepted
  next hended =>
  have hended := of_not_not hended
  cases hcandidate : checkCandidate calls app with
  | error denial =>
    rw [hcandidate] at h
    exact absurd h uploadFail_not_accepted
  | ok found =>
    rw [hcandidate] at h
    dsimp only at h
    split at h
    · rcases List.mem_cons.mp h with h | h
      · cases h
      · exact absurd h uploadFail_not_accepted
    have hdigest : calls.digest.1 = ESP_OK ∧ found = hexDigest calls.digest.2 := by
      unfold checkCandidate at hcandidate
      dsimp only at hcandidate
      split_ifs at hcandidate with _ _ _ h₁
      cases hcandidate
      exact ⟨of_not_not h₁, rfl⟩
    rcases List.mem_cons.mp h with h | h
    · cases h
    rcases List.mem_cons.mp h with h | h
    · unfold AuthCalls.respond at h
      split at h
      · cases h
        exact ⟨⟨target, htarget, rfl⟩, hdigest.1, hdigest.2, hended⟩
      · cases h
    · cases List.mem_singleton.mp h

theorem uploadPost_accepted (calls : UploadCalls) {s : OtaState}
    (h : .reply (.uploadAccepted version partition imageHash) ∈ (uploadPost calls s).2) :
    AcceptedUpload calls partition imageHash ∧ (uploadPost calls s).2.any OtaEvent.completes = true := by
  unfold uploadPost at h ⊢
  cases hchecks : uploadChecks calls s with
  | error denial =>
    rw [hchecks] at h
    exact absurd (List.mem_singleton.mp h).symm (deny_ne_accepted _ _)
  | ok r =>
    obtain ⟨app, target⟩ := r
    have htarget := (uploadChecks_ok hchecks).2.2.2
    rw [hchecks] at h
    dsimp only at h ⊢
    split at h
    · rcases List.mem_cons.mp h with h | h
      · cases h
      · exact absurd (List.mem_singleton.mp h).symm (deny_ne_accepted _ _)
    next hfree =>
    rw [if_neg hfree]
    rcases List.mem_cons.mp h with h | h
    · cases h
    unfold uploadTransfer at h ⊢
    split at h
    · exact absurd h uploadFail_not_accepted
    next hbuffer =>
    rw [if_neg hbuffer]
    split at h
    · rcases List.mem_cons.mp h with h | h
      · cases h
      rcases List.mem_cons.mp h with h | h
      · cases h
      · exact absurd h uploadFail_not_accepted
    next hbegin =>
    rw [if_neg hbegin]
    have hloop : receiveLoop calls (calls.clock 0 + RECEIVE_DEADLINE_US) calls.contentLen 0 0 =
        transfer calls := rfl
    dsimp only at h ⊢
    rw [hloop] at h ⊢
    rcases List.mem_append.mp h with h | h
    · rcases List.mem_cons.mp h with h | h
      · cases h
      rcases List.mem_cons.mp h with h | h
      · cases h
      · cases outside_isReply.none_of calls _ h
    cases hdone : (transfer calls).2 with
    | some denial =>
      rw [hdone] at h
      exact absurd h uploadFail_not_accepted
    | none =>
      rw [hdone] at h
      rcases List.mem_cons.mp h with h | h
      · cases h
      rcases List.mem_cons.mp h with h | h
      · cases h
      have A := uploadFinish_accepted htarget h
      refine ⟨A, List.any_eq_true.mpr ⟨.ended calls.ended, ?_, decide_eq_true A.ended⟩⟩
      simp

/-- What an upload leaves alone: the running slot, the count, the boot; and the other slot unless the
running one is valid. -/
structure Undisturbed (d d' : Device) : Prop where
  running : d'.running = d.running
  image : d'.contents d.running = d.contents d.running
  boots : d'.boots = d.boots
  started : d'.started = d.started
  session : d'.session = d.session
  other : d.states d.running = .valid ∨ d'.contents = d.contents

theorem uploadDevice_undisturbed {calls : UploadCalls} (A : AboutFlash reader d calls) (server : OtaServer)
    (left : ByteString) : Undisturbed d (uploadDevice d server calls left).1 := by
  have hsafe (p : OtaEvent → Bool) (hp : ∀ e, p e = true → e.touches = true)
      (h : (uploadPost calls server.toOtaState).2.any p = true) := A.touches (any_touches hp h)
  have hcompletes (e : OtaEvent) (he : e.completes = true) : e.touches = true := by
    unfold OtaEvent.touches
    rw [he, Bool.or_true]
  have hbegins (e : OtaEvent) (he : e.begins = true) : e.touches = true := by
    unfold OtaEvent.touches
    rw [he, Bool.true_or]
  refine ⟨rfl, ?_, rfl, rfl, rfl, ?_⟩
  · show (if calls.target ≠ some d.running.partition then _ else _) = _
    split
    · rfl
    next htarget =>
    have htarget := of_not_not htarget
    split
    · next h => exact absurd rfl ((hsafe _ hcompletes h).2.2 _ htarget)
    split
    · next h => exact absurd rfl ((hsafe _ hbegins h).2.2 _ htarget)
    · rfl
  · by_cases hvalid : d.states d.running = .valid
    · exact .inl hvalid
    · refine .inr (funext fun slot => ?_)
      show (if calls.target ≠ some slot.partition then _ else _) = _
      split
      · rfl
      split
      · next h => exact absurd (hsafe _ hcompletes h).1 hvalid
      split
      · next h => exact absurd (hsafe _ hbegins h).1 hvalid
      · rfl

theorem uploadPost_statics (calls : UploadCalls) (s : OtaState) :
    (uploadPost calls s).1.imageHash = s.imageHash ∧ (uploadPost calls s).1.bootCount = s.bootCount := by
  have H := uploadPost_path calls s
  generalize uploadPost calls s = r at H ⊢
  cases H with
  | refused => exact ⟨rfl, rfl⟩
  | taken => exact ⟨rfl, rfl⟩
  | noBuffer => exact ⟨rfl, rfl⟩
  | noHandle => exact ⟨rfl, rfl⟩
  | interrupted => exact ⟨rfl, rfl⟩
  | rejected => exact ⟨rfl, rfl⟩
  | unselected => exact ⟨rfl, rfl⟩
  | selected => exact ⟨rfl, rfl⟩

theorem rebootPost_statics (calls : AuthCalls) (contentLen : Nat) (s : OtaState) :
    (rebootPost calls contentLen s).1.imageHash = s.imageHash ∧
      (rebootPost calls contentLen s).1.bootCount = s.bootCount := by
  unfold rebootPost
  split
  · exact ⟨rfl, rfl⟩
  · split
    · exact ⟨rfl, rfl⟩
    · exact ⟨rfl, rfl⟩

/-! ## The identity of a boot -/

/-- The server tells the hashes of the image that runs, and the count in NVS. -/
structure Identified (reader : ImageReader) (d : Device) (server : OtaServer) : Prop where
  image : server.imageHash = hexDigest (reader.sha256 (d.contents d.running))
  signer : server.signingHash = hexDigest (reader.signer (d.contents d.running))
  boots : d.boots = some server.bootCount

/-- There is a server only once `gateway_ota_start` has been called. -/
structure DeviceInv (reader : ImageReader) (d : Device) : Prop where
  started : d.started = false → d.server = none
  identified : ∀ server, d.server = some server → Identified reader d server

/-- What `gateway_ota_start` leaves: no server, with the count as it was or one more, or a server with
one more. -/
inductive StartResult (reader : ImageReader) (d d' : Device) : Prop
  | failed : d'.server = none → d'.boots = d.boots ∨ d'.boots = some (d.boots.getD 0 + 1) →
    StartResult reader d d'
  | ready (server : OtaServer) : d'.server = some server → Identified reader d' server →
    server.bootCount = d.boots.getD 0 + 1 → StartResult reader d d'

theorem cacheIdentity_cases (reader : ImageReader) (d : Device) (calls : IdentityCalls) :
    (∃ result, (cacheIdentity reader d calls).2 = .error result ∧
      ((cacheIdentity reader d calls).1 = d.boots ∨
        (cacheIdentity reader d calls).1 = some (d.boots.getD 0 + 1))) ∨
    cacheIdentity reader d calls = (some (d.boots.getD 0 + 1),
      .ok (hexDigest (reader.sha256 (d.contents d.running)),
        hexDigest (reader.signer (d.contents d.running)), d.boots.getD 0 + 1)) := by
  unfold cacheIdentity
  extract_lets image previous result
  split
  · exact .inl ⟨_, rfl, .inl rfl⟩
  split
  · exact .inl ⟨_, rfl, .inl rfl⟩
  split
  · exact .inl ⟨_, rfl, .inl rfl⟩
  split
  · exact .inl ⟨_, rfl, .inl rfl⟩
  split
  · exact .inl ⟨_, rfl, .inl rfl⟩
  split
  · refine .inl ⟨_, rfl, ?_⟩
    by_cases hkept : calls.kept = true
    · exact .inr (if_pos hkept)
    · exact .inl (if_neg hkept)
  · exact .inr rfl

theorem gatewayOtaStart_result (reader : ImageReader) (hserver : d.server = none) (calls : StartCalls) :
    let d' := (gatewayOtaStart reader d calls).1
    d'.contents = d.contents ∧ d'.states = d.states ∧ d'.running = d.running ∧ d'.session = d.session ∧
      StartResult reader d d' := by
  unfold gatewayOtaStart
  rw [hserver]
  dsimp only
  rw [if_neg (by decide)]
  split
  · exact ⟨rfl, rfl, rfl, rfl, .failed hserver (.inl rfl)⟩
  split
  · exact ⟨rfl, rfl, rfl, rfl, .failed hserver (.inl rfl)⟩
  rcases cacheIdentity_cases reader d calls.identity with ⟨result, hresult, hboots⟩ | hok
  · rw [hresult]
    exact ⟨rfl, rfl, rfl, rfl, .failed rfl hboots⟩
  · rw [hok]
    dsimp only
    generalize (if calls.sslStart ≠ ESP_OK then calls.sslStart
      else registerHandlers (calls.register.take 3) calls.web) = result
    by_cases hresult : result = ESP_OK
    · rw [if_neg (not_not_intro hresult)]
      exact ⟨rfl, rfl, rfl, rfl, .ready _ rfl ⟨rfl, rfl, rfl⟩ rfl⟩
    · rw [if_pos hresult]
      exact ⟨rfl, rfl, rfl, rfl, .failed rfl (.inr rfl)⟩

/-! ## The moves of a device -/

/-- A step is a boot, the start of the server, or leaves the boot and its identity as they are. -/
inductive DeviceMove (reader : ImageReader) (d d' : Device) : Prop
  | booted : d'.session = d.session + 1 → d'.started = false → d'.server = none → d'.boots = d.boots →
    DeviceMove reader d d'
  | started : d.server = none → d.started = false → d'.started = true → d'.session = d.session →
      d'.running = d.running →
    d'.contents = d.contents → StartResult reader d d' → DeviceMove reader d d'
  | quiet : Undisturbed d d' → (d.server = none → d'.server = none) →
    (∀ server, d.server = some server → ∃ server', d'.server = some server' ∧
      server'.imageHash = server.imageHash ∧ server'.signingHash = server.signingHash ∧
      server'.bootCount = server.bootCount) → DeviceMove reader d d'

theorem upload_move {calls : UploadCalls} (A : AboutFlash reader d calls) (hserver : d.server = some server)
    (left : ByteString) : DeviceMove reader d (uploadDevice d server calls left).1 := by
  refine .quiet (uploadDevice_undisturbed A server left) (fun h => ?_) fun other hother => ?_
  · rw [hserver] at h
    cases h
  · rw [hserver] at hother
    cases hother
    obtain ⟨himage, hboots⟩ := uploadPost_statics calls server.toOtaState
    exact ⟨_, rfl, himage, rfl, hboots⟩

theorem reboot_move (calls : AuthCalls) (contentLen : Nat) (hserver : d.server = some server) :
    DeviceMove reader d
      { d with server := some { server with toOtaState := (rebootPost calls contentLen server.toOtaState).1 } } := by
  refine .quiet ⟨rfl, rfl, rfl, rfl, rfl, .inr rfl⟩ (fun h => ?_) fun other hother => ?_
  · rw [hserver] at h
    cases h
  · rw [hserver] at hother
    cases hother
    obtain ⟨himage, hboots⟩ := rebootPost_statics calls contentLen server.toOtaState
    exact ⟨_, rfl, himage, rfl, hboots⟩

theorem DeviceStep.move (hstep : DeviceStep reader d l d') (D : DeviceInv reader d) :
    DeviceMove reader d d' := by
  cases hstep with
  | boot slot states => exact .booted rfl rfl rfl rfl
  | start calls hstarted =>
    have hserver := D.started hstarted
    obtain ⟨hcontents, -, hrunning, hsession, hresult⟩ := gatewayOtaStart_result reader hserver calls
    refine .started hserver hstarted rfl hsession hrunning hcontents ?_
    cases hresult with
    | failed hnone hboots => exact .failed hnone hboots
    | ready server hready hidentified hcount =>
      exact .ready server hready ⟨hidentified.image, hidentified.signer, hidentified.boots⟩ hcount
  | upload server calls left hserver hflash => exact upload_move hflash hserver left
  | cut => exact .booted rfl rfl rfl rfl
  | reboot server calls contentLen hserver => exact reboot_move calls contentLen hserver
  | valid =>
    exact .quiet ⟨rfl, rfl, rfl, rfl, rfl, .inr rfl⟩ (fun h => h) fun server h => ⟨server, h, rfl, rfl, rfl⟩

theorem DeviceMove.inv (hmove : DeviceMove reader d d') (D : DeviceInv reader d) : DeviceInv reader d' := by
  cases hmove with
  | booted _ _ hserver _ =>
    refine ⟨fun _ => hserver, fun server h => ?_⟩
    rw [hserver] at h
    cases h
  | started _ _ hstarted _ _ _ hresult =>
    refine ⟨fun h => absurd (hstarted.symm.trans h) Bool.noConfusion, fun server h => ?_⟩
    cases hresult with
    | failed hnone _ =>
      rw [hnone] at h
      cases h
    | ready server' hready hidentified _ =>
      rw [hready] at h
      cases h
      exact hidentified
  | quiet hkept hnone hserver =>
    refine ⟨fun h => hnone (D.started (hkept.started.symm.trans h)), fun server' h => ?_⟩
    cases hold : d.server with
    | none =>
      rw [hnone hold] at h
      cases h
    | some server =>
      obtain ⟨server₁, hserver₁, himage, hsigner, hboots⟩ := hserver server hold
      rw [hserver₁] at h
      cases h
      have I := D.identified server hold
      refine ⟨?_, ?_, ?_⟩
      · rw [himage, hkept.running, hkept.image]
        exact I.image
      · rw [hsigner, hkept.running, hkept.image]
        exact I.signer
      · rw [hboots, hkept.boots]
        exact I.boots

/-! ## Since a status -/

/-- What has become of the device since a status: in the same boot it still tells the same; the count has
gone up by no more than the boots since, and with a server of a later boot by one at least. -/
structure Since (before : Fetched) (d : Device) : Prop where
  session : before.session ≤ d.session
  slot : ∃ slot : OtaSlot, before.report.partition = slot.partition.label
  same : before.session = d.session → ∃ server, d.server = some server ∧
    server.bootCount = before.report.bootCount ∧ server.imageHash = before.report.imageSha256 ∧
    d.running.partition.label = before.report.partition
  count : ∃ boots, d.boots = some (before.report.bootCount + UInt32.ofNat boots) ∧
    boots ≤ d.session - before.session ∧ (d.started = false → boots < d.session - before.session) ∧
    (before.session < d.session → d.server ≠ none → 1 ≤ boots)

theorem Since.fetch (D : DeviceInv reader d) (hserver : d.server = some server) :
    Since ⟨statusGet reader d server, d.session⟩ d where
  session := Nat.le_refl _
  slot := ⟨d.running, rfl⟩
  same _ := ⟨server, hserver, rfl, rfl, rfl⟩
  count := by
    refine ⟨0, ?_, Nat.zero_le _, fun h => ?_, fun h => absurd h (Nat.lt_irrefl _)⟩
    · rw [(D.identified server hserver).boots]
      exact congrArg some (UInt32.add_zero _).symm
    · rw [D.started h] at hserver
      cases hserver

theorem Since.move (S : Since before d) (hmove : DeviceMove reader d d') : Since before d' := by
  obtain ⟨boots, hboots, hmost, hidle, hleast⟩ := S.count
  have hle := S.session
  cases hmove with
  | booted hsession _ hserver hkept =>
    refine ⟨by omega, S.slot, fun h => absurd h (by omega), boots, hkept.trans hboots, by omega, fun _ => by omega,
      fun _ h => absurd hserver h⟩
  | started hnone hstarted hstarted' hsession _ _ hresult =>
    have hlater : before.session < d.session := by
      refine Nat.lt_of_le_of_ne hle fun heq => ?_
      obtain ⟨server, hserver, -⟩ := S.same heq
      rw [hnone] at hserver
      cases hserver
    have hidle := hidle hstarted
    have hnext : some (d.boots.getD 0 + 1) = some (before.report.bootCount + UInt32.ofNat (boots + 1)) := by
      rw [hboots, UInt32.ofNat_add, ← UInt32.add_assoc]
      rfl
    refine ⟨by omega, S.slot, fun h => absurd h (by omega), ?_⟩
    cases hresult with
    | failed hserver hcount =>
      rcases hcount with hcount | hcount
      · exact ⟨boots, hcount.trans hboots, by omega, fun h => absurd (hstarted'.symm.trans h) Bool.noConfusion,
          fun _ h => absurd hserver h⟩
      · exact ⟨boots + 1, hcount.trans hnext, by omega,
          fun h => absurd (hstarted'.symm.trans h) Bool.noConfusion, fun _ h => absurd hserver h⟩
    | ready server _ hidentified hcount =>
      refine ⟨boots + 1, ?_, by omega, fun h => absurd (hstarted'.symm.trans h) Bool.noConfusion,
        fun _ _ => Nat.le_add_left 1 boots⟩
      rw [hidentified.boots, hcount]
      exact hnext
  | quiet hkept hnone hserver =>
    have hsession := hkept.session
    refine ⟨by omega, S.slot, fun h => ?_, boots, hkept.boots.trans hboots, by omega, fun h => ?_,
      fun h hsome => ?_⟩
    · obtain ⟨server, hold, hcount, himage, hlabel⟩ := S.same (by omega)
      obtain ⟨server', hnew, himage', -, hcount'⟩ := hserver server hold
      exact ⟨server', hnew, hcount'.trans hcount, himage'.trans himage, hkept.running ▸ hlabel⟩
    · have := hidle (hkept.started.symm.trans h)
      omega
    · exact hleast (by omega) fun h => hsome (hnone h)

/-- Where the count cannot have wrapped, the client sees a later boot as one, and the same boot as none. -/
theorem Since.rebooted_iff (S : Since before d) (D : DeviceInv reader d) (hserver : d.server = some server)
    (hwrap : before.report.bootCount.toNat + (d.session - before.session) < 2 ^ 32) :
    (before.report.bootCount < server.bootCount ∨ d.running.partition.label ≠ before.report.partition) ↔
      before.session < d.session := by
  obtain ⟨boots, hboots, hmost, -, hleast⟩ := S.count
  have hcount : server.bootCount = before.report.bootCount + UInt32.ofNat boots :=
    Option.some.inj ((D.identified server hserver).boots.symm.trans hboots)
  have hvalue : server.bootCount.toNat = before.report.bootCount.toNat + boots := by
    rw [hcount, UInt32.toNat_add, UInt32.toNat_ofNat']
    omega
  refine ⟨fun h => ?_, fun h => .inl ?_⟩
  · refine Nat.lt_of_le_of_ne S.session fun heq => ?_
    obtain ⟨server', hserver', hcount', -, hlabel⟩ := S.same heq
    rw [hserver] at hserver'
    cases hserver'
    rcases h with h | h
    · rw [hcount'] at h
      exact absurd h (UInt32.lt_irrefl _)
    · exact h hlabel
  · have := hleast h (by rw [hserver]; exact Option.some_ne_none _)
    rw [UInt32.lt_iff_toNat_lt]
    omega

/-! ## A client and a device -/

/-- The status that the client compares with. -/
def ClientPc.before : ClientPc → Option Fetched
  | .idle => none
  | .checked before => some before
  | .waiting before _ => some before
  | .rebootChecked before => some before
  | .rebootWaiting before => some before
  | .finished _ => none

structure DeploymentInv (reader : ImageReader) (s : Deployment) : Prop where
  device : DeviceInv reader s.device
  since : ∀ before, s.client.before = some before → Since before s.device

/-- A turn of the client that keeps what it compares with. -/
theorem DeploymentInv.turn (I : DeploymentInv reader ⟨d, client⟩)
    (hkept : ∀ before, client'.before = some before → client.before = some before) :
    DeploymentInv reader ⟨d, client'⟩ :=
  ⟨I.device, fun before h => I.since before (hkept before h)⟩

/-- A move of the device. -/
theorem DeploymentInv.move (I : DeploymentInv reader ⟨d, client⟩) (hmove : DeviceMove reader d d') :
    DeploymentInv reader ⟨d', client⟩ :=
  ⟨hmove.inv I.device, fun before h => (I.since before h).move hmove⟩

theorem PollResult.after_before (result : PollResult) (waiting : ClientPc)
    (h : (result.after waiting).before = some before) : waiting.before = some before := by
  cases result with
  | done verdict => cases h
  | notRebooted => exact h
  | notValid => exact h

theorem afterUpload_before (h : (afterUpload m args fetched reply).before = some before) :
    fetched = before := by
  unfold afterUpload at h
  split at h
  · cases h
  split at h
  · cases h
  · exact Option.some.inj h

theorem afterReboot_before (h : (afterReboot fetched reply).before = some before) : fetched = before := by
  unfold afterReboot at h
  split at h
  · cases h
  · exact Option.some.inj h

theorem DeploymentStep.inv {m : FirmwareMetadata} {args : UploadArgs} (hstep : DeploymentStep reader m args s l s')
    (I : DeploymentInv reader s) : DeploymentInv reader s' := by
  cases hstep with
  | device h => exact I.move (h.move I.device)
  | fetch hproject hserver hchecked =>
    refine ⟨I.device, fun before h => ?_⟩
    cases h
    exact Since.fetch I.device hserver
  | unfit hproject hserver hchecked => exact I.turn fun before h => by cases h
  | foreign hproject => exact I.turn fun before h => by cases h
  | unreachable => exact I.turn fun before h => by cases h
  | post calls left hserver hflash hsent hreply =>
    exact (I.move (upload_move hflash hserver left)).turn fun before h => congrArg some (afterUpload_before h)
  | lost =>
    refine I.turn fun before h => ?_
    split at h
    · cases h
    · exact h
  | poll hserver hresult => exact I.turn fun before h => PollResult.after_before _ _ h
  | timeout => exact I.turn fun before h => by cases h
  | fetchReboot hserver =>
    refine ⟨I.device, fun before h => ?_⟩
    cases h
    exact Since.fetch I.device hserver
  | postReboot calls hserver hreply =>
    exact (I.move (reboot_move calls 0 hserver)).turn fun before h => congrArg some (afterReboot_before h)
  | lostReboot => exact I.turn fun before h => h
  | pollReboot hserver hresult => exact I.turn fun before h => PollResult.after_before _ _ h
  | timeoutReboot => exact I.turn fun before h => by cases h

theorem deployment_inv {m : FirmwareMetadata} {args : UploadArgs}
    (run : (deploymentSystem reader m args).Run h s) : DeploymentInv reader s := by
  refine run.invariant (I := fun _ s => DeploymentInv reader s) (fun s hinit => ?_)
    fun _ _ _ _ _ hI hstep => DeploymentStep.inv hstep hI
  obtain ⟨hclient, hstarted, hserver⟩ := hinit
  refine ⟨⟨fun _ => hserver, fun server h => ?_⟩, fun before h => ?_⟩
  · rw [hserver] at h
    cases h
  · rw [hclient] at h
    cases h

/-! ## A device to try -/

/-- A reader with a digest of the first byte. -/
def firstByteReader : ImageReader where
  sha256 image := List.replicate 32 (image.headD 0)
  describe _ := { secureVersion := 0, version := [0x31], projectName := [0x67] }
  signer _ := List.replicate 32 7

/-- 288 bytes, the least that the gateway takes. -/
def sampleImage : ByteString := (List.range 288).map fun _ => 0xE9

/-- The image is signed with the key of the device. -/
def sampleMetadata : FirmwareMetadata where
  image := sampleImage
  imageSha256 := hexDigest (List.replicate 32 0xE9)
  project := [0x67]
  version := [0x31]
  signingKeySha256 := some (hexDigest (List.replicate 32 7))

def sampleArgs : UploadArgs := { project := [0x67], noWait := false, allowSameImage := false }

/-- A device that has never booted. -/
def sampleDevice : Device where
  contents _ := [0]
  states _ := .valid
  boots := none
  running := .ota0

/-- Every call succeeds. -/
def sampleStart : StartCalls where
  admin := List.replicate 32 0x61
  viewer := List.replicate 32 0x62
  tls := ESP_OK
  identity :=
    { digest := ESP_OK
      keys := ESP_OK
      numDigests := 1
      nvsOpen := ESP_OK
      nvsGet := ESP_OK
      nvsSet := ESP_OK
      nvsCommit := ESP_OK
      kept := true }
  sslStart := ESP_OK
  register := [ESP_OK, ESP_OK, ESP_OK]
  web := ESP_OK

/-- The device in its first boot. -/
def startedDevice : Device :=
  { (gatewayOtaStart firstByteReader sampleDevice sampleStart).1 with started := true }

def sampleServer : OtaServer where
  adminToken := List.replicate 32 0x61
  viewerToken := List.replicate 32 0x62
  imageHash := hexDigest (List.replicate 32 0)
  signingHash := hexDigest (List.replicate 32 7)
  bootCount := 1
  uploadBusy := false
  restartPending := false

theorem startedDevice_server : startedDevice.server = some sampleServer := by rfl

/-! ## What the client concludes -/

@[simp] theorem stateName_valid : stateName state = "valid" ↔ state = .valid := by
  cases state with
  | new => decide
  | pendingVerify => decide
  | valid => decide
  | invalid => decide
  | aborted => decide
  | undefined => decide

/-- What the device has to be for `_wait_for_deployment` to end well once it has rebooted. -/
def Deployed (reader : ImageReader) (m : FirmwareMetadata) (expected : Option CString) (d : Device) : Prop :=
  let image := d.contents d.running
  hexDigest (reader.sha256 image) = m.imageSha256 ∧ d.states d.running = .valid ∧
    descriptionText (reader.describe image).projectName = m.project ∧
    descriptionText (reader.describe image).version = m.version ∧
    (∀ key, m.signingKeySha256 = some key → hexDigest (reader.signer image) = key) ∧
    ∀ label, expected = some label → d.running.partition.label = label

/-- The four ends of a turn, told by whether the device has rebooted and what it runs. -/
theorem pollDeployment_cases (m : FirmwareMetadata) (before : StatusReport) (expected : Option CString)
    (status : StatusReport) {rebooted : Prop}
    (hrebooted : (before.bootCount < status.bootCount ∨ status.partition ≠ before.partition) ↔ rebooted)
    (hpolicy : status.softwareSignatureVerification = true) :
    (pollDeployment m before expected status = .notRebooted ↔ ¬ rebooted) ∧
      (pollDeployment m before expected status = .done (.failed .differentImage) ↔
        rebooted ∧ status.imageSha256 ≠ m.imageSha256) ∧
      (pollDeployment m before expected status = .notValid ↔
        rebooted ∧ status.imageSha256 = m.imageSha256 ∧ status.state ≠ "valid") ∧
      (pollDeployment m before expected status = .done .verified ↔
        rebooted ∧ status.imageSha256 = m.imageSha256 ∧ status.state = "valid" ∧
          status.project = m.project ∧ status.version = m.version ∧
          (∀ key, m.signingKeySha256 = some key → status.signingKeySha256 = key) ∧
          ∀ label, expected = some label → status.partition = label) := by
  have hkey : (m.signingKeySha256.isSome = true ∧ (¬ status.softwareSignatureVerification = true ∨
      some status.signingKeySha256 ≠ m.signingKeySha256)) ↔
      ¬ ∀ key, m.signingKeySha256 = some key → status.signingKeySha256 = key := by
    cases m.signingKeySha256 with
    | none => simp
    | some key => simp [hpolicy]
  have hlabel : (expected.isSome = true ∧ some status.partition ≠ expected) ↔
      ¬ ∀ label, expected = some label → status.partition = label := by
    cases expected with
    | none => simp
    | some label => simp
  have hrebooted := propext hrebooted
  subst hrebooted
  unfold pollDeployment
  simp only [hkey, hlabel]
  by_cases h₁ : before.bootCount < status.bootCount ∨ status.partition ≠ before.partition
  · by_cases h₂ : status.imageSha256 = m.imageSha256
    · by_cases h₃ : status.state = "valid"
      · rw [if_pos ⟨h₁, h₂, h₃⟩]
        split_ifs <;> simp_all
      · rw [if_neg fun h => h₃ h.2.2, if_pos ⟨h₁, h₂⟩]
        simp [h₁, h₂, h₃]
    · rw [if_neg fun h => h₂ h.2.1, if_neg fun h => h₂ h.2, if_pos h₁]
      simp [h₁, h₂]
  · rw [if_neg fun h => h₁ h.1, if_neg fun h => h₁ h.1, if_neg h₁]
    simp [h₁]

/-- A turn at a device whose identity is cached, told by what it runs. -/
theorem DeviceInv.poll_cases (I : DeviceInv reader d) (hserver : d.server = some server)
    (m : FirmwareMetadata) (before : StatusReport) (expected : Option CString)
    (hrebooted : (before.bootCount < server.bootCount ∨ d.running.partition.label ≠ before.partition) ↔
      rebooted) :
    (pollDeployment m before expected (statusGet reader d server) = .notRebooted ↔ ¬ rebooted) ∧
      (pollDeployment m before expected (statusGet reader d server) = .done (.failed .differentImage) ↔
        rebooted ∧ hexDigest (reader.sha256 (d.contents d.running)) ≠ m.imageSha256) ∧
      (pollDeployment m before expected (statusGet reader d server) = .notValid ↔
        rebooted ∧ hexDigest (reader.sha256 (d.contents d.running)) = m.imageSha256 ∧
          d.states d.running ≠ .valid) ∧
      (pollDeployment m before expected (statusGet reader d server) = .done .verified ↔
        rebooted ∧ Deployed reader m expected d) := by
  have D := I.identified server hserver
  have himage : (statusGet reader d server).imageSha256 = hexDigest (reader.sha256 (d.contents d.running)) :=
    D.image
  have hsigner : (statusGet reader d server).signingKeySha256 =
      hexDigest (reader.signer (d.contents d.running)) := D.signer
  have hstate : (statusGet reader d server).state = "valid" ↔ d.states d.running = .valid := stateName_valid
  obtain ⟨hsame, hdifferent, hwaiting, hverified⟩ :=
    pollDeployment_cases m before expected (statusGet reader d server) hrebooted rfl
  rw [himage] at hdifferent
  rw [himage, Ne, hstate] at hwaiting
  rw [himage, hstate, hsigner] at hverified
  exact ⟨hsame, hdifferent, hwaiting, hverified⟩

/-- In any run of a device and a client that waits for its update, while the count cannot have wrapped: a
poll is taken for one before the reboot exactly if there was none since the first status, ends with a
different image exactly if another one runs, waits for the state exactly if the image runs and is not valid,
and verifies exactly if the image runs, valid, from the slot that accepted it and under the expected key. -/
theorem deployment_verdict {m : FirmwareMetadata} {args : UploadArgs}
    (run : (deploymentSystem reader m args).Run h s) (hclient : s.client = .waiting before expected)
    (hserver : s.device.server = some server)
    (hwrap : before.report.bootCount.toNat + (s.device.session - before.session) < 2 ^ 32) :
    let d := s.device
    let image := hexDigest (reader.sha256 (d.contents d.running))
    let result := pollDeployment m before.report expected (statusGet reader d server)
    (result = .notRebooted ↔ d.session = before.session) ∧
      (result = .done (.failed .differentImage) ↔ before.session < d.session ∧ image ≠ m.imageSha256) ∧
      (result = .notValid ↔ before.session < d.session ∧ image = m.imageSha256 ∧ d.states d.running ≠ .valid) ∧
      (result = .done .verified ↔ before.session < d.session ∧ Deployed reader m expected d) := by
  intro d image result
  have I := deployment_inv run
  have S : Since before s.device := I.since before (by rw [hclient]; rfl)
  obtain ⟨hsame, hdifferent, hwaiting, hverified⟩ :=
    I.device.poll_cases hserver m before.report expected (S.rebooted_iff I.device hserver hwrap)
  have hsession := S.session
  exact ⟨hsame.trans ⟨fun h => Nat.le_antisymm (Nat.le_of_not_lt h) hsession,
      fun h => Nat.not_lt.mpr (Nat.le_of_eq h)⟩, hdifferent,
    hwaiting, hverified⟩

/-- The reply to the upload is lost. -/
theorem sampleRun : (deploymentSystem firstByteReader sampleMetadata sampleArgs).Run
    [.lost, .fetch, .device (.start ESP_OK)] ⟨startedDevice,
      .waiting ⟨statusGet firstByteReader startedDevice sampleServer, 0⟩ none⟩ := by
  have h₀ : (deploymentSystem firstByteReader sampleMetadata sampleArgs).Run [] ⟨sampleDevice, .idle⟩ :=
    .init ⟨rfl, rfl, rfl⟩
  have h₁ := h₀.step (.device (.start sampleStart rfl))
  have h₂ := h₁.step (.fetch (by decide) startedDevice_server (by decide))
  exact h₂.step .lost

theorem replyOf_mem {events : List OtaEvent} (h : replyOf events = some reply) : .reply reply ∈ events := by
  obtain ⟨e, he, hreply⟩ := List.exists_of_findSome?_eq_some h
  split at hreply
  · cases hreply
    exact he
  · cases hreply

/-- A slot is written that the client did not ask for. -/
def DeploymentLabel.writes : DeploymentLabel → Bool
  | .device (.upload events) => events.any OtaEvent.touches
  | .device .cut => true
  | _ => false

/-- An upload that succeeds. -/
def sampleUpload : UploadCalls where
  authorization :=
    { length := 39
      text := fun _ => (ESP_OK, OTA_BEARER_PREFIX ++ List.replicate 32 0x61) }
  running := some OtaSlot.ota0.partition
  state := (ESP_OK, .valid)
  replyMemory := true
  runningApp := some (firstByteReader.describe [])
  projectHeader := { length := 1, text := fun _ => (ESP_OK, [0x67]) }
  typeHeader := { length := 24, text := fun _ => (ESP_OK, OCTET_STREAM) }
  target := some OtaSlot.ota1.partition
  contentLen := 288
  raced := false
  buffer := true
  begin := ESP_OK
  clock _ := 0
  received _ := 288
  body _ := 0xE9
  write _ := ESP_OK
  ended := ESP_OK
  description := (ESP_OK, firstByteReader.describe [])
  digest := (ESP_OK, List.replicate 32 0xE9)
  select := ESP_OK

theorem sampleUpload_reply :
    replyOf (uploadPost sampleUpload sampleServer.toOtaState).2 =
      some (.uploadAccepted [0x31] "ota_1".toList (hexDigest (List.replicate 32 0xE9))) := by
  have hchecks : uploadChecks sampleUpload sampleServer.toOtaState =
      .ok (firstByteReader.describe [], OtaSlot.ota1.partition) := rfl
  have hreceived : receiveLoop sampleUpload (sampleUpload.clock 0 + RECEIVE_DEADLINE_US) sampleUpload.contentLen 0 0 =
      ([.recv 288, .write ((List.range 288).map fun _ => 0xE9) ESP_OK], none) := by
    unfold receiveLoop
    unfold receiveLoop
    rfl
  unfold uploadPost
  rw [hchecks]
  dsimp only
  rw [if_neg (by decide)]
  unfold uploadTransfer
  rw [if_neg (by decide), if_neg (by decide), hreceived]
  rfl

theorem sampleUpload_about : AboutFlash firstByteReader startedDevice sampleUpload where
  running := rfl
  state _ := rfl
  app _ h := (Option.some.inj h).symm
  target _ h := ⟨.ota1, (Option.some.inj h).symm⟩
  description _ := rfl
  digest _ := rfl

/-- The device with the image in its other slot. -/
def uploadedDevice : Device := (uploadDevice startedDevice sampleServer sampleUpload []).1

theorem uploadedDevice_contents : uploadedDevice.contents .ota1 = sampleImage := by
  obtain ⟨-, hcompletes⟩ := uploadPost_accepted sampleUpload (replyOf_mem sampleUpload_reply)
  exact if_pos hcompletes

/-- It has booted into a slot. -/
def bootedDevice (slot : OtaSlot) : Device :=
  { (gatewayOtaStart firstByteReader
      { uploadedDevice with
        states := fun _ => .valid
        running := slot
        started := false
        server := none
        session := 1 } sampleStart).1 with started := true }

theorem updateRun (slot : OtaSlot) :
    (deploymentSystem firstByteReader sampleMetadata sampleArgs).RunWhere
      (fun _ s l _ => ∀ before label, s.client = .waiting before (some label) → l.writes = false)
      [.device (.start ESP_OK), .device (.boot slot),
        .post (.uploadAccepted [0x31] "ota_1".toList (hexDigest (List.replicate 32 0xE9))), .fetch,
        .device (.start ESP_OK)]
      ⟨bootedDevice slot,
        .waiting ⟨statusGet firstByteReader startedDevice sampleServer, 0⟩ (some "ota_1".toList)⟩ := by
  have h₀ : (deploymentSystem firstByteReader sampleMetadata sampleArgs).RunWhere
      (fun _ s l _ => ∀ before label, s.client = .waiting before (some label) → l.writes = false) []
      ⟨sampleDevice, .idle⟩ := .init ⟨rfl, rfl, rfl⟩
  have h₁ := h₀.step (.device (.start sampleStart rfl)) fun _ _ _ => rfl
  have h₂ := h₁.step (.fetch (by decide) startedDevice_server (by decide)) fun _ _ _ => rfl
  have h₃ := h₂.step (.post sampleUpload [] startedDevice_server sampleUpload_about rfl sampleUpload_reply)
    fun _ _ _ => rfl
  have h₄ := h₃.step (.device (.boot slot fun _ => .valid)) fun _ _ _ => rfl
  exact h₄.step (.device (.start sampleStart rfl)) fun _ _ _ => rfl

/-- The device that has booted into the uploaded image is verified, one that is back in its old slot has a
different image, and a poll of one whose upload was lost comes before the reboot. -/
theorem deployment_verdict_booted :
    (∃ server, (bootedDevice .ota1).server = some server ∧
      pollDeployment sampleMetadata (statusGet firstByteReader startedDevice sampleServer) (some "ota_1".toList)
        (statusGet firstByteReader (bootedDevice .ota1) server) = .done .verified) ∧
    (∃ server, (bootedDevice .ota0).server = some server ∧
      pollDeployment sampleMetadata (statusGet firstByteReader startedDevice sampleServer) (some "ota_1".toList)
        (statusGet firstByteReader (bootedDevice .ota0) server) = .done (.failed .differentImage)) ∧
    pollDeployment sampleMetadata (statusGet firstByteReader startedDevice sampleServer) none
      (statusGet firstByteReader startedDevice sampleServer) = .notRebooted := by
  refine ⟨⟨_, rfl, ?_⟩, ⟨_, rfl, ?_⟩,
    (deployment_verdict sampleRun rfl startedDevice_server (by decide)).1.mpr rfl⟩
  · refine (deployment_verdict (updateRun .ota1).run rfl rfl (by decide)).2.2.2.mpr ⟨by decide, ?_⟩
    refine ⟨?_, rfl, by decide, by decide, fun key hkey => ?_, fun label hlabel => ?_⟩
    · show hexDigest (firstByteReader.sha256 (uploadedDevice.contents .ota1)) = _
      rw [uploadedDevice_contents]
      decide
    · cases hkey
      rfl
    · cases hlabel
      rfl
  · exact (deployment_verdict (updateRun .ota0).run rfl rfl (by decide)).2.1.mpr ⟨by decide, by decide⟩

/-- The number of counted boots since the status, while it cannot have wrapped. -/
theorem Since.counted (S : Since before d) (D : DeviceInv reader d) (hserver : d.server = some server)
    (hwrap : d.session - before.session < 2 ^ 32) : ∃ boots,
      (server.bootCount = before.report.bootCount ↔ boots = 0) ∧
      (server.bootCount = before.report.bootCount + 1 ↔ boots = 1) ∧
      before.session + boots ≤ d.session ∧ (boots = 0 → d.session = before.session) := by
  obtain ⟨boots, hboots, hmost, -, hleast⟩ := S.count
  have hle := S.session
  have hcount : server.bootCount = before.report.bootCount + UInt32.ofNat boots :=
    Option.some.inj ((D.identified server hserver).boots.symm.trans hboots)
  have hvalue : (UInt32.ofNat boots).toNat = boots := by
    rw [UInt32.toNat_ofNat']
    omega
  refine ⟨boots, ?_, ?_, by omega, fun hzero => ?_⟩
  · rw [hcount, UInt32.add_eq_left, ← UInt32.toNat_inj, hvalue]
    rfl
  · rw [hcount, UInt32.add_right_inj, ← UInt32.toNat_inj, hvalue]
    rfl
  · by_contra hne
    have := hleast (by omega) (by rw [hserver]; exact Option.some_ne_none _)
    omega

theorem pollReboot_cases (before status : StatusReport) :
    (pollReboot before status = .notRebooted ↔ status.bootCount = before.bootCount) ∧
      (pollReboot before status = .done (.failed .unexpectedBootCount) ↔
        status.bootCount ≠ before.bootCount ∧ status.bootCount ≠ before.bootCount + 1) ∧
      (pollReboot before status = .done .verified ↔
        status.bootCount = before.bootCount + 1 ∧ status.imageSha256 = before.imageSha256 ∧
          status.partition = before.partition ∧ status.state = "valid") := by
  have hnext : before.bootCount + 1 ≠ before.bootCount := by simp
  unfold pollReboot
  by_cases h₁ : status.bootCount = before.bootCount
  · rw [if_pos h₁, h₁]
    simp [hnext.symm]
  · rw [if_neg h₁]
    by_cases h₂ : status.bootCount = before.bootCount + 1
    · rw [if_neg (not_not_intro h₂), h₂]
      split_ifs <;> simp_all
    · rw [if_pos h₂]
      simp [h₁, h₂]

/-- In any run of a device and a client that waits for its reboot, with fewer than 2³² boots since: a poll is
taken for one before the reboot exactly if there was none; it verifies only a later boot of the same image,
valid, from the same slot; only a second boot is unexpected; and after one boot it verifies exactly then. -/
theorem reboot_verdict {m : FirmwareMetadata} {args : UploadArgs}
    (run : (deploymentSystem reader m args).Run h s) (hclient : s.client = .rebootWaiting before)
    (hserver : s.device.server = some server) (hwrap : s.device.session - before.session < 2 ^ 32) :
    let d := s.device
    let result := pollReboot before.report (statusGet reader d server)
    let kept := hexDigest (reader.sha256 (d.contents d.running)) = before.report.imageSha256 ∧
      d.running.partition.label = before.report.partition ∧ d.states d.running = .valid
    (result = .notRebooted ↔ d.session = before.session) ∧
      (result = .done .verified → before.session < d.session ∧ kept) ∧
      (result = .done (.failed .unexpectedBootCount) → before.session + 2 ≤ d.session) ∧
      (d.session = before.session + 1 → (result = .done .verified ↔ kept)) := by
  intro d result kept
  have I := deployment_inv run
  have S : Since before s.device := I.since before (by rw [hclient]; rfl)
  have D := I.device.identified server hserver
  obtain ⟨boots, hsame, hnext, hmost, hzero⟩ := S.counted I.device hserver hwrap
  obtain ⟨hnone, hunexpected, hverified⟩ := pollReboot_cases before.report (statusGet reader s.device server)
  have hkept : ((statusGet reader s.device server).imageSha256 = before.report.imageSha256 ∧
      (statusGet reader s.device server).partition = before.report.partition ∧
      (statusGet reader s.device server).state = "valid") ↔ kept := by
    have himage : (statusGet reader s.device server).imageSha256 =
        hexDigest (reader.sha256 (d.contents d.running)) := D.image
    have hstate : (statusGet reader s.device server).state = "valid" ↔ d.states d.running = .valid :=
      stateName_valid
    rw [himage, hstate]
    rfl
  have hcount : (statusGet reader s.device server).bootCount = server.bootCount := rfl
  rw [hcount] at hnone hunexpected
  rw [hkept, hcount, hnext] at hverified
  rw [hsame] at hnone
  rw [Ne, hsame, Ne, hnext] at hunexpected
  have hd : d.session = s.device.session := rfl
  refine ⟨hnone.trans ⟨hzero, fun h => by omega⟩, fun h => ?_, fun h => ?_, fun hone => ?_⟩
  · obtain ⟨hboots, hkept⟩ := hverified.mp h
    exact ⟨by omega, hkept⟩
  · obtain ⟨h₀, h₁⟩ := hunexpected.mp h
    omega
  · -- one boot has been counted as none or as one
    have hboots : boots = 1 := by
      by_contra hne
      have := hzero (by omega)
      omega
    exact hverified.trans ⟨fun h => h.2, fun h => ⟨hboots, h⟩⟩

/-- The device in its second boot. -/
def rebootedDevice : Device :=
  { (gatewayOtaStart firstByteReader
      { startedDevice with
        started := false
        server := none
        session := 1 } sampleStart).1 with started := true }

theorem rebootedDevice_server : rebootedDevice.server = some { sampleServer with bootCount := 2 } := by rfl

theorem rebootRun : (deploymentSystem firstByteReader sampleMetadata sampleArgs).Run
    [.device (.start ESP_OK), .device (.boot .ota0), .lost, .fetch, .device (.start ESP_OK)] ⟨rebootedDevice,
      .rebootWaiting ⟨statusGet firstByteReader startedDevice sampleServer, 0⟩⟩ := by
  have h₀ : (deploymentSystem firstByteReader sampleMetadata sampleArgs).Run [] ⟨sampleDevice, .idle⟩ :=
    .init ⟨rfl, rfl, rfl⟩
  have h₁ := h₀.step (.device (.start sampleStart rfl))
  have h₂ := h₁.step (.fetchReboot startedDevice_server)
  have h₃ := h₂.step .lostReboot
  have h₄ := h₃.step (.device (.boot .ota0 fun _ => .valid))
  exact h₄.step (.device (.start sampleStart rfl))

theorem reboot_verdict_lost :
    pollReboot (statusGet firstByteReader startedDevice sampleServer)
      (statusGet firstByteReader rebootedDevice { sampleServer with bootCount := 2 }) = .done .verified :=
  ((reboot_verdict rebootRun rfl rebootedDevice_server (by decide)).2.2.2 rfl).mpr (by decide)

/-! ## The image that was accepted -/

/-- The image is in a slot of the accepted label, which is not the one that ran. -/
structure Landed (reader : ImageReader) (m : FirmwareMetadata) (before : Fetched) (label : CString)
    (d : Device) : Prop where
  slot : ∃ slot : OtaSlot, label = slot.partition.label ∧ d.contents slot = m.image
  other : label ≠ before.report.partition
  hash : hexDigest (reader.sha256 m.image) = m.imageSha256

theorem not_any_of_imp {events : List OtaEvent} {p : OtaEvent → Bool} (hp : ∀ e, p e = true → e.touches = true)
    (h : events.any OtaEvent.touches = false) : events.any p = false :=
  Bool.eq_false_iff.mpr fun hany => Bool.eq_false_iff.mp h (any_touches hp hany)

/-- An upload that does not touch the flash. -/
theorem uploadDevice_contents {calls : UploadCalls} (server : OtaServer) (left : ByteString)
    (h : (uploadPost calls server.toOtaState).2.any OtaEvent.touches = false) :
    (uploadDevice d server calls left).1.contents = d.contents := by
  have hcompletes := not_any_of_imp (p := OtaEvent.completes)
    (fun e he => by unfold OtaEvent.touches; rw [he, Bool.or_true]) h
  have hbegins := not_any_of_imp (p := OtaEvent.begins)
    (fun e he => by unfold OtaEvent.touches; rw [he, Bool.true_or]) h
  funext slot
  show (if calls.target ≠ some slot.partition then _ else _) = _
  split
  · rfl
  rw [if_neg (Bool.eq_false_iff.mp hcompletes), if_neg (Bool.eq_false_iff.mp hbegins)]

theorem gatewayOtaStart_contents (reader : ImageReader) (d : Device) (calls : StartCalls) :
    (gatewayOtaStart reader d calls).1.contents = d.contents := by
  cases hserver : d.server with
  | none => exact (gatewayOtaStart_result reader hserver calls).1
  | some server =>
    unfold gatewayOtaStart
    rw [hserver]
    rfl

theorem DeviceStep.quiet_contents (hstep : DeviceStep reader d l d')
    (hquiet : (DeploymentLabel.device l).writes = false) : d'.contents = d.contents := by
  cases hstep with
  | boot slot states => rfl
  | start calls hstarted => exact gatewayOtaStart_contents reader d calls
  | upload server calls left hserver hflash => exact uploadDevice_contents server left hquiet
  | cut => cases hquiet
  | reboot server calls contentLen hserver => rfl
  | valid hpending => rfl

/-- What the client has checked of the acceptance. -/
theorem afterUpload_waiting (h : afterUpload m args fetched reply = .waiting before (some label)) :
    fetched = before ∧ label ≠ before.report.partition ∧
      ∃ version, reply = .uploadAccepted version label m.imageSha256 := by
  unfold afterUpload at h
  cases hchecked : checkAccepted m fetched.report reply with
  | error verdict =>
    rw [hchecked] at h
    cases h
  | ok partition =>
    rw [hchecked] at h
    dsimp only at h
    split at h
    · cases h
    cases h
    refine ⟨rfl, ?_⟩
    cases reply with
    | uploadAccepted version partition imageHash =>
      unfold checkAccepted at hchecked
      dsimp only at hchecked
      split at hchecked
      · cases hchecked
      split at hchecked
      · cases hchecked
      next himage =>
      split at hchecked
      · cases hchecked
      next hother =>
      cases hchecked
      rw [of_not_not himage]
      exact ⟨hother, version, rfl⟩
    | rebootAccepted bootCount imageHash => cases hchecked
    | denied denial => cases hchecked
    | outOfMemory => cases hchecked

/-- The image has landed once the client has the acceptance. -/
theorem Landed.post {calls : UploadCalls} {left : ByteString} (A : AboutFlash reader d calls)
    (hsent : calls.sent = m.image) (hreply : replyOf (uploadDevice d server calls left).2 = some reply)
    (hwaiting : afterUpload m args fetched reply = .waiting before (some label)) :
    Landed reader m before label (uploadDevice d server calls left).1 := by
  obtain ⟨-, hother, version, hreply'⟩ := afterUpload_waiting hwaiting
  subst hreply'
  obtain ⟨accepted, hcompletes⟩ := uploadPost_accepted calls (replyOf_mem hreply)
  obtain ⟨target, htarget, hlabel⟩ := accepted.target
  obtain ⟨slot, hslot⟩ := A.target target htarget
  refine ⟨⟨slot, by rw [hlabel, hslot], ?_⟩, hother, ?_⟩
  · show (if calls.target ≠ some slot.partition then _ else _) = _
    rw [if_neg (by rw [htarget, hslot]; exact not_not_intro rfl), if_pos hcompletes, hsent]
  · rw [accepted.hash, A.digest accepted.digest, hsent]

theorem PollResult.after_waiting {result : PollResult}
    (h : result.after client = .waiting before expected) : client = .waiting before expected := by
  cases result with
  | done verdict => cases h
  | notRebooted => exact h
  | notValid => exact h

theorem DeploymentStep.landed {m : FirmwareMetadata} {args : UploadArgs}
    (hstep : DeploymentStep reader m args s l s')
    (halone : ∀ before label, s.client = .waiting before (some label) → l.writes = false)
    (H : ∀ before label, s.client = .waiting before (some label) → Landed reader m before label s.device)
    (hwaiting : s'.client = .waiting before (some label)) : Landed reader m before label s'.device := by
  cases hstep with
  | device h =>
    have L := H before label hwaiting
    obtain ⟨slot, hlabel, hcontents⟩ := L.slot
    have hkept := h.quiet_contents (halone before label hwaiting)
    exact ⟨⟨slot, hlabel, (congrFun hkept slot).trans hcontents⟩, L.other, L.hash⟩
  | fetch => cases hwaiting
  | unfit => cases hwaiting
  | foreign => cases hwaiting
  | unreachable => cases hwaiting
  | post calls left hserver hflash hsent hreply => exact Landed.post hflash hsent hreply hwaiting
  | lost =>
    dsimp only at hwaiting
    split at hwaiting
    · cases hwaiting
    · cases hwaiting
  | poll hserver hresult => exact H before label (PollResult.after_waiting hwaiting)
  | timeout => cases hwaiting
  | fetchReboot => cases hwaiting
  | postReboot calls hserver hreply =>
    dsimp only at hwaiting
    unfold afterReboot at hwaiting
    split at hwaiting
    · cases hwaiting
    · cases hwaiting
  | lostReboot => cases hwaiting
  | pollReboot hserver hresult => cases PollResult.after_waiting hwaiting
  | timeoutReboot => cases hwaiting

theorem accepted_landed {m : FirmwareMetadata} {args : UploadArgs}
    (run : (deploymentSystem reader m args).RunWhere
      (fun _ s l _ => ∀ before label, s.client = .waiting before (some label) → l.writes = false) h s)
    (hclient : s.client = .waiting before (some label)) : Landed reader m before label s.device := by
  induction run generalizing before label with
  | init hinit =>
    rw [hinit.1] at hclient
    cases hclient
  | step _ hstep halone ih => exact DeploymentStep.landed hstep halone (fun _ _ h => ih h) hclient

/-- `_inspect_firmware` has read the image as the device will. -/
structure Inspected (reader : ImageReader) (m : FirmwareMetadata) : Prop where
  project : descriptionText (reader.describe m.image).projectName = m.project
  version : descriptionText (reader.describe m.image).version = m.version
  signer : ∀ key, m.signingKeySha256 = some key → hexDigest (reader.signer m.image) = key

/-- A device that runs what has landed is deployed once it is valid. -/
theorem deployed_of_contents (hcontents : d.contents d.running = m.image)
    (hhash : hexDigest (reader.sha256 m.image) = m.imageSha256) (hinspected : Inspected reader m)
    (hvalid : d.states d.running = .valid) : Deployed reader m (some d.running.partition.label) d := by
  unfold Deployed
  dsimp only
  rw [hcontents]
  exact ⟨hhash, hvalid, hinspected.project, hinspected.version, hinspected.signer,
    fun _ h => Option.some.inj h⟩

/-- Once the image has been accepted, and while nobody else uploads one: a poll that ends with a different
image means that the device has gone back to the slot it ran before, and a device that runs the other slot
is verified as soon as it is valid. -/
theorem rollback_told {m : FirmwareMetadata} {args : UploadArgs}
    (run : (deploymentSystem reader m args).RunWhere
      (fun _ s l _ => ∀ before label, s.client = .waiting before (some label) → l.writes = false) h s)
    (hclient : s.client = .waiting before (some label)) (hserver : s.device.server = some server)
    (hinspected : Inspected reader m) :
    let d := s.device
    let result := pollDeployment m before.report (some label) (statusGet reader d server)
    (result = .done (.failed .differentImage) → d.running.partition.label = before.report.partition) ∧
      (d.running.partition.label ≠ before.report.partition →
        result = if d.states d.running = .valid then .done .verified else .notValid) := by
  intro d result
  have I := deployment_inv run.run
  have S : Since before s.device := I.since before (by rw [hclient]; rfl)
  have L : Landed reader m before label s.device := accepted_landed run hclient
  obtain ⟨slot, hlabel, hcontents⟩ := L.slot
  obtain ⟨old, hold⟩ := S.slot
  obtain ⟨-, hdifferent, hwaiting, hverified⟩ :=
    I.device.poll_cases hserver m before.report (some label) Iff.rfl
  -- in the other slot it runs the image
  have hnew (hother : d.running.partition.label ≠ before.report.partition) : d.running = slot := by
    refine OtaSlot.eq_of_ne (c := old) (fun h => hother ?_) fun h => L.other ?_
    · rw [h, hold]
    · rw [hlabel, h, hold]
  have hruns (hother : d.running.partition.label ≠ before.report.partition) :
      d.contents d.running = m.image := by
    rw [hnew hother]
    exact hcontents
  have himage (hother : d.running.partition.label ≠ before.report.partition) :
      hexDigest (reader.sha256 (d.contents d.running)) = m.imageSha256 := by
    rw [hruns hother, L.hash]
  refine ⟨fun h => ?_, fun hother => ?_⟩
  · by_contra hother
    exact (hdifferent.mp h).2 (himage hother)
  · by_cases hvalid : d.states d.running = .valid
    · rw [if_pos hvalid]
      have hdeployed := deployed_of_contents (hruns hother) L.hash hinspected hvalid
      rw [hnew hother, ← hlabel] at hdeployed
      exact hverified.mpr ⟨.inr hother, hdeployed⟩
    · rw [if_neg hvalid]
      exact hwaiting.mpr ⟨.inr hother, himage hother, hvalid⟩

theorem rollback_told_updated :
    ∃ server, (bootedDevice .ota1).server = some server ∧
      pollDeployment sampleMetadata (statusGet firstByteReader startedDevice sampleServer) (some "ota_1".toList)
        (statusGet firstByteReader (bootedDevice .ota1) server) = .done .verified :=
  ⟨_, rfl, (rollback_told (updateRun .ota1) rfl rfl ⟨by decide, by decide, by decide⟩).2 (by decide)⟩

/-! ## The image that ran before -/

/-- A device that goes on from any state. -/
def deviceSystem (reader : ImageReader) (start : Device) : StepSystem Device DeviceLabel where
  init d := d = start
  step := DeviceStep reader

theorem DeviceStep.contents (hstep : DeviceStep reader d l d') (slot : OtaSlot)
    (hsafe : d.running = slot ∨ d.states d.running ≠ .valid) : d'.contents slot = d.contents slot := by
  cases hstep with
  | boot => rfl
  | start calls hstarted =>
    exact congrFun (gatewayOtaStart_contents reader d calls) slot
  | upload server calls left hserver hflash =>
    have hkept := uploadDevice_undisturbed hflash server left
    rcases hsafe with hrunning | hvalid
    · rw [← hrunning]
      exact hkept.image
    · exact congrFun (hkept.other.resolve_left hvalid) slot
  | cut server calls left booted states hserver hflash hbegins =>
    obtain ⟨hvalid, -, htarget⟩ := hflash.touches
      (any_touches (fun e he => by unfold OtaEvent.touches; rw [he, Bool.true_or]) hbegins)
    refine if_neg fun h => ?_
    exact hsafe.elim (fun hrunning => htarget slot h hrunning.symm) fun hne => hne hvalid
  | reboot => rfl
  | valid => rfl

/-- Whatever is requested, and wherever a write is cut short: until another slot runs and is valid, a slot
keeps the image it has. -/
theorem old_image_kept (slot : OtaSlot)
    (run : (deviceSystem reader start).RunWhere
      (fun _ d _ _ => d.running = slot ∨ d.states d.running ≠ .valid) h d) :
    d.contents slot = start.contents slot := by
  induction run with
  | init hinit => rw [hinit]
  | step _ hstep hsafe ih => exact (hstep.contents slot hsafe).trans ih

theorem old_image_kept_uploaded : uploadedDevice.contents .ota0 = sampleDevice.contents .ota0 := by
  have h₀ : (deviceSystem firstByteReader sampleDevice).RunWhere
      (fun _ d _ _ => d.running = .ota0 ∨ d.states d.running ≠ .valid) [] sampleDevice := .init rfl
  have h₁ := h₀.step (.start sampleStart rfl) (.inl rfl)
  have h₂ := h₁.step (.upload sampleServer sampleUpload [] startedDevice_server sampleUpload_about) (.inl rfl)
  exact old_image_kept .ota0 h₂

end ModbusGateway
