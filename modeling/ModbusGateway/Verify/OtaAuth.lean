import Mathlib.Data.List.DropRight
import Mathlib.Data.List.GetD
import ModbusGateway.Web.Request

/-!
# Who may change what

The accumulated differences decide equality, and the tokens are the embedded bytes without the padding at
their end. So one header, and no other, authorizes the four requests that change or test a configuration,
load a firmware or restart the gateway.
-/

namespace ModbusGateway

/-- An embedded token without its padding. -/
def trimmed (embedded : ByteString) : ByteString := embedded.rdropWhile paddingByte

/-- The header for a token. -/
def bearer (token : ByteString) : ByteString := OTA_BEARER_PREFIX ++ token

/-! ## Tokens -/

/-- A usable token. -/
structure Token (token : ByteString) : Prop where
  length_ge : OTA_TOKEN_MIN_LENGTH ≤ token.length
  length_le : token.length ≤ OTA_TOKEN_MAX_LENGTH
  bytes : ∀ c ∈ token, tokenByte c = true

theorem tokenByte_ne_zero {c : UInt8} (h : tokenByte c = true) : c ≠ 0 := by
  rintro rfl
  cases h

theorem strlen_eq_length (h : ∀ c ∈ token, c ≠ 0) : strlen token = token.length := by
  induction token with
  | nil => rfl
  | cons c token ih =>
    rw [strlen, if_neg (h c List.mem_cons_self), ih fun d hd => h d (List.mem_cons_of_mem _ hd),
      List.length_cons]

theorem boundedLength_eq_min (h : ∀ c ∈ token, c ≠ 0) (maximum : Nat) :
    boundedLength maximum token = min maximum token.length := by
  induction token generalizing maximum with
  | nil => cases maximum <;> rfl
  | cons c token ih =>
    cases maximum with
    | zero =>
      rw [Nat.zero_min]
      rfl
    | succ maximum =>
      have hrest := ih (fun d hd => h d (List.mem_cons_of_mem _ hd)) maximum
      rw [boundedLength, if_neg (h c List.mem_cons_self), hrest, List.length_cons]
      omega

namespace Token

variable {token : ByteString}

theorem ne_zero (H : Token token) : ∀ c ∈ token, c ≠ 0 := fun c hc => tokenByte_ne_zero (H.bytes c hc)

theorem strlen_eq (H : Token token) : strlen token = token.length := strlen_eq_length H.ne_zero

theorem sameString_iff (H : Token a) (H' : Token b) : sameString a b = true ↔ a = b := by
  rw [sameString, H.strlen_eq, H'.strlen_eq, List.take_length, List.take_length, beq_iff_eq]

theorem valid (H : Token token) : otaTokenConfigurationValid token = true := by
  have hge := H.length_ge
  have hle := H.length_le
  have hlength : boundedLength (OTA_TOKEN_MAX_LENGTH + 1) token = token.length := by
    rw [boundedLength_eq_min H.ne_zero]
    omega
  unfold otaTokenConfigurationValid
  dsimp only
  rw [hlength, if_neg (by omega), List.all_eq_true]
  intro i hi
  have hlt := List.mem_range.mp hi
  rw [List.getD_eq_getElem _ _ hlt]
  exact H.bytes _ (List.getElem_mem hlt)

end Token

theorem take_trimmedLength {embedded : ByteString} (hn : n ≤ embedded.length) :
    embedded.take (trimmedLength embedded n) = (embedded.take n).rdropWhile paddingByte := by
  induction n with
  | zero => rfl
  | succ n ih =>
    have hlt : n < embedded.length := hn
    have hget : embedded.getD n 0 = embedded[n] := List.getD_eq_getElem _ _ hlt
    rw [List.take_succ_eq_append_getElem hlt, List.rdropWhile_concat, trimmedLength, hget]
    split
    · exact ih (Nat.le_of_lt hlt)
    · exact List.take_succ_eq_append_getElem hlt

theorem trimmedLength_le (embedded : ByteString) (n : Nat) : trimmedLength embedded n ≤ n := by
  induction n with
  | zero => exact Nat.le_refl 0
  | succ n ih =>
    rw [trimmedLength]
    split
    · exact Nat.le_succ_of_le ih
    · exact Nat.le_refl _

/-- What is copied is the trimmed token. -/
theorem otaCopyEmbeddedToken_eq_some (h : otaCopyEmbeddedToken embedded capacity = some token) :
    token = trimmed embedded ∧ Token token := by
  have htake := take_trimmedLength (Nat.le_refl embedded.length)
  have hle := trimmedLength_le embedded embedded.length
  rw [List.take_length] at htake
  unfold otaCopyEmbeddedToken at h
  dsimp only at h
  split at h
  · cases h
  · next hlength =>
    split at h
    · cases h
    · next hbytes =>
      split at h
      · cases h
        have hsize : (embedded.take (trimmedLength embedded embedded.length)).length =
            trimmedLength embedded embedded.length := by
          rw [List.length_take]
          omega
        refine ⟨htake, by rw [hsize]; omega, by rw [hsize]; omega, fun c hc => ?_⟩
        obtain ⟨i, hi, rfl⟩ := List.mem_iff_getElem.mp hc
        have hlt : i < trimmedLength embedded embedded.length := hsize ▸ hi
        have hbyte := List.all_eq_true.mp (not_not.mp hbytes) i (List.mem_range.mpr hlt)
        rw [List.getD_eq_getElem _ _ (by omega)] at hbyte
        rw [List.getElem_take]
        exact hbyte
      · cases h

/-- The tokens the server starts with. -/
structure Started (embeddedAdmin embeddedViewer adminToken viewerToken : ByteString) : Prop where
  admin_eq : adminToken = trimmed embeddedAdmin
  viewer_eq : viewerToken = trimmed embeddedViewer
  admin : Token adminToken
  viewer : Token viewerToken
  distinct : adminToken ≠ viewerToken

theorem startTokens_eq_some
    (h : startTokens embeddedAdmin embeddedViewer = some (adminToken, viewerToken)) :
    Started embeddedAdmin embeddedViewer adminToken viewerToken := by
  unfold startTokens at h
  obtain ⟨a, ha, h⟩ := Option.bind_eq_some_iff.mp h
  obtain ⟨v, hv, h⟩ := Option.bind_eq_some_iff.mp h
  split at h
  · next hvalid =>
    cases h
    obtain ⟨hadmin, Ha⟩ := otaCopyEmbeddedToken_eq_some ha
    obtain ⟨hviewer, Hv⟩ := otaCopyEmbeddedToken_eq_some hv
    refine ⟨hadmin, hviewer, Ha, Hv, fun heq => ?_⟩
    have hsame := (Ha.sameString_iff Hv).mpr heq
    rw [otaRoleTokensValid, hsame] at hvalid
    simp at hvalid
  · cases h

/-! ## The comparison -/

/-- Differences add up to nothing only if there are none. -/
theorem accumulate_eq_zero : accumulate authorization first expected n difference = 0 ↔
    difference = 0 ∧ ∀ i, i < n → authorization.getD (first + i) 0 = expected.getD i 0 := by
  induction n with
  | zero => exact ⟨fun h => ⟨h, fun _ hi => absurd hi (Nat.not_lt_zero _)⟩, And.left⟩
  | succ n ih =>
    have hstep : accumulate authorization first expected (n + 1) difference =
        accumulate authorization first expected n difference |||
          authorization.getD (first + n) 0 ^^^ expected.getD n 0 := by
      rw [accumulate, List.range_succ, List.foldl_append]
      rfl
    rw [hstep, UInt8.or_eq_zero_iff, UInt8.xor_eq_zero_iff, ih]
    constructor
    · rintro ⟨⟨hzero, hall⟩, hn⟩
      refine ⟨hzero, fun i hi => ?_⟩
      rcases Nat.lt_succ_iff_lt_or_eq.mp hi with hlt | rfl
      · exact hall i hlt
      · exact hn
    · rintro ⟨hzero, hall⟩
      exact ⟨⟨hzero, fun i hi => hall i (Nat.lt_succ_of_lt hi)⟩, hall n (Nat.lt_succ_self n)⟩

/-- The comparison is equality. -/
theorem otaAuthorizationValid_iff (H : Token token) (authorization : Option ByteString) :
    otaAuthorizationValid authorization (authorization.getD []).length token = true ↔
      authorization = some (bearer token) := by
  cases authorization with
  | none =>
    constructor
    · intro h
      cases h
    · intro h
      cases h
  | some header =>
    have hvalid : ¬ ¬ otaTokenConfigurationValid token = true := not_not.mpr H.valid
    unfold otaAuthorizationValid
    dsimp only [Option.getD_some]
    rw [if_neg hvalid, H.strlen_eq, Option.some_inj]
    split
    · next hlength =>
      refine iff_of_false (fun h => (by cases h)) fun h => hlength ?_
      rw [h, bearer, List.length_append]
    · next hlength =>
      have hsize : header.length = OTA_BEARER_PREFIX.length + token.length := not_not.mp hlength
      rw [beq_iff_eq, accumulate_eq_zero, accumulate_eq_zero]
      constructor
      · rintro ⟨⟨-, hprefix⟩, htoken⟩
        apply List.ext_getElem
        · rw [hsize, bearer, List.length_append]
        · intro i hi hi'
          rw [← List.getD_eq_getElem _ 0 hi]
          by_cases hlt : i < OTA_BEARER_PREFIX.length
          · have hbyte := hprefix i hlt
            rw [Nat.zero_add, List.getD_eq_getElem _ _ hlt] at hbyte
            rw [hbyte]
            exact (List.getElem_append_left hlt).symm
          · have hsub : i - OTA_BEARER_PREFIX.length < token.length := by omega
            have hbyte := htoken (i - OTA_BEARER_PREFIX.length) hsub
            rw [Nat.add_sub_cancel' (Nat.le_of_not_lt hlt), List.getD_eq_getElem _ _ hsub] at hbyte
            rw [hbyte]
            exact (List.getElem_append_right (Nat.le_of_not_lt hlt)).symm
      · rintro rfl
        refine ⟨⟨rfl, fun i hi => ?_⟩, fun i _ => ?_⟩
        · rw [Nat.zero_add]
          exact List.getD_append _ _ _ _ hi
        · rw [bearer, List.getD_append_right _ _ _ _ (Nat.le_add_right _ _), Nat.add_sub_cancel_left]

/-! ## Roles -/

namespace Started

variable {embeddedAdmin embeddedViewer adminToken viewerToken : ByteString}

theorem tokensValid (H : Started embeddedAdmin embeddedViewer adminToken viewerToken) :
    otaRoleTokensValid adminToken viewerToken = true := by
  have hdistinct : sameString adminToken viewerToken = false := by
    rw [Bool.eq_false_iff]
    exact fun h => H.distinct ((H.admin.sameString_iff H.viewer).mp h)
  rw [otaRoleTokensValid, H.admin.valid, H.viewer.valid, hdistinct]
  rfl

/-- The role that a header gives. -/
theorem role_eq (H : Started embeddedAdmin embeddedViewer adminToken viewerToken)
    (header : Option ByteString) :
    otaAuthorizationRole header (header.getD []).length adminToken viewerToken =
      if header = none then .anonymous
      else if header = some (bearer adminToken) then .admin
      else if header = some (bearer viewerToken) then .viewer
      else .none := by
  have hvalid : ¬ ¬ otaRoleTokensValid adminToken viewerToken = true := not_not.mpr H.tokensValid
  have hnull : (header = none ∧ (header.getD []).length = 0) ↔ header = none := by
    constructor
    · exact And.left
    · rintro rfl
      exact ⟨rfl, rfl⟩
  unfold otaAuthorizationRole
  simp only [if_neg hvalid, hnull, otaAuthorizationValid_iff H.admin, otaAuthorizationValid_iff H.viewer]

theorem bearers_distinct (H : Started embeddedAdmin embeddedViewer adminToken viewerToken) :
    bearer adminToken ≠ bearer viewerToken := fun h => H.distinct (List.append_cancel_left h)

end Started

/-- The header calls report this header: the length is 0 if there is none, and a copy that fits succeeds. -/
structure HeaderCalls.Presents (calls : HeaderCalls) (header : Option ByteString) : Prop where
  length : calls.length = (header.getD []).length
  text : ∀ value, header = some value → ∀ size, value.length < size →
    calls.text size = (ESP_OK, value)

/-- A request has the role of its header, an empty one counting as none. -/
theorem requestRole_eq (H : Started embeddedAdmin embeddedViewer s.adminToken s.viewerToken)
    {calls : AuthCalls} (hcalls : calls.authorization.Presents header) :
    requestRole calls s = otaAuthorizationRole (header.filter (· ≠ []))
      ((header.filter (· ≠ [])).getD []).length s.adminToken s.viewerToken := by
  have hlength := hcalls.length
  unfold requestRole
  dsimp only
  rw [hlength]
  cases header with
  | none => exact if_pos rfl
  | some value =>
    rw [Option.getD_some]
    by_cases hempty : value = []
    · subst hempty
      exact if_pos rfl
    · have hpos : value.length ≠ 0 := fun h => hempty (List.length_eq_zero_iff.mp h)
      have hfilter : (some value).filter (· ≠ []) = some value := by
        rw [Option.filter_some, decide_eq_true hempty]
        rfl
      rw [if_neg hpos, hfilter, Option.getD_some]
      split
      · next hlong =>
        have hne {token : ByteString} (Ht : Token token) : (some value) ≠ some (bearer token) := by
          intro h
          have hle := Ht.length_le
          cases h
          rw [bearer, List.length_append] at hlong
          have hmax : OTA_AUTHORIZATION_MAX_LENGTH = OTA_BEARER_PREFIX.length + OTA_TOKEN_MAX_LENGTH :=
            rfl
          omega
        have hrole := H.role_eq (some value)
        rw [Option.getD_some] at hrole
        rw [hrole, if_neg (by simp), if_neg (hne H.admin), if_neg (hne H.viewer)]
      · next hshort =>
        rw [hcalls.text value rfl _ (by omega)]
        exact if_neg fun h => h rfl

theorem requestRole_admin (H : Started embeddedAdmin embeddedViewer s.adminToken s.viewerToken)
    {calls : AuthCalls} (hcalls : calls.authorization.Presents header) :
    requestRole calls s = .admin ↔ header = some (bearer (trimmed embeddedAdmin)) := by
  rw [requestRole_eq H hcalls, H.role_eq, ← H.admin_eq]
  cases header with
  | none => exact iff_of_false (fun h => (by cases h)) fun h => (by cases h)
  | some value =>
    by_cases hempty : value = []
    · subst hempty
      exact iff_of_false (fun h => (by cases h)) fun h => (by cases h)
    · have hfilter : (some value).filter (· ≠ []) = some value := by
        rw [Option.filter_some, decide_eq_true hempty]
        rfl
      rw [hfilter, if_neg (by simp)]
      split
      · next heq => exact iff_of_true rfl heq
      · next hne =>
        refine iff_of_false (fun h => ?_) hne
        split at h <;> cases h

/-! ## Mutations -/

theorem gatewayOtaAuthorizeMutation_eq_none : gatewayOtaAuthorizeMutation calls s = none ↔
    requestRole calls s = .admin ∧ s.uploadBusy = false ∧ s.restartPending = false ∧
      calls.running ≠ none ∧ calls.state = (ESP_OK, .valid) := by
  unfold gatewayOtaAuthorizeMutation
  cases requestRole calls s with
  | viewer | none | anonymous => simp
  | admin =>
    dsimp only
    split
    · next hbusy =>
      refine iff_of_false (fun h => (by cases h)) ?_
      rintro ⟨-, hupload, hrestart, -⟩
      simp [hupload, hrestart] at hbusy
    · next hidle =>
      rw [not_or, Bool.not_eq_true, Bool.not_eq_true] at hidle
      split
      · next hunknown =>
        refine iff_of_false (fun h => (by cases h)) ?_
        rintro ⟨-, -, -, hrunning, hstate⟩
        rcases hunknown with h | h
        · exact hrunning h
        · exact h (congrArg Prod.fst hstate)
      · next hknown =>
        rw [not_or, not_not] at hknown
        split
        · next hinvalid =>
          refine iff_of_false (fun h => (by cases h)) ?_
          rintro ⟨-, -, -, -, hstate⟩
          exact hinvalid (congrArg Prod.snd hstate)
        · next hvalid =>
          exact iff_of_true rfl ⟨rfl, hidle.1, hidle.2, hknown.1, Prod.ext hknown.2 (not_not.mp hvalid)⟩

/-- A refused request does nothing but reply. -/
structure Refuses (calls : AuthCalls) (s : OtaState) (denial : Denial) : Prop where
  upload : ∀ upload : UploadCalls, upload.toAuthCalls = calls →
    uploadPost upload s = (s, [calls.deny denial])
  reboot : ∀ contentLen, rebootPost calls contentLen s = (s, [calls.deny denial])
  validate : ∀ (body : BodyCalls) env map parser, body.toAuthCalls = calls →
    validateHandler env body map parser s = .refused denial.status denial.message.toList
  save : ∀ (body : BodyCalls) env print save kept web, body.toAuthCalls = calls →
    savePost env print body save kept s web =
      (.refused denial.status denial.message.toList, s, web)

theorem refuses_of_denied (h : gatewayOtaAuthorizeMutation calls s = some denial) :
    Refuses calls s denial := by
  have hbody (body : BodyCalls) (hcalls : body.toAuthCalls = calls) :
      requestBody body s = .error denial := by
    rw [requestBody, hcalls, h]
  refine ⟨fun upload hcalls => ?_, fun contentLen => ?_, fun body env map parser hcalls => ?_,
    fun body env print save kept web hcalls => ?_⟩
  · have hchecks : uploadChecks upload s = .error denial := by
      rw [uploadChecks, hcalls, h]
    rw [uploadPost, hchecks, ← hcalls]
  · rw [rebootPost, h]
  · rw [validateHandler, hbody body hcalls]
  · rw [savePost, hbody body hcalls]

/-- With the tokens that the server starts with, the role is decided by the header alone and a mutation is
allowed exactly to the bearer of the admin token while nothing is pending and the running image is valid.
With any other header, or none, the four routes that change, test, load or restart only refuse. -/
theorem otaAuthorization_exact
    (h : startTokens embeddedAdmin embeddedViewer = some (adminToken, viewerToken)) :
    (∀ header : Option ByteString,
      (otaAuthorizationRole header (header.getD []).length adminToken viewerToken = .admin ↔
        header = some (bearer (trimmed embeddedAdmin))) ∧
      (otaAuthorizationRole header (header.getD []).length adminToken viewerToken = .viewer ↔
        header = some (bearer (trimmed embeddedViewer))) ∧
      (otaAuthorizationRole header (header.getD []).length adminToken viewerToken = .anonymous ↔
        header = none) ∧
      (otaAuthorizationRole header (header.getD []).length adminToken viewerToken = .none ↔
        header ≠ none ∧ header ≠ some (bearer (trimmed embeddedAdmin)) ∧
          header ≠ some (bearer (trimmed embeddedViewer)))) ∧
    bearer (trimmed embeddedAdmin) ≠ bearer (trimmed embeddedViewer) ∧
    ∀ (s : OtaState) (calls : AuthCalls) (header : Option ByteString),
      s.adminToken = adminToken → s.viewerToken = viewerToken →
      calls.authorization.Presents header →
      requestRole calls s = otaAuthorizationRole (header.filter (· ≠ []))
        ((header.filter (· ≠ [])).getD []).length adminToken viewerToken ∧
      (gatewayOtaAuthorizeMutation calls s = none ↔
        requestRole calls s = .admin ∧ s.uploadBusy = false ∧ s.restartPending = false ∧
          calls.running ≠ none ∧ calls.state = (ESP_OK, .valid)) ∧
      (header ≠ some (bearer (trimmed embeddedAdmin)) → ∃ denial, Refuses calls s denial) := by
  have H := startTokens_eq_some h
  rw [← H.admin_eq, ← H.viewer_eq]
  refine ⟨fun header => ?_, H.bearers_distinct, ?_⟩
  · rw [H.role_eq]
    have hne := H.bearers_distinct
    by_cases hnone : header = none
    · simp [hnone]
    by_cases hadmin : header = some (bearer adminToken)
    · simp [hadmin, hne]
    by_cases hviewer : header = some (bearer viewerToken)
    · simp [hviewer, hne.symm]
    · simp [hnone, hadmin, hviewer]
  · rintro s calls header rfl rfl hcalls
    refine ⟨requestRole_eq H hcalls, gatewayOtaAuthorizeMutation_eq_none, fun hother => ?_⟩
    rw [H.admin_eq] at hother
    cases hauth : gatewayOtaAuthorizeMutation calls s with
    | none =>
      have hrole := (gatewayOtaAuthorizeMutation_eq_none.mp hauth).1
      exact absurd ((requestRole_admin H hcalls).mp hrole) hother
    | some denial => exact ⟨denial, refuses_of_denied hauth⟩

/-- 32 letters and a line feed. -/
def embeddedA : ByteString := List.replicate 32 0x61 ++ [0x0A]

def embeddedV : ByteString := List.replicate 32 0x76

theorem otaAuthorization_exact_letters :
    otaAuthorizationRole (some (bearer (trimmed embeddedA))) 39 (List.replicate 32 0x61) embeddedV =
      .admin :=
  ((otaAuthorization_exact (by decide +kernel :
    startTokens embeddedA embeddedV = some (List.replicate 32 0x61, embeddedV))).1
      (some (bearer (trimmed embeddedA)))).1.mpr rfl

end ModbusGateway
