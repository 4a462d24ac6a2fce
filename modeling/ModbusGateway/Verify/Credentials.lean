import ModbusGateway.Ota.Credentials
import ModbusGateway.Verify.OtaAuth

/-!
# Credentials from file to request

One file goes two ways: into the firmware, where the device cuts it to a token, and to the client, which strips it
and sends it. Both ways end with the same bytes.
-/

namespace ModbusGateway

variable {token file : ByteString}

/-! ## One token -/

theorem validToken_iff : validToken token = true ↔ Token token := by
  unfold validToken
  rw [Bool.and_eq_true, decide_eq_true_iff, List.all_eq_true]
  exact ⟨fun ⟨⟨hge, hle⟩, hbytes⟩ => ⟨hge, hle, hbytes⟩, fun H => ⟨⟨H.length_ge, H.length_le⟩, H.bytes⟩⟩

/-- What is behind the last byte that counts goes. -/
theorem rdropWhile_append_right {p : UInt8 → Bool} (hpadding : ∀ c ∈ padding, p c = true)
    (htoken : ∀ c ∈ token, p c = false) : (token ++ padding).rdropWhile p = token := by
  have hself : token.rdropWhile p = token :=
    List.rdropWhile_eq_self_iff.mpr fun hne => by
      rw [htoken _ (List.getLast_mem hne)]
      exact Bool.false_ne_true
  rw [List.rdropWhile, List.reverse_append,
    List.dropWhile_append_of_pos fun c hc => hpadding c (List.mem_reverse.mp hc)]
  exact hself

theorem tokenByte_not_padding {c : UInt8} (h : tokenByte c = true) : paddingByte c = false := by
  unfold tokenByte paddingByte at *
  grind

theorem tokenByte_not_space {c : UInt8} (h : tokenByte c = true) : pythonSpace c = false := by
  unfold tokenByte pythonSpace at *
  grind

theorem paddingByte_space {c : UInt8} (h : paddingByte c = true) (hc : c ≠ 0) :
    pythonSpace c = true ∧ c < 0x80 := by
  unfold paddingByte at h
  simp only [Bool.or_eq_true, beq_iff_eq] at h
  rcases h with (((rfl | rfl) | rfl) | rfl) | rfl
  · exact absurd rfl hc
  · decide
  · decide
  · decide
  · decide

theorem tokenByte_ascii {c : UInt8} (h : tokenByte c = true) : c < 0x80 := by
  unfold tokenByte at h
  grind

/-- A token is embedded as it is. -/
theorem Token.copied (H : Token token) :
    otaCopyEmbeddedToken (embeddedText token) (OTA_TOKEN_MAX_LENGTH + 1) = some token := by
  have hge := H.length_ge
  have hle := H.length_le
  have htrimmed : (embeddedText token).rdropWhile paddingByte = token :=
    rdropWhile_append_right (fun c hc => by rw [List.mem_singleton.mp hc]; rfl)
      fun c hc => tokenByte_not_padding (H.bytes c hc)
  have htake := take_trimmedLength (Nat.le_refl (embeddedText token).length)
  rw [List.take_length, htrimmed] at htake
  have hlength : trimmedLength (embeddedText token) (embeddedText token).length = token.length := by
    have hmost := trimmedLength_le (embeddedText token) (embeddedText token).length
    have hsize := congrArg List.length htake
    rw [List.length_take] at hsize
    omega
  have hbytes : (List.range token.length).all
      (fun index => tokenByte ((embeddedText token).getD index 0)) = true := by
    refine List.all_eq_true.mpr fun i hi => ?_
    have hlt := List.mem_range.mp hi
    rw [embeddedText, List.getD_append _ _ _ _ hlt, List.getD_eq_getElem _ _ hlt]
    exact H.bytes _ (List.getElem_mem hlt)
  rw [hlength] at htake
  unfold otaCopyEmbeddedToken
  dsimp only
  rw [hlength, if_neg (by omega), if_neg (not_not_intro hbytes), htake, if_pos H.valid]

/-- The client reads what the device holds. -/
theorem Token.read (H : Token token) (h : trimmed (embeddedText file) = token) (hnul : 0 ∉ file) :
    readToken file = some token := by
  -- the file is the token and padding, which is white space
  obtain ⟨padding, hfile, hpadding⟩ :
      ∃ padding, file = token ++ padding ∧ ∀ c ∈ padding, paddingByte c = true := by
    have hnone : trimmed (embeddedText file) = file.rdropWhile paddingByte :=
      List.rdropWhile_concat_pos _ _ _ rfl
    refine ⟨file.rtakeWhile paddingByte, ?_, fun c hc => List.mem_rtakeWhile_imp hc⟩
    rw [← h, hnone, List.rdropWhile_append_rtakeWhile]
  have hspace (c : UInt8) (hc : c ∈ padding) : pythonSpace c = true ∧ c < 0x80 := by
    refine paddingByte_space (hpadding c hc) fun hzero => hnul ?_
    rw [hfile, ← hzero]
    exact List.mem_append_right _ hc
  have hascii : file.any (0x80 ≤ ·) = false := by
    refine List.any_eq_false.mpr fun c hc => ?_
    rw [decide_eq_true_eq, UInt8.not_le]
    rw [hfile] at hc
    exact (List.mem_append.mp hc).elim (fun hc => tokenByte_ascii (H.bytes c hc)) fun hc => (hspace c hc).2
  have hstrip : strip file = token := by
    have hstart : file.dropWhile pythonSpace = file := by
      cases htoken : token with
      | nil =>
        have := H.length_ge
        rw [htoken] at this
        cases this
      | cons c rest =>
        have hc : pythonSpace c = false := tokenByte_not_space (H.bytes c (by rw [htoken]; exact List.mem_cons_self))
        rw [hfile, htoken]
        exact List.dropWhile_cons_of_neg (by rw [hc]; exact Bool.false_ne_true)
    rw [strip, hstart, hfile]
    exact rdropWhile_append_right (fun c hc => (hspace c hc).1) fun c hc => tokenByte_not_space (H.bytes c hc)
  unfold readToken
  rw [hascii, if_neg Bool.false_ne_true]
  dsimp only
  rw [hstrip, if_pos (validToken_iff.mpr H)]

/-! ## The files -/

/-- Files that pass the checks before the build are the tokens the device starts with. Whatever files it starts
with, a client that sends one of its tokens has the role of that token, and a file without a NUL is read by the
client as the token of the device. -/
theorem credentials_agree (admin viewer : ByteString) :
    (validateTokens admin (some viewer) = true →
      startTokens (embeddedText admin) (embeddedText viewer) = some (admin, viewer)) ∧
    ∀ adminToken viewerToken,
      startTokens (embeddedText admin) (embeddedText viewer) = some (adminToken, viewerToken) →
      otaAuthorizationRole (some (bearer adminToken)) (bearer adminToken).length adminToken viewerToken = .admin ∧
        otaAuthorizationRole (some (bearer viewerToken)) (bearer viewerToken).length adminToken viewerToken =
          .viewer ∧
        (0 ∉ admin → readToken admin = some adminToken) ∧ (0 ∉ viewer → readToken viewer = some viewerToken) := by
  refine ⟨fun hvalid => ?_, fun adminToken viewerToken hstart => ?_⟩
  · unfold validateTokens at hvalid
    rw [Bool.and_eq_true, Bool.and_eq_true, validToken_iff, validToken_iff, bne_iff_ne] at hvalid
    obtain ⟨⟨hadmin, hviewer⟩, hdistinct⟩ := hvalid
    have hroles : otaRoleTokensValid admin viewer = true := by
      have hdiffer : sameString admin viewer = false :=
        Bool.eq_false_iff.mpr fun h => hdistinct ((hadmin.sameString_iff hviewer).mp h)
      rw [otaRoleTokensValid, hadmin.valid, hviewer.valid, hdiffer]
      rfl
    unfold startTokens
    rw [hadmin.copied, hviewer.copied]
    show (if otaRoleTokensValid admin viewer = true then some (admin, viewer) else none) = _
    rw [if_pos hroles]
  · have S := startTokens_eq_some hstart
    have hadminRole := S.role_eq (some (bearer adminToken))
    have hviewerRole := S.role_eq (some (bearer viewerToken))
    rw [if_neg (Option.some_ne_none _), if_pos rfl] at hadminRole
    rw [if_neg (Option.some_ne_none _), if_neg fun h => S.bearers_distinct (Option.some.inj h).symm, if_pos rfl]
      at hviewerRole
    exact ⟨hadminRole, hviewerRole, S.admin.read S.admin_eq.symm, S.viewer.read S.viewer_eq.symm⟩

def sampleAdmin : ByteString := List.replicate 32 0x41

def sampleViewer : ByteString := List.replicate 40 0x62

/-- A pair of tokens, and their files with a line break. -/
theorem credentials_agree_lines :
    startTokens (embeddedText sampleAdmin) (embeddedText sampleViewer) = some (sampleAdmin, sampleViewer) ∧
    otaAuthorizationRole (some (bearer sampleAdmin)) (bearer sampleAdmin).length sampleAdmin sampleViewer = .admin ∧
    otaAuthorizationRole (some (bearer sampleViewer)) (bearer sampleViewer).length sampleAdmin sampleViewer = .viewer ∧
    readToken (sampleAdmin ++ [0x0A]) = some sampleAdmin ∧
    readToken (sampleViewer ++ [0x0D, 0x0A]) = some sampleViewer := by
  have hembedded := (credentials_agree sampleAdmin sampleViewer).1 (by decide +kernel)
  obtain ⟨hadmin, hviewer, hreadAdmin, hreadViewer⟩ :=
    (credentials_agree (sampleAdmin ++ [0x0A]) (sampleViewer ++ [0x0D, 0x0A])).2 sampleAdmin sampleViewer
      (by decide +kernel)
  exact ⟨hembedded, hadmin, hviewer, hreadAdmin (by decide +kernel), hreadViewer (by decide +kernel)⟩

end ModbusGateway
