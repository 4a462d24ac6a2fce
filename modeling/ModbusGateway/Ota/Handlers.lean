import ModbusGateway.Ota.Auth
import ModbusGateway.Storage.Prepare

/-!
# The management handlers

Authorization, upload and reboot in `gateway_ota.c`. What the platform answers is given in advance; the
calls that matter to the flash, the heap and the client are listed in the order they are made.
-/

namespace ModbusGateway

def RECEIVE_BYTES : Nat := 4096
def RECEIVE_DEADLINE_US : Int := 5 * 60 * 1000000
def IMAGE_MIN_BYTES : Nat := 288
def IMAGE_MAX_BYTES : Nat := 0x400000

def HTTPD_SOCK_ERR_TIMEOUT : Int := -3
def ESP_ERR_OTA_VALIDATE_FAILED : EspErr := 0x1503

/-- `esp_ota_img_states_t`. -/
inductive OtaImageState where
  | new
  | pendingVerify
  | valid
  | invalid
  | aborted
  | undefined
  deriving DecidableEq, Repr

/-- `esp_app_desc_t`; the two arrays have 32 bytes. -/
structure AppDescription where
  secureVersion : UInt32
  version : ByteString
  projectName : ByteString

def DESCRIPTION_BYTES : Nat := 32

/-- The statics of `gateway_ota.c` that the handlers use. -/
structure OtaState where
  adminToken : ByteString
  viewerToken : ByteString
  uploadBusy : Bool
  restartPending : Bool
  imageHash : ByteString
  bootCount : UInt32

/-- A refusal; `challenge` sets `WWW-Authenticate`. -/
structure Denial where
  status : String
  message : String
  challenge : Bool := false

inductive HttpReply where
  | denied (denial : Denial)
  | uploadAccepted (version : ByteString) (partition : CString) (imageHash : ByteString)
  | rebootAccepted (bootCount : UInt32) (imageHash : ByteString)
  | outOfMemory

/-- The calls of a request with an effect, with their results. -/
inductive OtaEvent where
  | claim (previous : Bool)
  | alloc
  | free
  | begin (result : EspErr)
  | recv (received : Int)
  | write (data : ByteString) (result : EspErr)
  | ended (result : EspErr)
  | abort
  | select (result : EspErr)
  | reply (reply : HttpReply)
  | restart

/-- A header as the two calls report it: its length, and the copy into a buffer of some size. -/
structure HeaderCalls where
  length : Nat
  text : (size : Nat) → EspErr × ByteString

/-- What the calls of `gateway_ota_authorize_mutation` return, and whether a reply can be printed. -/
structure AuthCalls where
  authorization : HeaderCalls
  running : Option Partition
  state : EspErr × OtaImageState
  replyMemory : Bool

/-- `json_response`: the reply that is sent. -/
def AuthCalls.respond (calls : AuthCalls) (reply : HttpReply) : OtaEvent :=
  .reply (if calls.replyMemory then reply else .outOfMemory)

/-- `deny`. -/
def AuthCalls.deny (calls : AuthCalls) (denial : Denial) : OtaEvent :=
  calls.respond (.denied denial)

/-- `request_role`. -/
def requestRole (calls : AuthCalls) (s : OtaState) : OtaRole :=
  let length := calls.authorization.length
  if length = 0 then otaAuthorizationRole none 0 s.adminToken s.viewerToken
  else if length > OTA_AUTHORIZATION_MAX_LENGTH then .none
  else
    let header := calls.authorization.text (OTA_AUTHORIZATION_MAX_LENGTH + 1)
    if header.1 ≠ ESP_OK then .none
    else otaAuthorizationRole (some header.2) length s.adminToken s.viewerToken

/-- `gateway_ota_authorize_mutation`: `none` is `true`, otherwise it has sent the refusal. -/
def gatewayOtaAuthorizeMutation (calls : AuthCalls) (s : OtaState) : Option Denial :=
  match requestRole calls s with
  | .viewer => some ⟨"403 Forbidden", "Admin token required; viewer is read-only", false⟩
  | .none | .anonymous => some ⟨"401 Unauthorized", "Valid admin bearer token required", true⟩
  | .admin =>
    if s.uploadBusy ∨ s.restartPending then
      some ⟨"409 Conflict", "Firmware upload or restart already in progress", false⟩
    else if calls.running = none ∨ calls.state.1 ≠ ESP_OK then
      some ⟨"500 Internal Server Error", "Running OTA state unavailable", false⟩
    else if calls.state.2 ≠ .valid then
      some ⟨"409 Conflict", "Running firmware must finish health validation first", false⟩
    else none

/-! ## Upload -/

/-- What the calls of `upload_post` return. `body` is what the client sends, `received` and `clock` what
`httpd_req_recv` and `esp_timer_get_time` return call by call; `raced` says that another request takes
`upload_busy` first. -/
structure UploadCalls extends AuthCalls where
  runningApp : Option AppDescription
  projectHeader : HeaderCalls
  typeHeader : HeaderCalls
  target : Option Partition
  contentLen : Nat
  raced : Bool
  buffer : Bool
  begin : EspErr
  clock : Nat → Int
  received : Nat → Int
  body : Nat → UInt8
  write : Nat → EspErr
  ended : EspErr
  description : EspErr × AppDescription
  digest : EspErr × ByteString
  select : EspErr

/-- `tolower` of a byte. -/
def lowerByte (c : UInt8) : UInt8 := if 0x41 ≤ c ∧ c ≤ 0x5A then c + 0x20 else c

/-- `matches_header`. -/
def matchesHeader (header : HeaderCalls) (expected : ByteString) (caseSensitive : Bool) : Bool :=
  let length := header.length
  let value := header.text 64
  if length = 0 ∨ 64 ≤ length ∨ strlen expected ≠ length ∨ value.1 ≠ ESP_OK then false
  else if caseSensitive then sameString value.2 expected
  else sameString (value.2.map lowerByte) (expected.map lowerByte)

/-- `"application/octet-stream"`. -/
def OCTET_STREAM : ByteString :=
  "application/octet-stream".toList.map fun c => UInt8.ofNat c.toNat

/-- The checks of `upload_post` before it takes `upload_busy`. -/
def uploadChecks (calls : UploadCalls) (s : OtaState) :
    Except Denial (AppDescription × Partition) :=
  match gatewayOtaAuthorizeMutation calls.toAuthCalls s with
  | some denial => .error denial
  | none =>
    match calls.runningApp with
    | none => .error ⟨"400 Bad Request", "Missing or incorrect X-Firmware-Project header", false⟩
    | some app =>
      if ¬ matchesHeader calls.projectHeader app.projectName true then
        .error ⟨"400 Bad Request", "Missing or incorrect X-Firmware-Project header", false⟩
      else if ¬ matchesHeader calls.typeHeader OCTET_STREAM false then
        .error ⟨"415 Unsupported Media Type", "Content-Type must be application/octet-stream", false⟩
      else
        match calls.target with
        | none => .error ⟨"500 Internal Server Error", "No inactive OTA slot", false⟩
        | some target =>
          if some target = calls.running ∨ target.type ≠ ESP_PARTITION_TYPE_APP ∨
              (target.subtype ≠ ESP_PARTITION_SUBTYPE_APP_OTA_0 ∧
                target.subtype ≠ ESP_PARTITION_SUBTYPE_APP_OTA_1) then
            .error ⟨"500 Internal Server Error", "No inactive OTA slot", false⟩
          else if calls.contentLen < IMAGE_MIN_BYTES ∨ calls.contentLen > target.size.toNat ∨
              calls.contentLen > IMAGE_MAX_BYTES then
            let status :=
              if calls.contentLen > target.size.toNat ∨ calls.contentLen > IMAGE_MAX_BYTES then
                "413 Content Too Large"
              else "400 Bad Request"
            .error ⟨status, "Invalid firmware image size", false⟩
          else .ok (app, target)

/-- The receive loop, `turn` times around before: what it does, and why it gives up if it does. -/
def receiveLoop (calls : UploadCalls) (deadline : Int) (remaining timeouts turn : Nat) :
    List OtaEvent × Option Denial :=
  if remaining = 0 then ([], none)
  else if deadline ≤ calls.clock (turn + 1) then
    ([], some ⟨"408 Request Timeout", "Upload deadline exceeded", false⟩)
  else
    let wanted := min remaining RECEIVE_BYTES
    let received := calls.received turn
    if received = HTTPD_SOCK_ERR_TIMEOUT ∧ timeouts + 1 ≤ 5 then
      let rest := receiveLoop calls deadline remaining (timeouts + 1) (turn + 1)
      (.recv received :: rest.1, rest.2)
    else if hend : received ≤ 0 ∨ (wanted : Int) < received then
      ([.recv received], some ⟨"400 Bad Request", "Upload ended early", false⟩)
    else
      let data := (List.range received.toNat).map fun i =>
        calls.body (calls.contentLen - remaining + i)
      let result := calls.write turn
      if result ≠ ESP_OK then
        let status :=
          if result = ESP_ERR_OTA_VALIDATE_FAILED then "400 Bad Request"
          else "500 Internal Server Error"
        ([.recv received, .write data result],
          some ⟨status, "Firmware write or image validation failed", false⟩)
      else
        let rest := receiveLoop calls deadline (remaining - received.toNat) 0 (turn + 1)
        (.recv received :: .write data result :: rest.1, rest.2)
termination_by (remaining, 6 - timeouts)
decreasing_by all_goals omega

/-- One hexadecimal digit. -/
def hexByte (n : UInt8) : UInt8 := if n < 10 then 0x30 + n else 0x57 + n

/-- `hex_digest`. -/
def hexDigest (digest : ByteString) : ByteString :=
  digest.flatMap fun (c : UInt8) => [hexByte (c >>> 4), hexByte (c &&& 15)]

/-- The checks on the candidate after `esp_ota_end`: its digest. -/
def checkCandidate (calls : UploadCalls) (app : AppDescription) : Except Denial ByteString :=
  let candidate := calls.description.2
  if calls.description.1 ≠ ESP_OK ∨
      boundedLength DESCRIPTION_BYTES candidate.projectName = DESCRIPTION_BYTES ∨
      boundedLength DESCRIPTION_BYTES candidate.version = DESCRIPTION_BYTES ∨
      candidate.version.getD 0 0 = 0 then
    .error ⟨"400 Bad Request", "Invalid firmware descriptor", false⟩
  else if ¬ sameString candidate.projectName app.projectName then
    .error ⟨"400 Bad Request", "Firmware belongs to a different project", false⟩
  else if candidate.secureVersion < app.secureVersion then
    .error ⟨"400 Bad Request", "Firmware secure version is older", false⟩
  else if calls.digest.1 ≠ ESP_OK then
    .error ⟨"500 Internal Server Error", "Firmware image hash failed", false⟩
  else .ok (hexDigest calls.digest.2)

/-- The `fail` label. -/
def uploadFail (calls : UploadCalls) (s : OtaState) (begun buffer : Bool) (denial : Denial) :
    OtaState × List OtaEvent :=
  ({ s with uploadBusy := false },
    (if begun then [.abort] else []) ++ (if buffer then [.free] else []) ++ [calls.deny denial])

/-- The tail of `upload_post` from the complete image on, without the handle and the buffer. -/
def uploadFinish (calls : UploadCalls) (s : OtaState) (app : AppDescription) (target : Partition) :
    OtaState × List OtaEvent :=
  if calls.ended ≠ ESP_OK then
    uploadFail calls s false false
      ⟨"400 Bad Request", "Firmware hash, signature or compatibility validation failed", false⟩
  else
    match checkCandidate calls app with
    | .error denial => uploadFail calls s false false denial
    | .ok imageHash =>
      if calls.select ≠ ESP_OK then
        let r := uploadFail calls s false false
          ⟨"500 Internal Server Error", "Could not select candidate boot slot", false⟩
        (r.1, .select calls.select :: r.2)
      else
        ({ s with restartPending := true },
          [.select calls.select,
            calls.respond
              (.uploadAccepted calls.description.2.version target.label imageHash),
            .restart])

/-- `upload_post` once it owns `upload_busy`. -/
def uploadTransfer (calls : UploadCalls) (s : OtaState) (app : AppDescription)
    (target : Partition) : OtaState × List OtaEvent :=
  if ¬ calls.buffer then
    uploadFail calls s false false ⟨"500 Internal Server Error", "Out of memory", false⟩
  else if calls.begin ≠ ESP_OK then
    let r := uploadFail calls s false true
      ⟨"500 Internal Server Error", "Could not begin OTA write", false⟩
    (r.1, .alloc :: .begin calls.begin :: r.2)
  else
    let received :=
      receiveLoop calls (calls.clock 0 + RECEIVE_DEADLINE_US) calls.contentLen 0 0
    let r := match received.2 with
      | some denial => uploadFail calls s true true denial
      | none =>
        let r := uploadFinish calls s app target
        (r.1, .free :: .ended calls.ended :: r.2)
    (r.1, .alloc :: .begin calls.begin :: received.1 ++ r.2)

/-- `upload_post`: the state afterwards and what it has done. -/
def uploadPost (calls : UploadCalls) (s : OtaState) : OtaState × List OtaEvent :=
  match uploadChecks calls s with
  | .error denial => (s, [calls.deny denial])
  | .ok (app, target) =>
    let previous := s.uploadBusy || calls.raced
    let s := { s with uploadBusy := true }
    if previous then
      (s, [.claim true, calls.deny ⟨"409 Conflict", "Upload already in progress", false⟩])
    else
      let r := uploadTransfer calls s app target
      (r.1, .claim false :: r.2)

/-! ## Reboot -/

/-- `reboot_post`. -/
def rebootPost (calls : AuthCalls) (contentLen : Nat) (s : OtaState) : OtaState × List OtaEvent :=
  match gatewayOtaAuthorizeMutation calls s with
  | some denial => (s, [calls.deny denial])
  | none =>
    if contentLen ≠ 0 then
      (s, [calls.deny ⟨"400 Bad Request", "Reboot request body must be empty", false⟩])
    else
      ({ s with restartPending := true },
        [calls.respond (.rebootAccepted s.bootCount s.imageHash), .restart])

end ModbusGateway
