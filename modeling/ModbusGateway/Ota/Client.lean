import ModbusGateway.Ota.Device

/-!
# The update client

`_upload` and `_wait_for_deployment`, `_reboot` and `_wait_for_reboot` of `ota_client.py`, with a device. Requests and
replies may be lost, the device may lose power and other clients may use it; a poll that gets no answer is
no step. A field of the status that is not of its type counts as missing there, which no device sends.
-/

namespace ModbusGateway

/-- `FirmwareMetadata`, as far as `_upload` reads it; `signingKeySha256` is `none` for an unsigned image. -/
structure FirmwareMetadata where
  image : ByteString
  imageSha256 : ByteString
  project : ByteString
  version : ByteString
  signingKeySha256 : Option ByteString

/-- The arguments of the command. -/
structure UploadArgs where
  project : ByteString
  noWait : Bool
  allowSameImage : Bool

/-- Why the client gives up. -/
inductive ClientFailure where
  | unreachable
  | fileProject
  | signingKey
  | deviceProject
  | deviceState
  | sameImage
  | acceptanceRecord
  | acceptedHash
  | runningPartition
  | deployedProject
  | deployedVersion
  | deployedPolicy
  | unexpectedPartition
  | differentImage
  | unexpectedBootCount
  | differentPartition
  | timeout
  deriving DecidableEq

/-- What the command ends with: 0 for a verified update, 0 without waiting, 1 or 2. -/
inductive Verdict where
  | verified
  | accepted
  | refused
  | failed (failure : ClientFailure)
  deriving DecidableEq

/-- The checks of `_upload` before it sends the image. -/
def checkBefore (m : FirmwareMetadata) (args : UploadArgs) (before : StatusReport) :
    Option ClientFailure :=
  if before.softwareSignatureVerification ∧ m.signingKeySha256 ≠ some before.signingKeySha256 then
    some .signingKey
  else if before.project ≠ m.project then some .deviceProject
  else if before.state ≠ "valid" then some .deviceState
  else if before.imageSha256 = m.imageSha256 ∧ ¬ args.allowSameImage then some .sameImage
  else none

/-- The reply that a request got. -/
def replyOf (events : List OtaEvent) : Option HttpReply :=
  events.findSome? fun
    | .reply reply => some reply
    | _ => none

/-- The checks of `_upload` on the reply: the partition that was accepted. -/
def checkAccepted (m : FirmwareMetadata) (before : StatusReport) (reply : HttpReply) :
    Except Verdict CString :=
  match reply with
  | .uploadAccepted version partition imageHash =>
    if descriptionText version ≠ m.version ∨
        (partition ≠ "ota_0".toList ∧ partition ≠ "ota_1".toList) then
      .error (.failed .acceptanceRecord)
    else if imageHash ≠ m.imageSha256 then .error (.failed .acceptedHash)
    else if partition = before.partition then .error (.failed .runningPartition)
    else .ok partition
  | .rebootAccepted _ _ => .error (.failed .acceptanceRecord)
  | .denied _ => .error .refused
  | .outOfMemory => .error .refused

/-- What a poll comes to: an end, or why it goes on. -/
inductive PollResult where
  | done (verdict : Verdict)
  | notRebooted
  | notValid
  deriving DecidableEq

/-- One turn of the loop of `_wait_for_deployment` that got a status. -/
def pollDeployment (m : FirmwareMetadata) (before : StatusReport) (expected : Option CString)
    (status : StatusReport) : PollResult :=
  let rebooted := before.bootCount < status.bootCount ∨ status.partition ≠ before.partition
  if rebooted ∧ status.imageSha256 = m.imageSha256 ∧ status.state = "valid" then
    if status.project ≠ m.project then .done (.failed .deployedProject)
    else if status.version ≠ m.version then .done (.failed .deployedVersion)
    else if m.signingKeySha256.isSome ∧
        (¬ status.softwareSignatureVerification ∨ some status.signingKeySha256 ≠ m.signingKeySha256) then
      .done (.failed .deployedPolicy)
    else if expected.isSome ∧ some status.partition ≠ expected then
      .done (.failed .unexpectedPartition)
    else .done .verified
  else if rebooted ∧ status.imageSha256 = m.imageSha256 then .notValid
  else if rebooted then .done (.failed .differentImage)
  else .notRebooted

/-- One turn of the loop of `_wait_for_reboot` that got a status. -/
def pollReboot (before status : StatusReport) : PollResult :=
  if status.bootCount = before.bootCount then .notRebooted
  else if status.bootCount ≠ before.bootCount + 1 then .done (.failed .unexpectedBootCount)
  else if status.imageSha256 ≠ before.imageSha256 then .done (.failed .differentImage)
  else if status.partition ≠ before.partition then .done (.failed .differentPartition)
  else if status.state ≠ "valid" then .notValid
  else .done .verified

/-- The check of `_reboot` on a reply that accepts. -/
def rebootAcceptance (before : StatusReport) : HttpReply → Option Verdict
  | .rebootAccepted bootCount imageHash =>
    if bootCount ≠ before.bootCount ∨ imageHash ≠ before.imageSha256 then
      some (.failed .acceptanceRecord)
    else none
  | .uploadAccepted _ _ _ => some (.failed .acceptanceRecord)
  | .denied _ => some .refused
  | .outOfMemory => some .refused

/-! ## With a device -/

/-- A status and the boot in which it was read, which the client does not know. -/
structure Fetched where
  report : StatusReport
  session : Nat

/-- Where the client stands: the update, and the reboot. -/
inductive ClientPc where
  | idle
  | checked (before : Fetched)
  | waiting (before : Fetched) (expected : Option CString)
  | rebootChecked (before : Fetched)
  | rebootWaiting (before : Fetched)
  | finished (verdict : Verdict)

structure Deployment where
  device : Device
  client : ClientPc

inductive DeploymentLabel where
  | device (l : DeviceLabel)
  | fetch
  | post (reply : HttpReply)
  | lost
  | poll (result : PollResult)
  | timeout

/-- After a poll of the update or of the reboot. -/
def PollResult.after (result : PollResult) (waiting : ClientPc) : ClientPc :=
  match result with
  | .done verdict => .finished verdict
  | .notRebooted => waiting
  | .notValid => waiting

/-- After the reply to an upload. -/
def afterUpload (m : FirmwareMetadata) (args : UploadArgs) (before : Fetched) (reply : HttpReply) :
    ClientPc :=
  match checkAccepted m before.report reply with
  | .error verdict => .finished verdict
  | .ok partition => if args.noWait then .finished .accepted else .waiting before (some partition)

/-- After the reply to a request to reboot. -/
def afterReboot (before : Fetched) (reply : HttpReply) : ClientPc :=
  match rebootAcceptance before.report reply with
  | some verdict => .finished verdict
  | none => .rebootWaiting before

/-- The steps of a device and a client. The device may do anything between two steps of the client; where a
request or its reply is lost, what the device did with it is among its own steps. -/
inductive DeploymentStep (reader : ImageReader) (m : FirmwareMetadata) (args : UploadArgs) :
    Deployment → DeploymentLabel → Deployment → Prop
  | device : DeviceStep reader d l d' → DeploymentStep reader m args ⟨d, client⟩ (.device l) ⟨d', client⟩
  | fetch : m.project = args.project → d.server = some server →
    checkBefore m args (statusGet reader d server) = none →
    DeploymentStep reader m args ⟨d, .idle⟩ .fetch ⟨d, .checked ⟨statusGet reader d server, d.session⟩⟩
  | unfit : m.project = args.project → d.server = some server →
    checkBefore m args (statusGet reader d server) = some why →
    DeploymentStep reader m args ⟨d, .idle⟩ .fetch ⟨d, .finished (.failed why)⟩
  | foreign : m.project ≠ args.project →
    DeploymentStep reader m args ⟨d, .idle⟩ .fetch ⟨d, .finished (.failed .fileProject)⟩
  | unreachable : DeploymentStep reader m args ⟨d, .idle⟩ .fetch ⟨d, .finished (.failed .unreachable)⟩
  | post (calls : UploadCalls) (left : ByteString) : d.server = some server → AboutFlash reader d calls →
    calls.sent = m.image → replyOf (uploadDevice d server calls left).2 = some reply →
    DeploymentStep reader m args ⟨d, .checked before⟩ (.post reply)
      ⟨(uploadDevice d server calls left).1, afterUpload m args before reply⟩
  | lost : DeploymentStep reader m args ⟨d, .checked before⟩ .lost
      ⟨d, if args.noWait then .finished (.failed .unreachable) else .waiting before none⟩
  | poll : d.server = some server →
    pollDeployment m before.report expected (statusGet reader d server) = result →
    DeploymentStep reader m args ⟨d, .waiting before expected⟩ (.poll result)
      ⟨d, result.after (.waiting before expected)⟩
  | timeout : DeploymentStep reader m args ⟨d, .waiting before expected⟩ .timeout
      ⟨d, .finished (.failed .timeout)⟩
  | fetchReboot : d.server = some server →
    DeploymentStep reader m args ⟨d, .idle⟩ .fetch
      ⟨d, .rebootChecked ⟨statusGet reader d server, d.session⟩⟩
  | postReboot (calls : AuthCalls) : d.server = some server →
    replyOf (rebootPost calls 0 server.toOtaState).2 = some reply →
    DeploymentStep reader m args ⟨d, .rebootChecked before⟩ (.post reply)
      ⟨{ d with server := some { server with toOtaState := (rebootPost calls 0 server.toOtaState).1 } },
        afterReboot before reply⟩
  | lostReboot : DeploymentStep reader m args ⟨d, .rebootChecked before⟩ .lost ⟨d, .rebootWaiting before⟩
  | pollReboot : d.server = some server → pollReboot before.report (statusGet reader d server) = result →
    DeploymentStep reader m args ⟨d, .rebootWaiting before⟩ (.poll result)
      ⟨d, result.after (.rebootWaiting before)⟩
  | timeoutReboot : DeploymentStep reader m args ⟨d, .rebootWaiting before⟩ .timeout
      ⟨d, .finished (.failed .timeout)⟩

/-- A client starts with a device that has just come up, with any flash and any count. -/
def deploymentSystem (reader : ImageReader) (m : FirmwareMetadata) (args : UploadArgs) :
    StepSystem Deployment DeploymentLabel where
  init s := s.client = .idle ∧ s.device.started = false ∧ s.device.server = none
  step := DeploymentStep reader m args

end ModbusGateway
