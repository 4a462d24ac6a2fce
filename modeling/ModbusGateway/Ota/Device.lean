import ModbusGateway.Ota.Validation

/-!
# The device that is updated

The rest of `gateway_ota.c`: `cache_identity`, `gateway_ota_start` and `status_get`, and the device from boot to
boot with its two slots. The bootloader is not part of the repository: a boot may run either slot and
leave any states. What the SDK reads out of an image is a parameter.
-/

namespace ModbusGateway

/-- The application slots. -/
inductive OtaSlot where
  | ota0
  | ota1
  deriving DecidableEq

/-- The partition of a slot, as in `partitions.ota.csv`. -/
def OtaSlot.partition : OtaSlot → Partition
  | .ota0 =>
    { flashChip := some 0
      type := ESP_PARTITION_TYPE_APP
      subtype := ESP_PARTITION_SUBTYPE_APP_OTA_0
      address := 0x20000
      size := 0x400000
      label := "ota_0".toList
      readonly := false
      encrypted := false }
  | .ota1 =>
    { flashChip := some 0
      type := ESP_PARTITION_TYPE_APP
      subtype := ESP_PARTITION_SUBTYPE_APP_OTA_1
      address := 0x420000
      size := 0x400000
      label := "ota_1".toList
      readonly := false
      encrypted := false }

/-- What the SDK finds in an image: its SHA-256, its description and the digest of its signing key. -/
structure ImageReader where
  sha256 : ByteString → ByteString
  describe : ByteString → AppDescription
  signer : ByteString → ByteString

/-- The statics that `gateway_ota_start` leaves. -/
structure OtaServer extends OtaState where
  signingHash : ByteString

/-- The flash, the NVS entry `boots`, what the boot has selected, and the server once it is ready. `session`
counts the boots. -/
structure Device where
  contents : OtaSlot → ByteString
  states : OtaSlot → OtaImageState
  boots : Option UInt32
  running : OtaSlot
  started : Bool := false
  server : Option OtaServer := none
  session : Nat := 0

/-- What the calls of `cache_identity` return; `nvsGet` is an error other than that there is no entry, and
`kept` says that a value whose `nvs_set_u32` or `nvs_commit` failed is found at the next boot all the same. -/
structure IdentityCalls where
  digest : EspErr
  keys : EspErr
  numDigests : Nat
  nvsOpen : EspErr
  nvsGet : EspErr
  nvsSet : EspErr
  nvsCommit : EspErr
  kept : Bool

/-- `cache_identity`: the entry afterwards, and the two hashes and the count. -/
def cacheIdentity (reader : ImageReader) (d : Device) (calls : IdentityCalls) :
    Option UInt32 × Except EspErr (ByteString × ByteString × UInt32) :=
  let image := d.contents d.running
  if calls.digest ≠ ESP_OK then (d.boots, .error calls.digest)
  else if calls.keys ≠ ESP_OK then (d.boots, .error calls.keys)
  else if calls.numDigests ≠ 1 then (d.boots, .error ESP_ERR_INVALID_STATE)
  else if calls.nvsOpen ≠ ESP_OK then (d.boots, .error calls.nvsOpen)
  else if calls.nvsGet ≠ ESP_OK then (d.boots, .error calls.nvsGet)
  else
    let previous := d.boots.getD 0
    let result := if calls.nvsSet = ESP_OK then calls.nvsCommit else calls.nvsSet
    if result ≠ ESP_OK then (if calls.kept then some (previous + 1) else d.boots, .error result)
    else (some (previous + 1),
      .ok (hexDigest (reader.sha256 image), hexDigest (reader.signer image), previous + 1))

/-- What the calls of `gateway_ota_start` return, and the embedded tokens. `register` is for the three
handlers, `web` for `register_web`. -/
structure StartCalls where
  admin : ByteString
  viewer : ByteString
  tls : EspErr
  identity : IdentityCalls
  sslStart : EspErr
  register : List EspErr
  web : EspErr

/-- The loop over the handlers, and `register_web` after it. -/
def registerHandlers : List EspErr → EspErr → EspErr
  | [], web => web
  | result :: results, web => if result ≠ ESP_OK then result else registerHandlers results web

/-- `gateway_ota_start`. -/
def gatewayOtaStart (reader : ImageReader) (d : Device) (calls : StartCalls) : Device × EspErr :=
  if d.server.isSome then (d, ESP_OK)
  else
    match startTokens calls.admin calls.viewer with
    | none => (d, ESP_ERR_INVALID_ARG)
    | some (adminToken, viewerToken) =>
      if calls.tls ≠ ESP_OK then (d, calls.tls)
      else
        let identity := cacheIdentity reader d calls.identity
        let d := { d with boots := identity.1 }
        match identity.2 with
        | .error result => (d, result)
        | .ok (imageHash, signingHash, bootCount) =>
          let result :=
            if calls.sslStart ≠ ESP_OK then calls.sslStart
            else registerHandlers (calls.register.take 3) calls.web
          if result ≠ ESP_OK then (d, result)
          else
            ({ d with
                server := some
                  { adminToken, viewerToken, imageHash, signingHash, bootCount
                    uploadBusy := false
                    restartPending := false } },
              ESP_OK)

/-! ## Status -/

/-- `state_name`. -/
def stateName : OtaImageState → String
  | .new => "new"
  | .pendingVerify => "pending_verify"
  | .valid => "valid"
  | .invalid => "invalid"
  | .aborted => "aborted"
  | .undefined => "undefined"

/-- The string of an array of the description. -/
def descriptionText (field : ByteString) : ByteString := field.take (strlen field)

/-- What a client reads of the reply of `status_get`. -/
structure StatusReport where
  project : ByteString
  version : ByteString
  partition : CString
  state : String
  imageSha256 : ByteString
  softwareSignatureVerification : Bool
  signingKeySha256 : ByteString
  bootCount : UInt32
  deriving DecidableEq

/-- `status_get` for a request that may read. -/
def statusGet (reader : ImageReader) (d : Device) (server : OtaServer) : StatusReport :=
  let app := reader.describe (d.contents d.running)
  { project := descriptionText app.projectName
    version := descriptionText app.version
    partition := d.running.partition.label
    state := stateName (d.states d.running)
    imageSha256 := server.imageHash
    softwareSignatureVerification := true
    signingKeySha256 := server.signingHash
    bootCount := server.bootCount }

/-! ## From boot to boot -/

/-- What the client sends. -/
def UploadCalls.sent (calls : UploadCalls) : ByteString := (List.range calls.contentLen).map calls.body

/-- The answers of the platform to an upload are about this flash: `esp_ota_get_running_partition`,
`esp_ota_get_state_partition`, `esp_app_get_description`, `esp_ota_get_next_update_partition`,
`esp_ota_get_partition_description` and `esp_partition_get_sha256`. The slot to update may be any. -/
structure AboutFlash (reader : ImageReader) (d : Device) (calls : UploadCalls) : Prop where
  running : calls.running = some d.running.partition
  state : calls.state.1 = ESP_OK → calls.state.2 = d.states d.running
  app : ∀ a, calls.runningApp = some a → a = reader.describe (d.contents d.running)
  target : ∀ p, calls.target = some p → ∃ slot : OtaSlot, p = slot.partition
  description : calls.description.1 = ESP_OK → calls.description.2 = reader.describe calls.sent
  digest : calls.digest.1 = ESP_OK → calls.digest.2 = reader.sha256 calls.sent

/-- A successful `esp_ota_begin`, `esp_ota_end` and `esp_ota_set_boot_partition`. -/
def OtaEvent.begins : OtaEvent → Bool
  | .begin result => result = ESP_OK
  | _ => false

def OtaEvent.completes : OtaEvent → Bool
  | .ended result => result = ESP_OK
  | _ => false

def OtaEvent.selects : OtaEvent → Bool
  | .select result => result = ESP_OK
  | _ => false

/-- The flash after an upload: the slot has what was sent once `esp_ota_end` accepts it, and anything
where the write stopped before; a selected slot is new. -/
def uploadFlash (d : Device) (calls : UploadCalls) (left : ByteString) (events : List OtaEvent) : Device :=
  { d with
    contents := fun slot =>
      if calls.target ≠ some slot.partition then d.contents slot
      else if events.any OtaEvent.completes then calls.sent
      else if events.any OtaEvent.begins then left
      else d.contents slot
    states := fun slot =>
      if calls.target = some slot.partition ∧ events.any OtaEvent.selects then .new else d.states slot }

/-- `upload_post` on a device. -/
def uploadDevice (d : Device) (server : OtaServer) (calls : UploadCalls) (left : ByteString) :
    Device × List OtaEvent :=
  let r := uploadPost calls server.toOtaState
  ({ uploadFlash d calls left r.2 with server := some { server with toOtaState := r.1 } }, r.2)

/-- What happens to a device. -/
inductive DeviceLabel where
  | boot (slot : OtaSlot)
  | start (result : EspErr)
  | upload (events : List OtaEvent)
  | cut
  | reboot (events : List OtaEvent)
  | valid

/-- The steps of a device: the chip boots into either slot, `gateway_ota_start` is called once in a boot, the
server handles an upload or a request to reboot, a reset cuts an upload short that was under way, and the
health gate marks a pending image. -/
inductive DeviceStep (reader : ImageReader) (d : Device) : DeviceLabel → Device → Prop
  | boot (slot : OtaSlot) (states : OtaSlot → OtaImageState) :
    DeviceStep reader d (.boot slot)
      { d with
        states := states
        running := slot
        started := false
        server := none
        session := d.session + 1 }
  | start (calls : StartCalls) : d.started = false →
    DeviceStep reader d (.start (gatewayOtaStart reader d calls).2)
      { (gatewayOtaStart reader d calls).1 with started := true }
  | upload (server : OtaServer) (calls : UploadCalls) (left : ByteString) : d.server = some server →
    AboutFlash reader d calls →
    DeviceStep reader d (.upload (uploadDevice d server calls left).2) (uploadDevice d server calls left).1
  | cut (server : OtaServer) (calls : UploadCalls) (left : ByteString) (slot : OtaSlot)
      (states : OtaSlot → OtaImageState) : d.server = some server → AboutFlash reader d calls →
    (uploadPost calls server.toOtaState).2.any OtaEvent.begins →
    DeviceStep reader d .cut
      { d with
        contents := fun slot => if calls.target = some slot.partition then left else d.contents slot
        states := states
        running := slot
        started := false
        server := none
        session := d.session + 1 }
  | reboot (server : OtaServer) (calls : AuthCalls) (contentLen : Nat) : d.server = some server →
    DeviceStep reader d (.reboot (rebootPost calls contentLen server.toOtaState).2)
      { d with server := some { server with toOtaState := (rebootPost calls contentLen server.toOtaState).1 } }
  | valid : d.states d.running = .pendingVerify →
    DeviceStep reader d .valid
      { d with states := fun slot => if slot = d.running then .valid else d.states slot }

end ModbusGateway
