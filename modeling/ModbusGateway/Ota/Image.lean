import ModbusGateway.History.Blob
import ModbusGateway.Ota.Client
import ModbusGateway.Theory.Checks
import ModbusGateway.Theory.Sha256
import Mathlib.Data.Int.GCD
import Mathlib.Data.Nat.Size

/-!
# The image file

`_inspect_firmware` of `ota_client.py` and `verify_image_signature` of `firmware_signing.py`. The DER of the
pinned key and the verification of OpenSSL are parameters.
-/

namespace ModbusGateway

open Codec (leNat)
open Checks

/-- Why a file is refused. -/
inductive ImageError where
  | tooLarge
  | truncated
  | notAnImage
  | segmentCount
  | chip
  | flashSize
  | noHash
  | segmentHeader
  | segmentData
  | position
  | checksum
  | noDescriptor
  | descriptor
  | hash
  | unsigned
  | emptyField (name : String)
  | notAscii (name : String)
  | signatureSector
  | signaturePadding
  | signatureVersion
  | signatureCrc
  | signatureCount
  | signatureDigest
  | signatureKey
  | signatureParameters
  | publicKey
  | untrustedKey
  | signature
  deriving DecidableEq

/-- What OpenSSL is called for: `public_der` of the pinned key, `none` being an error, and whether it accepts a
signature under a key. -/
structure ImageTools where
  publicDer : Option ByteString
  verify : (der signature image : ByteString) → Bool

/-- `hashlib.sha256`. -/
def sha256 (bytes : ByteString) : ByteString := Sha256.hash bytes

/-- `zlib.crc32`. -/
def crc32 (bytes : ByteString) : Nat := (~~~ (bytes.foldl crcByte 0xffffffff)).toNat

/-- `image[start:stop]`. -/
def slice (image : ByteString) (start stop : Nat) : ByteString := (image.drop start).take (stop - start)

/-! ## The signature sector -/

def SECTOR_BYTES : Nat := 4096
def BLOCK_BYTES : Nat := 1216

/-- `int.to_bytes` of as many bytes as there are, big-endian. -/
def bigEndian (n : Nat) : ByteString := (Codec.leBytes ((n.size + 7) / 8) n).reverse

/-- `_der`. -/
def derBytes (tag : UInt8) (data : ByteString) : ByteString :=
  let encoded := if data.length = 0 then [0] else bigEndian data.length
  tag :: ((if data.length < 128 then [UInt8.ofNat data.length]
    else UInt8.ofNat (0x80 ||| encoded.length) :: encoded) ++ data)

/-- `integer` in `_rsa_public_der`. -/
def derInteger (value : Nat) : ByteString :=
  let encoded := bigEndian value
  derBytes 2 ((if encoded.getD 0 0 &&& 0x80 ≠ 0 then [0] else []) ++ encoded)

/-- `_rsa_public_der`. -/
def rsaPublicDer (modulus exponent : Nat) : ByteString :=
  let key := derBytes 0x30 (derInteger modulus ++ derInteger exponent)
  let algorithm : ByteString :=
    [0x30, 0x0D, 0x06, 0x09, 0x2A, 0x86, 0x48, 0x86, 0xF7, 0x0D, 0x01, 0x01, 0x01, 0x05, 0x00]
  derBytes 0x30 (algorithm ++ derBytes 3 (0 :: key))

/-- `pow(2, 6144, modulus)`. -/
def residue (modulus : Nat) : Nat := 2 ^ 6144 % modulus

/-- `(-pow(modulus, -1, 1 << 32)) % (1 << 32)`, for an odd modulus. -/
def negatedInverse (modulus : Nat) : Nat := (-Nat.gcdA modulus (2 ^ 32) % 2 ^ 32).toNat

/-- The key in the block of `verify_image_signature`: its modulus and its exponent. -/
def signatureKey (block : ByteString) : Except ImageError (Nat × Nat) := do
  let modulus := leNat 384 (block.drop 36)
  let exponent := leNat 4 (block.drop 420)
  reject (modulus.size ≠ 3072 ∨ modulus % 2 = 0 ∨ exponent ≠ 65537) .signatureKey
  reject (leNat 384 (block.drop 424) ≠ residue modulus ∨ leNat 4 (block.drop 808) ≠ negatedInverse modulus)
    .signatureParameters
  return (modulus, exponent)

/-- `verify_image_signature`: the digest of the key. -/
def verifyImageSignature (t : ImageTools) (image : ByteString) (unsignedEnd : Nat) :
    Except ImageError ByteString := do
  let offset := image.length - SECTOR_BYTES
  reject (offset = 0 ∨ offset % SECTOR_BYTES ≠ 0 ∨ offset < unsignedEnd) .signatureSector
  reject ((slice image unsignedEnd offset).any (· ≠ 0xFF)) .signaturePadding
  let block := slice image offset (offset + BLOCK_BYTES)
  reject (block.take 4 ≠ [0xE7, 0x02, 0, 0]) .signatureVersion
  reject (leNat 4 (block.drop 1196) ≠ crc32 (block.take 1196)) .signatureCrc
  reject (block.drop 1200 ≠ List.replicate 16 0 ∨
    image.drop (offset + BLOCK_BYTES) ≠ List.replicate (SECTOR_BYTES - BLOCK_BYTES) 0xFF) .signatureCount
  reject (sha256 (image.take offset) ≠ slice block 4 36) .signatureDigest
  let (modulus, exponent) ← signatureKey block
  let trusted ← require t.publicDer .publicKey
  reject (rsaPublicDer modulus exponent ≠ trusted) .untrustedKey
  reject (t.verify trusted (slice block 812 1196).reverse (image.take offset) = false) .signature
  return hexDigest (sha256 (slice block 36 812))

/-! ## The image -/

def ESP_IMAGE_HEADER_BYTES : Nat := 24
def ESP_SEGMENT_HEADER_BYTES : Nat := 8
def ESP_APP_DESC_BYTES : Nat := 256
def MAX_OTA_IMAGE_BYTES : Nat := 0x400000
def MAX_ESP_IMAGE_SEGMENTS : Nat := 16
def ESP32_P4_CHIP_ID : Nat := 18
def ESP_APP_DESC_MAGIC : Nat := 0xABCD5432
def SHA256_BYTES : Nat := 32

/-- The checks of `_inspect_firmware` before the segments. -/
def inspectHeader (image : ByteString) : Except ImageError Unit := do
  reject (MAX_OTA_IMAGE_BYTES < image.length) .tooLarge
  reject (image.length <
    ESP_IMAGE_HEADER_BYTES + ESP_SEGMENT_HEADER_BYTES + ESP_APP_DESC_BYTES + SHA256_BYTES) .truncated
  reject (image.getD 0 0 ≠ 0xE9) .notAnImage
  reject ((image.getD 1 0).toNat < 1 ∨ MAX_ESP_IMAGE_SEGMENTS < (image.getD 1 0).toNat) .segmentCount
  reject (leNat 2 (image.drop 12) ≠ ESP32_P4_CHIP_ID) .chip
  reject (image.getD 3 0 &&& 0xF0 ≠ 0x50) .flashSize
  reject (image.getD 23 0 ≠ 1) .noHash

/-- The variables of the loop over the segments. -/
structure SegmentScan where
  position : Nat
  checksum : UInt8
  descriptorOffset : Nat
  firstSegmentSize : Nat

/-- The loop over the segments, `left` more from segment `index` on. -/
def segmentLoop (image : ByteString) (digestOffset : Nat) :
    (left index : Nat) → SegmentScan → Except ImageError SegmentScan
  | 0, _, s => .ok s
  | left + 1, index, s => do
    reject (digestOffset < s.position + ESP_SEGMENT_HEADER_BYTES) .segmentHeader
    let size := leNat 4 (image.drop (s.position + 4))
    let data := s.position + ESP_SEGMENT_HEADER_BYTES
    reject (digestOffset < data + size) .segmentData
    segmentLoop image digestOffset left (index + 1)
      { position := data + size
        checksum := (slice image data (data + size)).foldl (· ^^^ ·) s.checksum
        descriptorOffset := if index = 0 then data else s.descriptorOffset
        firstSegmentSize := if index = 0 then size else s.firstSegmentSize }

/-- Where the checksum has to be. -/
def checksumOffset (position : Nat) : Nat := position + (15 - position % 16)

/-- The checks behind the segments: the end of the unsigned image. -/
def inspectDigest (image : ByteString) (scan : SegmentScan) : Except ImageError Nat := do
  let digestOffset := checksumOffset scan.position + 1
  reject (image.length < digestOffset + SHA256_BYTES) .position
  reject (image.getD (checksumOffset scan.position) 0 ≠ scan.checksum) .checksum
  reject (scan.firstSegmentSize < ESP_APP_DESC_BYTES) .noDescriptor
  reject (leNat 4 (image.drop scan.descriptorOffset) ≠ ESP_APP_DESC_MAGIC) .descriptor
  reject (slice image digestOffset (digestOffset + SHA256_BYTES) ≠ sha256 (image.take digestOffset)) .hash
  return digestOffset + SHA256_BYTES

/-- The signature, if there is more than the unsigned image. -/
def inspectSignature (t : ImageTools) (image : ByteString) (unsignedEnd : Nat) (requireSignature : Bool) :
    Except ImageError (Option ByteString) := do
  let signed := image.length ≠ unsignedEnd
  reject (requireSignature = true ∧ ¬ signed) .unsigned
  if signed then return some (← verifyImageSignature t image unsignedEnd) else return none

/-- `_decode_app_field`. -/
def decodeAppField (value : ByteString) (name : String) : Except ImageError ByteString := do
  let encoded := value.takeWhile (· ≠ 0)
  reject (encoded = []) (.emptyField name)
  reject (encoded.any (0x80 ≤ ·)) (.notAscii name)
  return encoded

/-- `_inspect_firmware` of the contents of the file. -/
def inspectFirmware (t : ImageTools) (image : ByteString) (requireSignature : Bool) :
    Except ImageError FirmwareMetadata := do
  inspectHeader image
  let scan ← segmentLoop image (image.length - SHA256_BYTES) (image.getD 1 0).toNat 0
    { position := ESP_IMAGE_HEADER_BYTES
      checksum := 0xEF
      descriptorOffset := 0
      firstSegmentSize := 0 }
  let unsignedEnd ← inspectDigest image scan
  let key ← inspectSignature t image unsignedEnd requireSignature
  let offset := scan.descriptorOffset
  let version ← decodeAppField (slice image (offset + 16) (offset + 48)) "version"
  let project ← decodeAppField (slice image (offset + 48) (offset + 80)) "project"
  return {
    image
    imageSha256 := hexDigest (slice image (unsignedEnd - SHA256_BYTES) unsignedEnd)
    project
    version
    signingKeySha256 := key }

end ModbusGateway
