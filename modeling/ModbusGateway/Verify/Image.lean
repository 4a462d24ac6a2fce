import ModbusGateway.Ota.Image
import Mathlib.Tactic.LinearCombination

/-!
# Firmware files

What `_inspect_firmware` accepts, as a format: an image laid out piece by piece, alone or padded up to a sector
that holds its signature. The checks of the source read these pieces back.
-/

namespace ModbusGateway

open Codec (leNat leBytes)
open Checks

variable {image : ByteString}

/-! ## The format -/

/-- A segment: the address it is loaded to, its length and its data. -/
structure Segment where
  address : ByteString
  data : ByteString
  length_address : address.length = 4
  length_data : data.length < 256 ^ 4

def Segment.bytes (segment : Segment) : ByteString :=
  segment.address ++ (leBytes 4 segment.data.length ++ segment.data)

/-- An application image for this board: a header, the segments, filler up to the last byte of a block of 16,
the checksum there, and the digest. -/
structure EspImage where
  header : ByteString
  first : Segment
  others : List Segment
  filler : ByteString
  length_header : header.length = ESP_IMAGE_HEADER_BYTES
  magic : header.getD 0 0 = 0xE9
  count : (header.getD 1 0).toNat = others.length + 1
  count_le : others.length + 1 ≤ MAX_ESP_IMAGE_SEGMENTS
  chip : leNat 2 (header.drop 12) = ESP32_P4_CHIP_ID
  flashSize : header.getD 3 0 &&& 0xF0 = 0x50
  hashed : header.getD 23 0 = 1
  length_descriptor : ESP_APP_DESC_BYTES ≤ first.data.length
  descriptor : leNat 4 first.data = ESP_APP_DESC_MAGIC
  length_filler : filler.length =
    15 - (ESP_IMAGE_HEADER_BYTES + ((first :: others).flatMap Segment.bytes).length) % 16

namespace EspImage

def segments (e : EspImage) : List Segment := e.first :: e.others

/-- The exclusive or of the data of all segments, from `ESP_IMAGE_CHECKSUM_MAGIC` on. -/
def checksum (e : EspImage) : UInt8 :=
  e.segments.foldl (fun checksum segment => segment.data.foldl (· ^^^ ·) checksum) 0xEF

/-- What the digest is about. -/
def body (e : EspImage) : ByteString :=
  e.header ++ (e.segments.flatMap Segment.bytes ++ (e.filler ++ [e.checksum]))

def bytes (e : EspImage) : ByteString := e.body ++ sha256 e.body

end EspImage

theorem length_sha256 (bytes : ByteString) : (sha256 bytes).length = 32 := Sha256.length_hash bytes

theorem crc32_lt (bytes : ByteString) : crc32 bytes < 256 ^ 4 := UInt32.toNat_lt _

/-! ## Pieces of a list -/

theorem length_slice (h : stop ≤ image.length) : (slice image start stop).length = stop - start := by
  rw [slice, List.length_take, List.length_drop]
  omega

theorem drop_eq_slice (h : start ≤ stop) : image.drop start = slice image start stop ++ image.drop stop := by
  have hstop : image.drop stop = (image.drop start).drop (stop - start) := by
    rw [List.drop_drop, Nat.add_sub_cancel' h]
  rw [slice, hstop, List.take_append_drop]

theorem slice_eq_of_drop (h : image.drop start = piece ++ rest) :
    slice image start (start + piece.length) = piece := by
  rw [slice, h, Nat.add_sub_cancel_left, List.take_left]

theorem drop_of_drop (h : image.drop start = piece ++ rest) : image.drop (start + piece.length) = rest := by
  rw [← List.drop_drop, h, List.drop_left]

/-! ## The segments -/

theorem Segment.length_bytes (segment : Segment) :
    segment.bytes.length = ESP_SEGMENT_HEADER_BYTES + segment.data.length := by
  rw [Segment.bytes, List.length_append, List.length_append, Codec.length_leBytes, segment.length_address]
  unfold ESP_SEGMENT_HEADER_BYTES
  omega

/-- What the loop reads where there is a segment. -/
theorem Segment.read (segment : Segment) (h : image.drop position = segment.bytes ++ rest) :
    leNat 4 (image.drop (position + 4)) = segment.data.length ∧
      slice image (position + ESP_SEGMENT_HEADER_BYTES)
        (position + ESP_SEGMENT_HEADER_BYTES + segment.data.length) = segment.data ∧
      image.drop (position + ESP_SEGMENT_HEADER_BYTES + segment.data.length) = rest := by
  rw [Segment.bytes, List.append_assoc, List.append_assoc] at h
  have haddress := drop_of_drop h
  rw [segment.length_address] at haddress
  have hsize := drop_of_drop haddress
  rw [Codec.length_leBytes, Nat.add_assoc] at hsize
  refine ⟨?_, slice_eq_of_drop hsize, drop_of_drop hsize⟩
  rw [haddress]
  exact Codec.leNat_append segment.length_data _

/-- Where the loop finds room for a segment there is one. -/
theorem Segment.found
    (h : position + ESP_SEGMENT_HEADER_BYTES + leNat 4 (image.drop (position + 4)) ≤ image.length) :
    ∃ segment : Segment, ∃ rest, image.drop position = segment.bytes ++ rest := by
  have hlt := Codec.leNat_lt 4 (image.drop (position + 4))
  generalize hsize : leNat 4 (image.drop (position + 4)) = size at h hlt
  unfold ESP_SEGMENT_HEADER_BYTES at h
  have haddress : (slice image position (position + 4)).length = 4 := by
    rw [length_slice (by omega)]
    omega
  have hdata : (slice image (position + 8) (position + 8 + size)).length = size := by
    rw [length_slice h]
    omega
  refine ⟨⟨_, _, haddress, hdata.trans_lt hlt⟩, image.drop (position + 8 + size), ?_⟩
  have hlength : leBytes 4 size = slice image (position + 4) (position + 8) := by
    rw [← hsize, Codec.leBytes_leNat (by rw [List.length_drop]; omega), slice]
    congr 1
    omega
  rw [Segment.bytes]
  dsimp only
  rw [hdata, hlength, List.append_assoc, List.append_assoc,
    ← drop_eq_slice (Nat.le_add_right _ _), ← drop_eq_slice (by omega), ← drop_eq_slice (by omega)]

/-- The variables after a segment. -/
def SegmentScan.next (s : SegmentScan) (index : Nat) (segment : Segment) : SegmentScan where
  position := s.position + ESP_SEGMENT_HEADER_BYTES + segment.data.length
  checksum := segment.data.foldl (· ^^^ ·) s.checksum
  descriptorOffset := if index = 0 then s.position + ESP_SEGMENT_HEADER_BYTES else s.descriptorOffset
  firstSegmentSize := if index = 0 then segment.data.length else s.firstSegmentSize

theorem SegmentScan.next_position (s : SegmentScan) (index : Nat) (segment : Segment) :
    (s.next index segment).position = s.position + segment.bytes.length := by
  rw [segment.length_bytes, ← Nat.add_assoc]
  rfl

/-- The variables after segments from `index` on. -/
def SegmentScan.after : List Segment → Nat → SegmentScan → SegmentScan
  | [], _, s => s
  | segment :: segments, index, s => after segments (index + 1) (s.next index segment)

/-- One turn of the loop, at a segment. -/
theorem segmentLoop_segment {s s' : SegmentScan} {segment : Segment}
    (h : image.drop s.position = segment.bytes ++ rest) :
    segmentLoop image digestOffset (left + 1) index s = .ok s' ↔
      s.position + segment.bytes.length ≤ digestOffset ∧
        segmentLoop image digestOffset left (index + 1) (s.next index segment) = .ok s' := by
  obtain ⟨hsize, hdata, -⟩ := segment.read h
  simp only [segmentLoop, bind_eq_ok, reject_eq_ok, exists_const, Nat.not_lt]
  rw [hsize, hdata, segment.length_bytes, ← Nat.add_assoc]
  constructor
  · rintro ⟨-, hroom, hrest⟩
    exact ⟨hroom, hrest⟩
  · rintro ⟨hroom, hrest⟩
    exact ⟨by omega, hroom, hrest⟩

/-- The loop succeeds exactly on as many segments that end before the digest. -/
theorem segmentLoop_eq_ok {s s' : SegmentScan} (hdigest : digestOffset ≤ image.length) :
    segmentLoop image digestOffset left index s = .ok s' ↔
      ∃ segments : List Segment, ∃ rest, segments.length = left ∧
        image.drop s.position = segments.flatMap Segment.bytes ++ rest ∧
        (segments ≠ [] → s.position + (segments.flatMap Segment.bytes).length ≤ digestOffset) ∧
        s' = s.after segments index := by
  induction left generalizing index s with
  | zero =>
    constructor
    · intro h
      cases h
      exact ⟨[], _, rfl, rfl, fun h => absurd rfl h, rfl⟩
    · rintro ⟨segments, rest, hlength, -, -, rfl⟩
      cases List.length_eq_zero_iff.mp hlength
      rfl
  | succ left ih =>
    constructor
    · intro h
      obtain ⟨segment, rest, hsegment⟩ : ∃ segment : Segment, ∃ rest,
          image.drop s.position = segment.bytes ++ rest := by
        have hroom := h
        simp only [segmentLoop, bind_eq_ok, reject_eq_ok, exists_const, Nat.not_lt] at hroom
        exact Segment.found (hroom.2.1.trans hdigest)
      obtain ⟨hroom, hrest⟩ := (segmentLoop_segment hsegment).mp h
      obtain ⟨segments, tail, hlength, htail, hend, hs'⟩ := ih.mp hrest
      have hposition : image.drop (s.next index segment).position = rest := (segment.read hsegment).2.2
      have hnext := s.next_position index segment
      refine ⟨segment :: segments, tail, by rw [List.length_cons, hlength], ?_, fun _ => ?_, hs'⟩
      · rw [hsegment, List.flatMap_cons, List.append_assoc, ← htail, hposition]
      · rw [List.flatMap_cons, List.length_append]
        cases segments with
        | nil => exact hroom
        | cons =>
          have := hend (List.cons_ne_nil _ _)
          omega
    · rintro ⟨segments, rest, hlength, hbytes, hend, rfl⟩
      cases segments with
      | nil => cases hlength
      | cons segment segments =>
        have hend := hend (List.cons_ne_nil _ _)
        rw [List.flatMap_cons, List.append_assoc] at hbytes
        rw [List.flatMap_cons, List.length_append] at hend
        have hposition : image.drop (s.next index segment).position = segments.flatMap Segment.bytes ++ rest :=
          (segment.read hbytes).2.2
        have hnext := s.next_position index segment
        refine (segmentLoop_segment hbytes).mpr ⟨by omega, ih.mpr ?_⟩
        exact ⟨segments, rest, Nat.succ.inj hlength, hposition, fun _ => by omega, rfl⟩

/-! ## The variables after the loop -/

theorem after_position (segments : List Segment) (index : Nat) (s : SegmentScan) :
    (s.after segments index).position = s.position + (segments.flatMap Segment.bytes).length := by
  induction segments generalizing index s with
  | nil => rfl
  | cons segment segments ih =>
    rw [SegmentScan.after, ih, s.next_position, List.flatMap_cons, List.length_append, Nat.add_assoc]

theorem after_checksum (segments : List Segment) (index : Nat) (s : SegmentScan) :
    (s.after segments index).checksum =
      segments.foldl (fun checksum segment => segment.data.foldl (· ^^^ ·) checksum) s.checksum := by
  induction segments generalizing index s with
  | nil => rfl
  | cons segment segments ih => rw [SegmentScan.after, ih, List.foldl_cons]; rfl

/-- After the first segment the two places stay. -/
theorem after_first (segments : List Segment) (index : Nat) (s : SegmentScan) :
    (s.after segments (index + 1)).descriptorOffset = s.descriptorOffset ∧
      (s.after segments (index + 1)).firstSegmentSize = s.firstSegmentSize := by
  induction segments generalizing index s with
  | nil => exact ⟨rfl, rfl⟩
  | cons segment segments ih => exact ih (index + 1) (s.next (index + 1) segment)

/-! ## The unsigned image -/

theorem leNat_append_left (h : n ≤ bytes.length) (rest : ByteString) :
    leNat n (bytes ++ rest) = leNat n bytes := by
  induction n generalizing bytes with
  | zero => rfl
  | succ n ih =>
    cases bytes with
    | nil => cases h
    | cons c bytes =>
      have htail := ih (Nat.le_of_succ_le_succ h)
      simp only [leNat, List.cons_append, List.headD_cons, List.tail_cons, htail]

theorem inspectHeader_eq_ok : inspectHeader image = .ok u ↔
    image.length ≤ MAX_OTA_IMAGE_BYTES ∧
      ESP_IMAGE_HEADER_BYTES + ESP_SEGMENT_HEADER_BYTES + ESP_APP_DESC_BYTES + SHA256_BYTES ≤ image.length ∧
      image.getD 0 0 = 0xE9 ∧
      (1 ≤ (image.getD 1 0).toNat ∧ (image.getD 1 0).toNat ≤ MAX_ESP_IMAGE_SEGMENTS) ∧
      leNat 2 (image.drop 12) = ESP32_P4_CHIP_ID ∧ image.getD 3 0 &&& 0xF0 = 0x50 ∧ image.getD 23 0 = 1 := by
  simp only [inspectHeader, bind_eq_ok, reject_eq_ok, exists_const, not_or, Nat.not_lt, Ne, not_not]

theorem inspectDigest_eq_ok : inspectDigest image scan = .ok unsignedEnd ↔
    checksumOffset scan.position + 1 + SHA256_BYTES ≤ image.length ∧
      image.getD (checksumOffset scan.position) 0 = scan.checksum ∧
      ESP_APP_DESC_BYTES ≤ scan.firstSegmentSize ∧
      leNat 4 (image.drop scan.descriptorOffset) = ESP_APP_DESC_MAGIC ∧
      slice image (checksumOffset scan.position + 1) (checksumOffset scan.position + 1 + SHA256_BYTES) =
        sha256 (image.take (checksumOffset scan.position + 1)) ∧
      unsignedEnd = checksumOffset scan.position + 1 + SHA256_BYTES := by
  simp only [inspectDigest, bind_eq_ok, reject_eq_ok, exists_const, Nat.not_lt, Ne, not_not, pure_eq_ok,
    eq_comm (a := checksumOffset scan.position + 1 + SHA256_BYTES)]

/-- The loop starts behind the header. -/
def firstScan : SegmentScan where
  position := ESP_IMAGE_HEADER_BYTES
  checksum := 0xEF
  descriptorOffset := 0
  firstSegmentSize := 0

namespace EspImage

/-- Where the segments end. -/
def finish (e : EspImage) : Nat := ESP_IMAGE_HEADER_BYTES + (e.segments.flatMap Segment.bytes).length

theorem length_body (e : EspImage) : e.body.length = checksumOffset e.finish + 1 := by
  have hfiller : e.filler.length = 15 - e.finish % 16 := e.length_filler
  rw [body, List.length_append, List.length_append, List.length_append, e.length_header, hfiller]
  unfold checksumOffset
  show ESP_IMAGE_HEADER_BYTES + ((e.segments.flatMap Segment.bytes).length + (15 - e.finish % 16 + 1)) =
    ESP_IMAGE_HEADER_BYTES + (e.segments.flatMap Segment.bytes).length + (15 - e.finish % 16) + 1
  omega

theorem length_bytes (e : EspImage) : e.bytes.length = checksumOffset e.finish + 1 + SHA256_BYTES := by
  rw [bytes, List.length_append, e.length_body, length_sha256]
  rfl

/-- The variables of the loop behind the segments. -/
theorem scan_after (e : EspImage) :
    let scan := firstScan.after e.segments 0
    scan.position = e.finish ∧ scan.checksum = e.checksum ∧
      scan.descriptorOffset = ESP_IMAGE_HEADER_BYTES + ESP_SEGMENT_HEADER_BYTES ∧
      scan.firstSegmentSize = e.first.data.length :=
  ⟨after_position .., after_checksum .., (after_first e.others 0 _).1, (after_first e.others 0 _).2⟩

theorem starts (e : EspImage) (h : image = e.bytes ++ rest) : ∃ tail, image = e.header ++ tail := by
  rw [h, bytes, body, List.append_assoc, List.append_assoc]
  exact ⟨_, rfl⟩

/-- What stands behind the header. -/
theorem drop_header (e : EspImage) (h : image = e.bytes ++ rest) :
    image.drop ESP_IMAGE_HEADER_BYTES =
      e.segments.flatMap Segment.bytes ++ (e.filler ++ [e.checksum] ++ (sha256 e.body ++ rest)) := by
  rw [h, bytes, body, List.append_assoc, List.append_assoc, List.append_assoc,
    List.drop_left' e.length_header]

theorem drop_descriptor (e : EspImage) (h : image = e.bytes ++ rest) : ∃ tail,
    image.drop (ESP_IMAGE_HEADER_BYTES + ESP_SEGMENT_HEADER_BYTES) = e.first.data ++ tail := by
  have hheader := e.drop_header h
  rw [segments, List.flatMap_cons, List.append_assoc] at hheader
  have hdata := (e.first.read hheader).2.1
  rw [drop_eq_slice (Nat.le_add_right _ e.first.data.length), hdata]
  exact ⟨_, rfl⟩

theorem take_body (e : EspImage) (h : image = e.bytes ++ rest) :
    image.take (checksumOffset e.finish + 1) = e.body ∧
      image.drop (checksumOffset e.finish + 1) = sha256 e.body ++ rest := by
  rw [h, bytes, List.append_assoc, ← e.length_body]
  exact ⟨List.take_left, List.drop_left⟩

theorem getD_checksum (e : EspImage) (h : image = e.bytes ++ rest) :
    image.getD (checksumOffset e.finish) 0 = e.checksum := by
  have hlast : e.body = (e.header ++ (e.segments.flatMap Segment.bytes ++ e.filler)) ++ [e.checksum] := by
    rw [body, List.append_assoc, List.append_assoc]
  have hlength : checksumOffset e.finish = (e.header ++ (e.segments.flatMap Segment.bytes ++ e.filler)).length := by
    have := congrArg List.length hlast
    rw [e.length_body, List.length_append, List.length_singleton] at this
    exact Nat.succ.inj this
  rw [h, bytes, hlast, List.append_assoc, List.append_assoc, hlength]
  simp

theorem slice_digest (e : EspImage) (h : image = e.bytes ++ rest) :
    slice image (e.bytes.length - SHA256_BYTES) e.bytes.length = sha256 e.body := by
  have hdigest := slice_eq_of_drop (e.take_body h).2
  rw [length_sha256] at hdigest
  rw [e.length_bytes, Nat.add_sub_cancel]
  exact hdigest

/-- A field of the descriptor. -/
theorem slice_descriptor (e : EspImage) (h : image = e.bytes ++ rest) (hstop : stop ≤ ESP_APP_DESC_BYTES)
    (hstart : start ≤ stop) :
    slice image (ESP_IMAGE_HEADER_BYTES + ESP_SEGMENT_HEADER_BYTES + start)
      (ESP_IMAGE_HEADER_BYTES + ESP_SEGMENT_HEADER_BYTES + stop) = slice e.first.data start stop := by
  obtain ⟨tail, htail⟩ := e.drop_descriptor h
  have hfits := e.length_descriptor
  rw [slice, slice, ← List.drop_drop, htail, List.drop_append_of_le_length (by omega),
    List.take_append_of_le_length (by rw [List.length_drop]; omega)]
  congr 1
  omega

/-- An image is accepted up to its signature. -/
theorem inspected (e : EspImage) (h : image = e.bytes ++ rest) (hmax : image.length ≤ MAX_OTA_IMAGE_BYTES) :
    inspectHeader image = .ok () ∧
      segmentLoop image (image.length - SHA256_BYTES) (image.getD 1 0).toNat 0 firstScan =
        .ok (firstScan.after e.segments 0) ∧
      inspectDigest image (firstScan.after e.segments 0) = .ok e.bytes.length := by
  have hlength : image.length = checksumOffset e.finish + 1 + SHA256_BYTES + rest.length := by
    rw [h, List.length_append, e.length_bytes]
  have hfinish : e.finish = ESP_IMAGE_HEADER_BYTES +
      (ESP_SEGMENT_HEADER_BYTES + e.first.data.length + (e.others.flatMap Segment.bytes).length) := by
    rw [finish, segments, List.flatMap_cons, List.length_append, e.first.length_bytes]
  obtain ⟨tail, htail⟩ := e.starts h
  have hheader (i : Nat) (hi : i < ESP_IMAGE_HEADER_BYTES) : image.getD i 0 = e.header.getD i 0 := by
    rw [htail, List.getD_eq_getElem?_getD, List.getElem?_append_left (by rw [e.length_header]; exact hi),
      List.getD_eq_getElem?_getD]
  have hcount : (image.getD 1 0).toNat = e.segments.length := by
    rw [hheader 1 (by decide), e.count]
    rfl
  obtain ⟨hposition, hchecksum, hoffset, hsize⟩ := e.scan_after
  obtain ⟨htake, hdrop⟩ := e.take_body h
  have hfits := e.length_descriptor
  have hle : e.finish ≤ checksumOffset e.finish := Nat.le_add_right _ _
  refine ⟨?_, ?_, ?_⟩
  · refine inspectHeader_eq_ok.mpr ⟨hmax, by omega, ?_, ?_, ?_, ?_, ?_⟩
    · rw [hheader 0 (by decide), e.magic]
    · rw [hcount]
      exact ⟨Nat.le_add_left 1 _, e.count_le⟩
    · have hlong : 12 ≤ e.header.length := by rw [e.length_header]; decide
      rw [htail, List.drop_append_of_le_length hlong,
        leNat_append_left (by rw [List.length_drop, e.length_header]; decide), e.chip]
    · rw [hheader 3 (by decide), e.flashSize]
    · rw [hheader 23 (by decide), e.hashed]
  · refine (segmentLoop_eq_ok (Nat.sub_le _ _)).mpr
      ⟨e.segments, _, hcount.symm, e.drop_header h, fun _ => ?_, rfl⟩
    show e.finish ≤ _
    omega
  · refine inspectDigest_eq_ok.mpr ?_
    rw [hposition, hchecksum, hoffset, hsize, e.length_bytes]
    refine ⟨by omega, e.getD_checksum h, hfits, ?_, ?_, rfl⟩
    · obtain ⟨tail, htail⟩ := e.drop_descriptor h
      rw [htail, leNat_append_left ((by decide : 4 ≤ ESP_APP_DESC_BYTES).trans hfits), e.descriptor]
    · have hdigest := slice_eq_of_drop hdrop
      rwa [length_sha256, ← htake] at hdigest

end EspImage

/-- Nothing else is accepted. -/
theorem EspImage.found (hheader : inspectHeader image = .ok ())
    (hloop : segmentLoop image (image.length - SHA256_BYTES) (image.getD 1 0).toNat 0 firstScan = .ok scan)
    (hdigest : inspectDigest image scan = .ok unsignedEnd) :
    ∃ (e : EspImage) (rest : ByteString), image = e.bytes ++ rest ∧
      scan = firstScan.after e.segments 0 ∧ unsignedEnd = e.bytes.length := by
  obtain ⟨hmax, hmin, hmagic, hcounts, hchip, hflash, hhashed⟩ := inspectHeader_eq_ok.mp hheader
  obtain ⟨segments, rest, hcount, hbytes, -, rfl⟩ := (segmentLoop_eq_ok (Nat.sub_le _ _)).mp hloop
  cases segments with
  | nil =>
    rw [← hcount] at hcounts
    exact absurd hcounts.1 (by decide)
  | cons first others =>
    obtain ⟨hend, hchecksum, hlong, hdescriptor, hsha, hunsigned⟩ := inspectDigest_eq_ok.mp hdigest
    rw [after_checksum] at hchecksum
    rw [after_position] at hend hchecksum hsha hunsigned
    have hlong : ESP_APP_DESC_BYTES ≤ first.data.length := hlong.trans_eq (after_first others 0 _).2
    have hoffset : ((firstScan.after (first :: others) 0).descriptorOffset) =
        ESP_IMAGE_HEADER_BYTES + ESP_SEGMENT_HEADER_BYTES := (after_first others 0 _).1
    rw [hoffset] at hdescriptor
    have hposition : firstScan.position = ESP_IMAGE_HEADER_BYTES := rfl
    rw [hposition] at hend hchecksum hsha hunsigned hbytes
    have hfirst : image.drop ESP_IMAGE_HEADER_BYTES =
        first.bytes ++ (others.flatMap Segment.bytes ++ rest) := by
      rw [hbytes, List.flatMap_cons, List.append_assoc]
    have hrest := drop_of_drop hbytes
    generalize hfinish : ESP_IMAGE_HEADER_BYTES + ((first :: others).flatMap Segment.bytes).length = finish at *
    have hle : finish ≤ checksumOffset finish := Nat.le_add_right _ _
    have hstart : image = image.take ESP_IMAGE_HEADER_BYTES ++ image.drop ESP_IMAGE_HEADER_BYTES :=
      (List.take_append_drop _ _).symm
    have hlength : (image.take ESP_IMAGE_HEADER_BYTES).length = ESP_IMAGE_HEADER_BYTES := by
      rw [List.length_take]
      omega
    have hgetD (i : Nat) (hi : i < ESP_IMAGE_HEADER_BYTES) :
        (image.take ESP_IMAGE_HEADER_BYTES).getD i 0 = image.getD i 0 := by
      rw [List.getD_eq_getElem?_getD, List.getD_eq_getElem?_getD, List.getElem?_take_of_lt hi]
    let e : EspImage :=
      { header := image.take ESP_IMAGE_HEADER_BYTES
        first, others
        filler := slice image finish (checksumOffset finish)
        length_header := hlength
        magic := (hgetD 0 (by decide)).trans hmagic
        count := by rw [hgetD 1 (by decide), ← hcount]; rfl
        count_le := by rw [← hcount] at hcounts; exact hcounts.2
        chip := by
          rw [← hchip]
          conv_rhs => rw [hstart, List.drop_append_of_le_length (by rw [hlength]; decide)]
          exact (leNat_append_left (by rw [List.length_drop, hlength]; decide) _).symm
        flashSize := by rw [hgetD 3 (by decide), hflash]
        hashed := (hgetD 23 (by decide)).trans hhashed
        length_descriptor := hlong
        descriptor := by
          rw [drop_eq_slice (Nat.le_add_right _ first.data.length), (first.read hfirst).2.1,
            leNat_append_left ((by decide : 4 ≤ ESP_APP_DESC_BYTES).trans hlong)] at hdescriptor
          exact hdescriptor
        length_filler := by
          rw [hfinish, length_slice (by omega)]
          unfold checksumOffset
          omega }
    have hlast : image.drop (checksumOffset finish) = e.checksum :: image.drop (checksumOffset finish + 1) := by
      have hlt : checksumOffset finish < image.length := by omega
      rw [List.drop_eq_getElem_cons hlt]
      congr 1
      rw [List.getD_eq_getElem?_getD, List.getElem?_eq_getElem hlt, Option.getD_some] at hchecksum
      exact hchecksum
    have hbody : image = e.body ++ image.drop (checksumOffset finish + 1) := by
      have hflat : image = image.take ESP_IMAGE_HEADER_BYTES ++
          ((first :: others).flatMap Segment.bytes ++ (slice image finish (checksumOffset finish) ++
            (e.checksum :: image.drop (checksumOffset finish + 1)))) := by
        rw [← hlast, ← drop_eq_slice hle, hrest, ← hbytes, List.take_append_drop]
      have happend : e.body ++ image.drop (checksumOffset finish + 1) = image.take ESP_IMAGE_HEADER_BYTES ++
          ((first :: others).flatMap Segment.bytes ++ (slice image finish (checksumOffset finish) ++
            (e.checksum :: image.drop (checksumOffset finish + 1)))) := by
        rw [EspImage.body, List.append_assoc, List.append_assoc, List.append_assoc]
        rfl
      rw [happend]
      exact hflat
    have hfin : e.finish = finish := hfinish
    have htake : image.take (checksumOffset finish + 1) = e.body := by
      have hbodyLength := e.length_body
      rw [hfin] at hbodyLength
      conv_lhs => rw [hbody, ← hbodyLength]
      exact List.take_left
    refine ⟨e, image.drop (checksumOffset finish + 1 + SHA256_BYTES), ?_, rfl, ?_⟩
    · rw [EspImage.bytes, ← htake, ← hsha, List.append_assoc, ← drop_eq_slice (Nat.le_add_right _ _),
        List.take_append_drop]
    · rw [hunsigned, e.length_bytes, hfin]

/-! ## The signature -/

/-- `negatedInverse` is what it is called. -/
theorem negatedInverse_eq {x : Nat} (hinverse : 2 ^ 32 ∣ modulus * x + 1) (hx : x < 2 ^ 32) :
    negatedInverse modulus = x := by
  have hcoprime : Nat.gcd modulus (2 ^ 32) = 1 := by
    have hone := (Nat.dvd_add_right ((Nat.gcd_dvd_left modulus (2 ^ 32)).mul_right x)).mp
      ((Nat.gcd_dvd_right modulus (2 ^ 32)).trans hinverse)
    exact Nat.dvd_one.mp hone
  have hbezout := Nat.gcd_eq_gcd_ab modulus (2 ^ 32)
  rw [hcoprime] at hbezout
  obtain ⟨k, hk⟩ := hinverse
  -- The inverse times `modulus * x + 1` is `x` plus the inverse, up to multiples of 2^32.
  have hx' : -Nat.gcdA modulus (2 ^ 32) =
      x + 2 ^ 32 * (Nat.gcdB modulus (2 ^ 32) * -x - k * Nat.gcdA modulus (2 ^ 32)) := by
    have hk : (modulus * x + 1 : ℤ) = 2 ^ 32 * k := by exact_mod_cast hk
    have hone : (1 : ℤ) = modulus * Nat.gcdA modulus (2 ^ 32) + 2 ^ 32 * Nat.gcdB modulus (2 ^ 32) := by
      exact_mod_cast hbezout
    linear_combination (-Nat.gcdA modulus (2 ^ 32)) * hk - x * hone
  rw [negatedInverse, hx', Int.add_mul_emod_self_left]
  omega

/-- The key of a block with its parameters. -/
def keyBytes (modulus : Nat) : ByteString :=
  leBytes 384 modulus ++ (leBytes 4 65537 ++ (leBytes 384 (residue modulus) ++ leBytes 4 (negatedInverse modulus)))

/-- What the checksum of a block is about. -/
def signatureHead (digest : ByteString) (modulus : Nat) (signature : ByteString) : ByteString :=
  [0xE7, 0x02, 0, 0] ++ (digest ++ (keyBytes modulus ++ signature))

/-- A sector with one block. -/
def signatureSector (digest : ByteString) (modulus : Nat) (signature : ByteString) : ByteString :=
  let head := signatureHead digest modulus signature
  head ++ (leBytes 4 (crc32 head) ++ (List.replicate 16 0 ++ List.replicate (SECTOR_BYTES - BLOCK_BYTES) 0xFF))

/-- The image with its padding, the signature in a sector of its own, and the digest of the trusted key. -/
structure SignedBy (t : ImageTools) (unsigned image key : ByteString) (padding modulus : Nat)
    (signature : ByteString) : Prop where
  image : image = unsigned ++ List.replicate padding 0xFF ++
    signatureSector (sha256 (unsigned ++ List.replicate padding 0xFF)) modulus signature
  nonempty : unsigned ++ List.replicate padding 0xFF ≠ []
  aligned : (unsigned ++ List.replicate padding 0xFF).length % SECTOR_BYTES = 0
  size : modulus.size = 3072
  odd : modulus % 2 = 1
  length_signature : signature.length = 384
  trusted : t.publicDer = some (rsaPublicDer modulus 65537)
  verified : t.verify (rsaPublicDer modulus 65537) signature.reverse (unsigned ++ List.replicate padding 0xFF) = true
  key : key = hexDigest (sha256 (keyBytes modulus))

theorem length_signatureHead (hdigest : digest.length = 32) (hsignature : signature.length = 384) :
    (signatureHead digest modulus signature).length = 1196 := by
  simp only [signatureHead, keyBytes, List.length_append, Codec.length_leBytes, hdigest, hsignature,
    List.length_cons, List.length_nil]

theorem drop_eq_leBytes {bytes : ByteString} (start n : Nat) (h : start + n ≤ bytes.length) :
    bytes.drop start = leBytes n (leNat n (bytes.drop start)) ++ bytes.drop (start + n) := by
  rw [Codec.leBytes_leNat (by rw [List.length_drop]; omega), ← List.drop_drop, List.take_append_drop]

theorem length_keyBytes : (keyBytes modulus).length = 776 := by
  simp only [keyBytes, List.length_append, Codec.length_leBytes]

/-- What the fields of a block are read as. -/
structure BlockReads (block digest : ByteString) (modulus : Nat) (signature : ByteString) :
    Prop where
  version : block.take 4 = [0xE7, 0x02, 0, 0]
  digest_eq : slice block 4 36 = digest
  modulus_eq : leNat 384 (block.drop 36) = modulus
  exponent_eq : leNat 4 (block.drop 420) = 65537
  residue_eq : leNat 384 (block.drop 424) = residue modulus
  inverse_eq : leNat 4 (block.drop 808) = negatedInverse modulus
  signature_eq : slice block 812 1196 = signature
  crc_eq : leNat 4 (block.drop 1196) = crc32 (block.take 1196)
  zeros : block.drop 1200 = List.replicate 16 0

/-- The fields make up the block. -/
theorem BlockReads.block_eq {block : ByteString} (R : BlockReads block digest modulus signature)
    (hlength : block.length = BLOCK_BYTES) :
    block = signatureHead digest modulus signature ++
        (leBytes 4 (crc32 (signatureHead digest modulus signature)) ++ List.replicate 16 0) ∧
      slice block 36 812 = keyBytes modulus ∧ signature.length = 384 := by
  unfold BLOCK_BYTES at hlength
  have hkey : block.drop 36 = keyBytes modulus ++ block.drop 812 := by
    rw [drop_eq_leBytes 36 384 (by omega), R.modulus_eq, drop_eq_leBytes (36 + 384) 4 (by omega), R.exponent_eq,
      drop_eq_leBytes (36 + 384 + 4) 384 (by omega), R.residue_eq,
      drop_eq_leBytes (36 + 384 + 4 + 384) 4 (by omega), R.inverse_eq, keyBytes,
      List.append_assoc, List.append_assoc, List.append_assoc]
  have hhead : block = signatureHead digest modulus signature ++ block.drop 1196 := by
    conv_lhs => rw [← List.take_append_drop 4 block, R.version, drop_eq_slice (by decide : 4 ≤ 36), R.digest_eq,
      hkey, drop_eq_slice (by decide : 812 ≤ 1196), R.signature_eq]
    rw [signatureHead, List.append_assoc, List.append_assoc, List.append_assoc]
  have hdigest : digest.length = 32 := by
    rw [← R.digest_eq, length_slice (by omega)]
  have hsignature : signature.length = 384 := by
    rw [← R.signature_eq, length_slice (by omega)]
  have htake : block.take 1196 = signatureHead digest modulus signature := by
    conv_lhs => rw [hhead]
    exact List.take_left' (length_signatureHead hdigest hsignature)
  have hcrc := drop_eq_leBytes 1196 4 (by omega : 1196 + 4 ≤ block.length)
  refine ⟨?_, ?_, hsignature⟩
  · conv_lhs => rw [hhead, hcrc, R.crc_eq, htake, R.zeros]
  · have hslice := slice_eq_of_drop hkey
    rwa [length_keyBytes] at hslice

theorem lt_of_size {n : Nat} (k : Nat) (h : n.size ≤ 8 * k) : n < 256 ^ k := by
  have hlt := Nat.size_le.mp h
  rwa [Nat.pow_mul] at hlt

/-- The fields of a block are read back. -/
theorem blockReads (hdigest : digest.length = 32) (hmodulus : modulus.size = 3072)
    (hsignature : signature.length = 384) (hblock : block = signatureHead digest modulus signature ++
      (leBytes 4 (crc32 (signatureHead digest modulus signature)) ++ List.replicate 16 0)) :
    BlockReads block digest modulus signature := by
  have hlt : modulus < 256 ^ 384 := lt_of_size 384 (by rw [hmodulus])
  have hresidue : residue modulus < 256 ^ 384 := by
    refine lt_trans (Nat.mod_lt _ ?_) hlt
    refine Nat.pos_of_ne_zero fun h => ?_
    rw [h, Nat.size_zero] at hmodulus
    cases hmodulus
  have hinverse : negatedInverse modulus < 256 ^ 4 := by
    unfold negatedInverse
    omega
  have h₄ : block.drop 4 = digest ++ (keyBytes modulus ++ (signature ++
      (leBytes 4 (crc32 (signatureHead digest modulus signature)) ++ List.replicate 16 0))) := by
    rw [hblock]
    conv_lhs => rw [signatureHead, List.append_assoc, List.append_assoc, List.append_assoc]
    rfl
  have h₃₆ := drop_of_drop h₄
  rw [hdigest] at h₃₆
  have h₈₁₂ := drop_of_drop h₃₆
  rw [length_keyBytes] at h₈₁₂
  have h₁₁₉₆ := drop_of_drop h₈₁₂
  rw [hsignature] at h₁₁₉₆
  have h₁₂₀₀ := drop_of_drop h₁₁₉₆
  rw [Codec.length_leBytes] at h₁₂₀₀
  have hkey := h₃₆
  rw [keyBytes, List.append_assoc, List.append_assoc, List.append_assoc] at hkey
  have h₄₂₀ := drop_of_drop hkey
  rw [Codec.length_leBytes] at h₄₂₀
  have h₄₂₄ := drop_of_drop h₄₂₀
  rw [Codec.length_leBytes] at h₄₂₄
  have h₈₀₈ := drop_of_drop h₄₂₄
  rw [Codec.length_leBytes] at h₈₀₈
  have htake : block.take 1196 = signatureHead digest modulus signature := by
    rw [hblock]
    exact List.take_left' (length_signatureHead hdigest hsignature)
  constructor
  · rw [hblock, signatureHead]
    rfl
  · have hslice := slice_eq_of_drop h₄
    rwa [hdigest] at hslice
  · rw [hkey, Codec.leNat_append hlt]
  · rw [h₄₂₀, Codec.leNat_append (by decide)]
  · rw [h₄₂₄, Codec.leNat_append hresidue]
  · rw [h₈₀₈, Codec.leNat_append hinverse]
  · have hslice := slice_eq_of_drop h₈₁₂
    rwa [hsignature] at hslice
  · rw [h₁₁₉₆, Codec.leNat_append (crc32_lt _), htake]
  · exact h₁₂₀₀

/-- The fields of `signatureKey`. -/
theorem signatureKey_eq_ok : signatureKey block = .ok (modulus, exponent) ↔
    modulus.size = 3072 ∧ modulus % 2 = 1 ∧ exponent = 65537 ∧ leNat 384 (block.drop 36) = modulus ∧
      leNat 4 (block.drop 420) = exponent ∧ leNat 384 (block.drop 424) = residue modulus ∧
      leNat 4 (block.drop 808) = negatedInverse modulus := by
  simp only [signatureKey, bind_eq_ok, reject_eq_ok, pure_eq_ok, exists_const, not_or, not_not, Ne, Prod.mk.injEq,
    Nat.mod_two_not_eq_zero]
  constructor
  · rintro ⟨⟨hsize, hodd, hexponent⟩, ⟨hresidue, hinverse⟩, rfl, rfl⟩
    exact ⟨hsize, hodd, hexponent, rfl, rfl, hresidue, hinverse⟩
  · rintro ⟨hsize, hodd, hexponent, rfl, rfl, hresidue, hinverse⟩
    exact ⟨⟨hsize, hodd, hexponent⟩, ⟨hresidue, hinverse⟩, rfl, rfl⟩

theorem length_signatureBlock {digest signature : ByteString} (hdigest : digest.length = 32)
    (hsignature : signature.length = 384) :
    (signatureHead digest modulus signature ++
      (leBytes 4 (crc32 (signatureHead digest modulus signature)) ++ List.replicate 16 0)).length =
        BLOCK_BYTES := by
  rw [List.length_append, List.length_append, length_signatureHead hdigest hsignature, Codec.length_leBytes,
    List.length_replicate]
  rfl

theorem signatureSector_eq (digest : ByteString) (modulus : Nat) (signature : ByteString) :
    signatureSector digest modulus signature =
      signatureHead digest modulus signature ++
        (leBytes 4 (crc32 (signatureHead digest modulus signature)) ++ List.replicate 16 0) ++
        List.replicate (SECTOR_BYTES - BLOCK_BYTES) 0xFF := by
  rw [signatureSector, List.append_assoc, List.append_assoc]

theorem take_eq_slice (image : ByteString) (h : start ≤ stop) :
    image.take stop = image.take start ++ slice image start stop := by
  conv_lhs => rw [← Nat.add_sub_cancel' h, List.take_add]
  rfl

/-- A block that reads so, with nothing behind it, is the sector of its fields. -/
theorem BlockReads.sector_eq
    (R : BlockReads (slice image offset (offset + BLOCK_BYTES)) digest modulus signature)
    (hlength : image.length = offset + SECTOR_BYTES)
    (hrest : image.drop (offset + BLOCK_BYTES) = List.replicate (SECTOR_BYTES - BLOCK_BYTES) 0xFF) :
    image.drop offset = signatureSector digest modulus signature ∧
      slice (slice image offset (offset + BLOCK_BYTES)) 36 812 = keyBytes modulus ∧ signature.length = 384 := by
  have hblock : (slice image offset (offset + BLOCK_BYTES)).length = BLOCK_BYTES := by
    rw [length_slice (by rw [hlength]; exact Nat.add_le_add_left (by decide) _), Nat.add_sub_cancel_left]
  obtain ⟨hbytes, hkey, hsignature⟩ := R.block_eq hblock
  refine ⟨?_, hkey, hsignature⟩
  rw [signatureSector_eq, ← hbytes, ← hrest, ← drop_eq_slice (Nat.le_add_right _ _)]

namespace SignedBy

variable {key : ByteString}

/-- Where the sector of the signature is. -/
theorem split (S : SignedBy t unsigned image key padding modulus signature)
    (hsigned : unsigned ++ List.replicate padding 0xFF = signed) :
    image.length = signed.length + SECTOR_BYTES ∧ image.take signed.length = signed ∧
      image.drop signed.length = signatureSector (sha256 signed) modulus signature := by
  have himage := S.image
  rw [hsigned] at himage
  refine ⟨?_, ?_, ?_⟩
  · rw [himage, signatureSector_eq, List.length_append, List.length_append,
      length_signatureBlock (length_sha256 signed) S.length_signature, List.length_replicate]
    rfl
  · rw [himage]
    exact List.take_left
  · conv_lhs => rw [himage]
    exact List.drop_left

theorem length_ne (S : SignedBy t unsigned image key padding modulus signature) :
    image.length ≠ unsigned.length := by
  have hlength := (S.split rfl).1
  rw [List.length_append] at hlength
  unfold SECTOR_BYTES at hlength
  omega

/-- The sector of the signature reads as its fields. -/
theorem blockReads (S : SignedBy t unsigned image key padding modulus signature)
    (hsigned : unsigned ++ List.replicate padding 0xFF = signed) :
    BlockReads (slice image signed.length (signed.length + BLOCK_BYTES)) (sha256 signed) modulus signature ∧
      slice (slice image signed.length (signed.length + BLOCK_BYTES)) 36 812 = keyBytes modulus ∧
      image.drop (signed.length + BLOCK_BYTES) = List.replicate (SECTOR_BYTES - BLOCK_BYTES) 0xFF := by
  have hdigest := length_sha256 signed
  have hdrop := (S.split hsigned).2.2
  rw [signatureSector_eq] at hdrop
  have hblock := slice_eq_of_drop hdrop
  have hrest := drop_of_drop hdrop
  rw [length_signatureBlock hdigest S.length_signature] at hblock hrest
  have R := ModbusGateway.blockReads hdigest S.size S.length_signature hblock
  exact ⟨R, (R.block_eq (by rw [hblock, length_signatureBlock hdigest S.length_signature])).2.1, hrest⟩

end SignedBy

/-- A signature is verified exactly if the file is the image, padding up to a sector and a sector with one
block of the trusted key, for the image with its padding. -/
theorem verifyImageSignature_eq_ok : verifyImageSignature t image unsignedEnd = .ok key ↔
    ∃ padding modulus signature, SignedBy t (image.take unsignedEnd) image key padding modulus signature := by
  simp only [verifyImageSignature, bind_eq_ok, reject_eq_ok, require_eq_ok, pure_eq_ok, exists_const, not_or,
    not_not, Ne, Nat.not_lt, Prod.exists, signatureKey_eq_ok]
  constructor
  · rintro ⟨⟨hpos, haligned, hle⟩, hpadding, hversion, hcrc, ⟨hzeros, hrest⟩, hdigest, modulus, exponent,
      ⟨hsize, hodd, rfl, hmodulus, hexponent, hresidue, hinverse⟩, trusted, htrusted, hkey, hverified, rfl⟩
    subst hkey
    generalize hoffset : image.length - SECTOR_BYTES = offset at *
    have hlength : image.length = offset + SECTOR_BYTES := by omega
    have hslice : slice image unsignedEnd offset = List.replicate (offset - unsignedEnd) 0xFF := by
      refine List.eq_replicate_iff.mpr ⟨length_slice (by omega), fun c hc => ?_⟩
      by_contra hne
      exact hpadding (List.any_eq_true.mpr ⟨c, hc, decide_eq_true hne⟩)
    have htake := take_eq_slice image hle
    rw [hslice] at htake
    have R : BlockReads (slice image offset (offset + BLOCK_BYTES)) (sha256 (image.take offset)) modulus
        (slice (slice image offset (offset + BLOCK_BYTES)) 812 1196) :=
      ⟨hversion, hdigest.symm, hmodulus, hexponent, hresidue, hinverse, rfl, hcrc, hzeros⟩
    obtain ⟨hsector, hkeyBytes, hsignature⟩ := R.sector_eq hlength hrest
    have hoffsetLength : (image.take unsignedEnd ++ List.replicate (offset - unsignedEnd) 0xFF).length = offset := by
      rw [← htake, List.length_take]
      omega
    rw [htake] at hsector hverified
    refine ⟨offset - unsignedEnd, modulus, _, ⟨?_, fun hnil => hpos ?_, ?_, hsize, hodd, hsignature, htrusted,
      Bool.eq_true_of_not_eq_false hverified, by rw [hkeyBytes]⟩⟩
    · rw [← hsector, ← htake, List.take_append_drop]
    · rw [← hoffsetLength, hnil]
      rfl
    · rw [hoffsetLength, haligned]
  · rintro ⟨padding, modulus, signature, S⟩
    have hnonempty := S.nonempty
    have haligned := S.aligned
    have hverified := S.verified
    generalize hsigned : image.take unsignedEnd ++ List.replicate padding 0xFF = signed at *
    obtain ⟨hlength, htake, -⟩ := S.split hsigned
    obtain ⟨R, hkeyBytes, hrest⟩ := S.blockReads hsigned
    have hoffset : image.length - SECTOR_BYTES = signed.length := by omega
    have hle : unsignedEnd ≤ signed.length := by
      have := congrArg List.length hsigned
      rw [List.length_append, List.length_take] at this
      unfold SECTOR_BYTES at hlength
      omega
    have hslice : slice image unsignedEnd signed.length = List.replicate padding 0xFF := by
      have hsplit := take_eq_slice image hle
      rw [htake] at hsplit
      exact (List.append_cancel_left (hsigned.trans hsplit)).symm
    rw [hoffset, htake, hslice]
    refine ⟨⟨?_, haligned, hle⟩, ?_, R.version, R.crc_eq, ⟨R.zeros, hrest⟩, R.digest_eq.symm, modulus,
      65537,
      ⟨S.size, S.odd, rfl, R.modulus_eq, R.exponent_eq, R.residue_eq, R.inverse_eq⟩, _, S.trusted, rfl, ?_, ?_⟩
    · exact fun h => hnonempty (List.length_eq_zero_iff.mp h)
    · intro hany
      obtain ⟨c, hc, hne⟩ := List.any_eq_true.mp hany
      exact of_decide_eq_true hne (List.eq_of_mem_replicate hc)
    · rw [R.signature_eq, hverified]
      exact Bool.noConfusion
    · rw [hkeyBytes, S.key]

/-! ## The file -/

/-- The text of a field of the descriptor: what is before the first NUL, not empty and of ASCII. -/
structure AppField (value text : ByteString) : Prop where
  start : text = value.takeWhile (· ≠ 0)
  nonempty : text ≠ []
  ascii : ∀ c ∈ text, c < 0x80

theorem decodeAppField_eq_ok : decodeAppField value name = .ok text ↔ AppField value text := by
  simp only [decodeAppField, bind_eq_ok, reject_eq_ok, exists_const, pure_eq_ok, List.any_eq_true, decide_eq_true_eq,
    not_exists, not_and, UInt8.not_le]
  constructor
  · rintro ⟨hne, hascii, rfl⟩
    exact ⟨rfl, hne, hascii⟩
  · rintro ⟨rfl, hne, hascii⟩
    exact ⟨hne, hascii, rfl⟩

/-- What is reported of the signature. -/
theorem inspectSignature_eq_ok : inspectSignature t image unsignedEnd requireSignature = .ok key ↔
    (image.length = unsignedEnd ∧ requireSignature = false ∧ key = none) ∨
      (image.length ≠ unsignedEnd ∧
        ∃ digest, verifyImageSignature t image unsignedEnd = .ok digest ∧ key = some digest) := by
  by_cases hsigned : image.length = unsignedEnd
  · simp only [inspectSignature, hsigned, bind_eq_ok, reject_eq_ok]
    cases requireSignature <;> simp [pure, Except.pure, eq_comm]
  · simp only [inspectSignature, if_pos hsigned, bind_eq_ok, reject_eq_ok]
    simp [hsigned, pure_eq_ok, eq_comm (a := key)]

/-- The metadata of an image in a file. -/
structure EspImage.Describes (e : EspImage) (m : FirmwareMetadata) : Prop where
  digest : m.imageSha256 = hexDigest (sha256 e.body)
  version : AppField (slice e.first.data 16 48) m.version
  project : AppField (slice e.first.data 48 80) m.project

/-- A file is accepted exactly if it has at most 4 MiB and is an image for this board with a readable version
and project, either alone, unless a signature is required, or padded up to a sector and followed by the
signature under the trusted key; and the metadata is what the image and its signature say. -/
theorem firmware_accepted (t : ImageTools) (image : ByteString) (requireSignature : Bool) (m : FirmwareMetadata) :
    inspectFirmware t image requireSignature = .ok m ↔
      m.image = image ∧ image.length ≤ MAX_OTA_IMAGE_BYTES ∧
        ∃ e : EspImage, e.Describes m ∧
          ((image = e.bytes ∧ requireSignature = false ∧ m.signingKeySha256 = none) ∨
            ∃ key padding modulus signature, SignedBy t e.bytes image key padding modulus signature ∧
              m.signingKeySha256 = some key) := by
  simp only [inspectFirmware, bind_eq_ok, pure_eq_ok, inspectSignature_eq_ok, decodeAppField_eq_ok,
    verifyImageSignature_eq_ok]
  constructor
  · rintro ⟨⟨⟩, hheader, scan, hloop, unsignedEnd, hdigest, key, hkey, version, hversion, project, hproject,
      rfl⟩
    obtain ⟨e, rest, himage, rfl, rfl⟩ := EspImage.found hheader hloop hdigest
    obtain ⟨-, -, hoffset, -⟩ := e.scan_after
    rw [hoffset, e.slice_descriptor himage (by decide) (by decide)] at hversion hproject
    refine ⟨rfl, (inspectHeader_eq_ok.mp hheader).1, e, ⟨?_, hversion, hproject⟩, ?_⟩
    · show hexDigest (slice image (e.bytes.length - SHA256_BYTES) e.bytes.length) = _
      rw [e.slice_digest himage]
    · have htake : image.take e.bytes.length = e.bytes := by
        rw [himage]
        exact List.take_left
      rw [htake] at hkey
      rcases hkey with ⟨hlength, hrequired, hkey⟩ | ⟨-, digest, ⟨padding, modulus, signature, S⟩, hkey⟩
      · rw [← hlength, List.take_length] at htake
        exact .inl ⟨htake, hrequired, hkey⟩
      · exact .inr ⟨digest, padding, modulus, signature, S, hkey⟩
  · rintro ⟨rfl, hmax, e, hdescribes, hsigned⟩
    obtain ⟨rest, himage⟩ : ∃ rest, m.image = e.bytes ++ rest := by
      rcases hsigned with ⟨himage, -, -⟩ | ⟨key, padding, modulus, signature, S, -⟩
      · exact ⟨[], by rw [himage, List.append_nil]⟩
      · exact ⟨_, S.image.trans (List.append_assoc _ _ _)⟩
    obtain ⟨hheader, hloop, hdigest⟩ := e.inspected himage hmax
    obtain ⟨-, -, hoffset, -⟩ := e.scan_after
    refine ⟨(), hheader, _, hloop, _, hdigest, m.signingKeySha256, ?_, m.version, ?_, m.project, ?_, ?_⟩
    · have htake : m.image.take e.bytes.length = e.bytes := by
        rw [himage]
        exact List.take_left
      rw [htake]
      rcases hsigned with ⟨himage, hrequired, hkey⟩ | ⟨key, padding, modulus, signature, S, hkey⟩
      · exact .inl ⟨congrArg List.length himage, hrequired, hkey⟩
      · exact .inr ⟨S.length_ne, key, ⟨padding, modulus, signature, S⟩, hkey⟩
    · rw [hoffset, e.slice_descriptor himage (by decide) (by decide)]
      exact hdescribes.version
    · rw [hoffset, e.slice_descriptor himage (by decide) (by decide)]
      exact hdescribes.project
    · rw [e.slice_digest himage, ← hdescribes.digest]

/-! ## A signed file -/

/-- The number with these words of 256 bits, most significant first. -/
def ofWords (words : List Nat) : Nat := words.foldl (fun n word => n * 2 ^ 256 + word) 0

/-- The modulus of a key to pin. -/
def pinnedModulus : Nat := ofWords [
  0xf517ee063f9d8bbdccb67f60293a28f9247339cf31f8562d32ae8bbd22b602f3,
  0x2c497825b25eb02756620b6213466c9220578a74df421e84f0353147cea50cd9,
  0xa251a29a9b2cd2cc33d1565e4c2b038d09ea079f7f44c0a0cdbbd46a850e74c7,
  0x23be776b7e3a54492488539fcff88bdb43ac1fc4994fa049f4dcc90a97c81f6d,
  0xd56754fd47c73b5e5ac298fdf20c25de7410ae7573d5dcdd22fafce747f1e951,
  0x2279abbfd0488cb1334f034baf4f980cb09ccd3a5a98b5467eed6d8bfd6825fe,
  0x4b23b10eea4a28c21a7deda19d2ac52fe55a4adcedae85d1f8250a7e5aef14e6,
  0xa0c1a4a141c926053e4d3cd8a9a7bc9b46bcec5be7b22286b3ab4483b70270e1,
  0xb5a7d59520d20fb4ffbb88ba872762e356f5e148d038c2d348177ac14b312a27,
  0x28a57f66acdf5017efc05a8849069e64ab30c69d3aa4fa1063840c5d1200d04d,
  0x8d727fb0d6f9e5df048c9558f76f74bdeb177f8b876ccadfee5304782d2ca4fc,
  0xb2aa90eaa4fb350e5e1c2859fd903d4cd8e07fdc0bde4a37afe1d27f14f9f74d]

/-- The DER that OpenSSL prints for it. -/
def pinnedDer : ByteString :=
  [0x30, 0x82, 0x01, 0xA2, 0x30, 0x0D, 0x06, 0x09, 0x2A, 0x86, 0x48, 0x86, 0xF7, 0x0D, 0x01, 0x01, 0x01, 0x05,
    0x00, 0x03, 0x82, 0x01, 0x8F, 0x00, 0x30, 0x82, 0x01, 0x8A, 0x02, 0x82, 0x01, 0x81, 0x00] ++
    Sha256.beBytes 384 pinnedModulus ++ [0x02, 0x03, 0x01, 0x00, 0x01]

theorem rsaPublicDer_pinned : rsaPublicDer pinnedModulus 65537 = pinnedDer := by
  decide +kernel

theorem size_pinned : pinnedModulus.size = 3072 :=
  le_antisymm (Nat.size_le.mpr (by decide +kernel)) (Nat.lt_size.mpr (by decide +kernel))

/-- Version `0.4.0` of `ats_modbus_bacnet`: a descriptor and no code. -/
def release : EspImage where
  header := [0xE9, 1, 2, 0x5F, 0, 0, 0x40, 0x4F, 0xEE, 0, 0, 0, 18, 0, 0, 0, 0, 0x8F, 1, 0, 0, 0, 0, 1]
  first :=
    { address := [0x20, 0, 0, 0x40]
      data := [0x32, 0x54, 0xCD, 0xAB] ++ List.replicate 12 0 ++
        ([0x30, 0x2E, 0x34, 0x2E, 0x30] ++ List.replicate 27 0) ++
        ([0x61, 0x74, 0x73, 0x5F, 0x6D, 0x6F, 0x64, 0x62, 0x75, 0x73, 0x5F, 0x62, 0x61, 0x63, 0x6E, 0x65, 0x74] ++
          List.replicate 15 0) ++ List.replicate 176 0
      length_address := rfl
      length_data := by decide +kernel }
  others := []
  filler := List.replicate 15 0
  length_header := rfl
  magic := rfl
  count := rfl
  count_le := by decide
  chip := rfl
  flashSize := rfl
  hashed := rfl
  length_descriptor := by decide +kernel
  descriptor := by decide +kernel
  length_filler := by decide +kernel

/-- The release padded to a sector. -/
def paddedRelease : ByteString := release.bytes ++ List.replicate 3760 0xFF

/-- Its RSA-PSS signature, as the block has it. -/
def releaseSignature : ByteString := leBytes 384 <| ofWords [
  0xe84b580c015aa82b731d15db93b49f03df805f0ee3bb444d263f3d7515ac1c6d,
  0x1bdacb0e150c00d6a9e824914ce029e2cbd13774ac97291cd5f83f2405213dfe,
  0xf9b5c97f800ffba32ba3236e6a4003a190997117b5614b1eb1d6b653d03d1cda,
  0xa573345dc657b00a195a2f80b6cf4912e252a0101182552479e05fdefb031974,
  0xde6e3b8b4d9e073cfa5505b1b9e6a65eecf11da5cd6a56f35929b264dcdffbc3,
  0xb303dccb16a8cdc72658651d5f363fdcabbd833c46de4693ab99cce52704a2b4,
  0xd8606f6d540c594d097ceda583f3ca6718c2438f292b0c525c644b999712a6df,
  0x825c88577ee2498056db7a3ef6876ad1f302f591dd3a9b52912fccd0369b5e1e,
  0x07d57a05b74dc49ed9cc1cb301dd3cdbbe1833187905c852964e0a751bc3dd12,
  0x92c1e885c4df1917bb683ac0f8c0dae14326fe91f449875d2f7461cc07f50169,
  0x220c1d19d22398186b142065401ebeecc962f5b2b03521c69733c76d9e8482c6,
  0x27d001f637397f2b334a6a5dda73a990522bf8749bd4e1ccbe7a4d1f13e38f1d]

/-- OpenSSL with the pinned key, on this signature and this image. -/
def releaseTools : ImageTools where
  publicDer := some pinnedDer
  verify der signature image := der = pinnedDer ∧ signature = releaseSignature.reverse ∧ image = paddedRelease

def signedRelease : ByteString :=
  paddedRelease ++ signatureSector (sha256 paddedRelease) pinnedModulus releaseSignature

theorem length_paddedRelease : paddedRelease.length = SECTOR_BYTES := by
  rw [paddedRelease, List.length_append, EspImage.length_bytes, List.length_replicate]
  decide +kernel

theorem verified_release : releaseTools.verify (rsaPublicDer pinnedModulus 65537) releaseSignature.reverse
    paddedRelease = true := by
  unfold releaseTools
  rw [decide_eq_true_iff]
  exact ⟨rsaPublicDer_pinned, rfl, rfl⟩

theorem signedBy_release : SignedBy releaseTools release.bytes signedRelease
    (hexDigest (sha256 (keyBytes pinnedModulus))) 3760 pinnedModulus releaseSignature where
  image := by rw [← paddedRelease.eq_1, signedRelease]
  nonempty := fun h => by
    rw [← paddedRelease.eq_1] at h
    exact absurd (length_paddedRelease.symm.trans (congrArg List.length h)) (by decide)
  aligned := by rw [← paddedRelease.eq_1, length_paddedRelease, Nat.mod_self]
  size := size_pinned
  odd := by decide +kernel
  length_signature := Codec.length_leBytes
  trusted := congrArg some rsaPublicDer_pinned.symm
  verified := by rw [← paddedRelease.eq_1, verified_release]
  key := rfl

/-- The digests of the release and of the key. -/
theorem sha256_release : sha256 release.body =
    Sha256.beBytes 32 0x0d52d6ab4b1bb63896a3a00b3a0ff1550714aa3481a96f6b32da510ead7f7030 := by
  decide +kernel

theorem sha256_pinned : sha256 (keyBytes pinnedModulus) =
    Sha256.beBytes 32 0x8087973e2a642b5394aead963b8f6d343f879457288ad9f35323537ec1e85d44 := by
  rw [keyBytes, negatedInverse_eq (x := 0x7113e67b) (by decide +kernel) (by decide)]
  decide +kernel

/-- The signed release is accepted where a signature is required. -/
theorem firmware_accepted_signed : inspectFirmware releaseTools signedRelease true = .ok
    { image := signedRelease
      imageSha256 :=
        hexDigest (Sha256.beBytes 32 0x0d52d6ab4b1bb63896a3a00b3a0ff1550714aa3481a96f6b32da510ead7f7030)
      project := [0x61, 0x74, 0x73, 0x5F, 0x6D, 0x6F, 0x64, 0x62, 0x75, 0x73, 0x5F, 0x62, 0x61, 0x63, 0x6E, 0x65, 0x74]
      version := [0x30, 0x2E, 0x34, 0x2E, 0x30]
      signingKeySha256 := some
        (hexDigest (Sha256.beBytes 32 0x8087973e2a642b5394aead963b8f6d343f879457288ad9f35323537ec1e85d44)) } := by
  have hlength := (signedBy_release.split paddedRelease.eq_1.symm).1
  refine (firmware_accepted releaseTools signedRelease true _).mpr ⟨rfl, ?_, release, ⟨?_, ?_, ?_⟩,
    .inr ⟨_, _, _, _, signedBy_release, congrArg (fun digest => some (hexDigest digest)) sha256_pinned.symm⟩⟩
  · rw [hlength, length_paddedRelease]
    decide
  · exact congrArg hexDigest sha256_release.symm
  · exact ⟨by decide +kernel, List.cons_ne_nil _ _, by decide⟩
  · exact ⟨by decide +kernel, List.cons_ne_nil _ _, by decide⟩

end ModbusGateway
