import ModbusGateway.Theory.Crc
import ModbusGateway.Verify.HistoryCrash

/-!
# One changed byte of a stored history

A byte of the checksum field changes what is compared, any other byte changes what is computed.
-/

namespace ModbusGateway

/-! ## The checksum of the bytes -/

/-- The inner loop body of `blob_checksum`. -/
def crcBit (crc : UInt32) : UInt32 := (crc >>> 1) ^^^ (0xedb88320 &&& (0 - (crc &&& 1)))

/-- The mask is made of the low bit. -/
theorem mask_eq (c : BitVec 32) : 0#32 - (c &&& 1#32) = if c.getLsbD 0 then BitVec.allOnes 32 else 0 := by
  rw [BitVec.and_one_eq_setWidth_ofBool_getLsbD]
  cases c.getLsbD 0 <;> rfl

theorem crcBit_toBitVec (crc : UInt32) :
    (crcBit crc).toBitVec = Crc.bit 0xedb88320#32 crc.toBitVec := by
  have hmask : (crcBit crc).toBitVec =
      (crc.toBitVec >>> 1) ^^^ (0xedb88320#32 &&& (0#32 - (crc.toBitVec &&& 1#32))) := rfl
  rw [hmask, mask_eq, Crc.bit]
  split
  · rw [BitVec.and_allOnes]
  · rw [show (0 : BitVec 32) = 0#32 from rfl, BitVec.and_zero]

theorem crcBit_injective : Function.Injective crcBit := by
  intro c d heq
  have hbits := congrArg UInt32.toBitVec heq
  rw [crcBit_toBitVec, crcBit_toBitVec] at hbits
  exact UInt32.toBitVec_inj.mp (Crc.bit_injective (by decide) hbits)

theorem crcByte_injective_state (byte : UInt8) : Function.Injective (crcByte · byte) := by
  intro c d heq
  have hstart : c ^^^ byte.toUInt32 = d ^^^ byte.toUInt32 := crcBit_injective.iterate 8 heq
  exact (UInt32.xor_left_inj _).mp hstart

theorem crcByte_injective_byte (crc : UInt32) : Function.Injective (crcByte crc) := by
  intro a b heq
  have hstart : crc ^^^ a.toUInt32 = crc ^^^ b.toUInt32 := crcBit_injective.iterate 8 heq
  have hwide : a.toUInt32 = b.toUInt32 := (UInt32.xor_right_inj _).mp hstart
  have hnat := congrArg UInt32.toNat hwide
  rw [UInt8.toNat_toUInt32, UInt8.toNat_toUInt32] at hnat
  exact UInt8.toNat_inj.mp hnat

/-! ## The bytes of a blob -/

/-- The members before and after the checksum. -/
def headCodec : Codec (UInt32 × UInt32 × UInt32) 12 :=
  Codec.word32.pair (Codec.word32.pair Codec.word32)

open Codec in
def tailCodec : Codec (UInt32 × UInt32 × UInt32 × UInt32 × UInt64 × (Fin 32 → HistoryEvent)) 4120 :=
  word32.pair (word32.pair (word32.pair (word32.pair (word64.pair (array 32 eventCodec)))))

/-- The image of a blob around its checksum. -/
theorem encode_split (b : HistoryBlob) : blobCodec.encode b =
    headCodec.encode (b.magic, b.version, b.size) ++ (Codec.word32.encode b.checksum ++
      tailCodec.encode (b.bootId, b.count, b.next, b.reserved, b.totalErrors, b.events)) := by
  have hhead : headCodec.encode (b.magic, b.version, b.size) = Codec.word32.encode b.magic ++
      (Codec.word32.encode b.version ++ Codec.word32.encode b.size) := rfl
  rw [hhead, List.append_assoc, List.append_assoc]
  rfl

/-- The image of a blob with another checksum. -/
theorem encode_withChecksum (b : HistoryBlob) (c : UInt32) : blobCodec.encode (b.withChecksum c) =
    (blobCodec.encode b).take 12 ++ (Codec.word32.encode c ++ (blobCodec.encode b).drop 16) := by
  have hhead := headCodec.length_encode (b.magic, b.version, b.size)
  have hsum := Codec.word32.length_encode b.checksum
  have htake : (blobCodec.encode b).take 12 = headCodec.encode (b.magic, b.version, b.size) := by
    rw [encode_split b, List.take_left' hhead]
  have hdrop : (blobCodec.encode b).drop 16 =
      tailCodec.encode (b.bootId, b.count, b.next, b.reserved, b.totalErrors, b.events) := by
    rw [encode_split b, ← List.append_assoc, List.drop_left']
    rw [List.length_append, hhead, hsum]
  rw [htake, hdrop, encode_split]
  rfl

/-- The bytes of the checksum. -/
theorem encode_checksum (b : HistoryBlob) :
    Codec.word32.encode b.checksum = ((blobCodec.encode b).drop 12).take 4 := by
  rw [encode_split b, List.drop_left' (headCodec.length_encode _),
    List.take_left' (Codec.word32.length_encode _)]

/-- The bytes with those of the checksum zeroed. -/
def zeroSum (bytes : List UInt8) : List UInt8 :=
  bytes.take 12 ++ (Codec.word32.encode 0 ++ bytes.drop 16)

/-- `blob_checksum` as a function of the bytes. -/
theorem blobChecksum_eq (b : HistoryBlob) :
    blobChecksum b = ~~~ ((zeroSum (blobCodec.encode b)).foldl crcByte 0xffffffff) := by
  rw [blobChecksum, encode_withChecksum, zeroSum]

theorem zeroSum_inside {bytes : List UInt8} (hge : 12 ≤ i) (hlt : i < 16) :
    zeroSum (bytes.set i v) = zeroSum bytes := by
  rw [zeroSum, List.take_set_of_le hge, List.drop_set_of_lt hlt, zeroSum]

theorem zeroSum_outside {bytes : List UInt8} (hlen : 16 ≤ bytes.length) (hout : i < 12 ∨ 16 ≤ i) :
    zeroSum (bytes.set i v) = (zeroSum bytes).set i v ∧ (zeroSum bytes)[i]? = bytes[i]? := by
  have htake : (bytes.take 12).length = 12 := by
    rw [List.length_take]
    omega
  have hzero : (Codec.word32.encode 0).length = 4 := Codec.length_encode _ _
  obtain hlow | hhigh := hout
  · constructor
    · rw [zeroSum, List.take_set, List.drop_set_of_lt (by omega), zeroSum,
        List.set_append_left _ _ (by omega)]
    · rw [zeroSum, List.getElem?_append_left (by omega), List.getElem?_take_of_lt hlow]
  · have hindex : i - 12 - 4 = i - 16 := by omega
    constructor
    · rw [zeroSum, List.take_set_of_le (by omega), List.drop_set, if_neg (by omega), zeroSum,
        List.set_append_right _ _ (by omega), htake, List.set_append_right _ _ (by omega), hzero, hindex]
    · rw [zeroSum, List.getElem?_append_right (by omega), htake,
        List.getElem?_append_right (by omega), hzero, hindex, List.getElem?_drop]
      congr 1
      omega

/-! ## One changed byte -/

/-- A byte outside the checksum field changes what is computed. -/
theorem blobChecksum_outside {b b' : HistoryBlob} (hi : i < (blobCodec.encode b).length)
    (hout : i < 12 ∨ 16 ≤ i) (hne : (blobCodec.encode b)[i] ≠ v)
    (hset : blobCodec.encode b' = (blobCodec.encode b).set i v) :
    blobChecksum b' ≠ blobChecksum b := by
  have hlen : 16 ≤ (blobCodec.encode b).length := by
    rw [blobCodec.length_encode]
    decide
  obtain ⟨hzero, hsame⟩ := zeroSum_outside (v := v) hlen hout
  rw [List.getElem?_eq_getElem hi] at hsame
  obtain ⟨hi', hget⟩ := List.getElem?_eq_some_iff.mp hsame
  intro heq
  rw [blobChecksum_eq, blobChecksum_eq, hset, hzero] at heq
  have hfold := UInt32.not_inj.mp heq
  exact Crc.foldl_set_ne crcByte_injective_state crcByte_injective_byte hi' (hget ▸ hne) _ hfold

/-- The checksum field stays. -/
theorem checksum_outside {b b' : HistoryBlob} (hout : i < 12 ∨ 16 ≤ i)
    (hset : blobCodec.encode b' = (blobCodec.encode b).set i v) : b'.checksum = b.checksum := by
  have hbytes : Codec.word32.encode b'.checksum = Codec.word32.encode b.checksum := by
    rw [encode_checksum, encode_checksum, hset]
    obtain hlow | hhigh := hout
    · rw [List.drop_set_of_lt hlow]
    · rw [List.drop_set, if_neg (by omega), List.take_set_of_le (by omega)]
  have hdecode := congrArg Codec.word32.decode hbytes
  rwa [Codec.decode_encode, Codec.decode_encode] at hdecode

/-- Every history with one changed byte is rejected. -/
theorem validBlob_changed (hvalid : validBlob b = true) (hi : i < (blobCodec.encode b).length)
    (hne : v ≠ (blobCodec.encode b)[i]) :
    validBlob (blobCodec.decode ((blobCodec.encode b).set i v)) = false := by
  have hlength : ((blobCodec.encode b).set i v).length = 4136 := by
    rw [List.length_set, blobCodec.length_encode]
  have hset : blobCodec.encode (blobCodec.decode ((blobCodec.encode b).set i v)) =
      (blobCodec.encode b).set i v := by
    rw [blobCodec.encode_decode _ (Nat.le_of_eq hlength.symm)]
    exact List.take_of_length_le (Nat.le_of_eq hlength)
  generalize blobCodec.decode ((blobCodec.encode b).set i v) = b' at hset
  have hsum := ((validBlob_iff b).mp hvalid).1
  rw [Bool.eq_false_iff]
  intro hvalid'
  have hsum' := ((validBlob_iff b').mp hvalid').1
  by_cases hout : i < 12 ∨ 16 ≤ i
  · rw [checksum_outside hout hset, hsum] at hsum'
    exact blobChecksum_outside hi hout hne.symm hset hsum'.symm
  · -- what is computed stays, so the field must have stayed, and with it the byte
    have hcomputed : blobChecksum b' = blobChecksum b := by
      rw [blobChecksum_eq, hset, zeroSum_inside (by omega) (by omega), ← blobChecksum_eq]
    have hfield : b'.checksum = b.checksum := hsum'.trans (hcomputed.trans hsum.symm)
    have hbytes := congrArg Codec.word32.encode hfield
    rw [encode_checksum, encode_checksum, hset] at hbytes
    have hget := congrArg (·[i - 12]?) hbytes
    have hindex : 12 + (i - 12) = i := by omega
    simp only [List.getElem?_take_of_lt (show i - 12 < 4 by omega), List.getElem?_drop, hindex,
      List.getElem?_set_self hi, List.getElem?_eq_getElem hi] at hget
    exact hne (Option.some.inj hget)

/-- Two errors of the first boot. -/
def twoErrors : HistoryBlob :=
  appendRecord (appendRecord { HistoryBlob.fresh with bootId := 1 } refusedCall) { refusedCall with uptimeMs := 300 }

theorem twoErrors_consistent : twoErrors.Consistent :=
  ((HistoryBlob.fresh_consistent.boot (by decide)).append (by decide) (by decide) (by decide)).append
    (by decide) (by decide) (by decide)

/-- The uptime of the second error, and the padding of the last slot of the ring. -/
theorem validBlob_changed_event :
    validBlob (blobCodec.decode ((blobCodec.encode (sealBlob twoErrors)).set 176 0x2D)) = false ∧
      validBlob (blobCodec.decode ((blobCodec.encode (sealBlob twoErrors)).set 4135 1)) = false := by
  have hvalid := validBlob_seal twoErrors_consistent
  have huptime : (blobCodec.encode (sealBlob twoErrors))[176]? = some 0x2C := by decide +kernel
  have hpad : (blobCodec.encode (sealBlob twoErrors))[4135]? = some 0 := by decide +kernel
  obtain ⟨hlt, huptime⟩ := List.getElem?_eq_some_iff.mp huptime
  obtain ⟨hlast, hpad⟩ := List.getElem?_eq_some_iff.mp hpad
  exact ⟨validBlob_changed hvalid hlt (by rw [huptime]; decide),
    validBlob_changed hvalid hlast (by rw [hpad]; decide)⟩

end ModbusGateway
