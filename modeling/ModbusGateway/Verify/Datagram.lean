import ModbusGateway.Bacnet.Datagram

/-!
# The datagrams that are accepted

`Datagram.Intended` says which datagrams carry an NPDU for the gateway, and `Datagram.handled` what a
service handler sees of one. Both are functions of the datagram and of the gateway's own address: the
flag that `bip_port.c` keeps in a static is that of the datagram at hand, whatever came before.
-/

namespace ModbusGateway

/-- The big-endian number of two bytes of a list. -/
def unsigned16At (bytes : List UInt8) (i : Nat) : Nat :=
  (bytes.getD i 0).toNat * 256 + (bytes.getD (i + 1) 0).toNat

/-- The most significant byte comes first; what is encoded is a `uint16_t`. -/
structure Unsigned16.BigEndian (u : Unsigned16) : Prop where
  encode : ∀ n, u.encode n = #v[UInt8.ofNat (n / 256), UInt8.ofNat n]
  decode : ∀ high low, u.decode high low = high.toNat * 256 + low.toNat

/-- The MAC of an address: its four bytes and its port. -/
def BipAddress.mac (a : BipAddress) : BacnetAddress where
  macLen := 6
  mac := a.address.toList ++ [UInt8.ofNat (a.port / 256), UInt8.ofNat a.port]

theorem Unsigned16.BigEndian.macAddress_eq {u : Unsigned16} (hu : u.BigEndian) (a : BipAddress) :
    macAddress u a = a.mac := by
  unfold macAddress
  rw [hu.encode]
  rfl

/-- The header of a BVLC frame: the function and the length in the first four bytes. -/
structure DecodesHeader (bvlcDecodeHeader : BvlcDecodeHeader) : Prop where
  header : ∀ frame, 4 ≤ frame.length → frame.getD 0 0 = BVLL_TYPE_BACNET_IP →
    bvlcDecodeHeader frame = (4, frame.getD 1 0, unsigned16At frame 2)

/-! ## What is intended -/

namespace Datagram
variable (d : Datagram)

def function : UInt8 := d.bytes.getD 1 0

def declaredLength : Nat := unsigned16At d.bytes 2

/-- A forwarded frame carries the address it was sent from. -/
def forwarded : Bool := d.function == BVLC_FORWARDED_NPDU

def headerLength : Nat := if d.forwarded then 10 else 4

def npdu : List UInt8 := d.bytes.drop d.headerLength

/-- The sender, or the address inside a forwarded frame. -/
def source : BipAddress :=
  if d.forwarded then
    { address := .ofFn fun i => d.bytes.getD (4 + i) 0, port := unsigned16At d.bytes 8 }
  else d.sender

/-- A BVLC frame of one of the three kinds, from elsewhere, with an NPDU that fits. -/
structure Intended (own : BipAddress) (capacity : Nat) : Prop where
  type : d.bytes.getD 0 0 = BVLL_TYPE_BACNET_IP
  declared : d.declaredLength = d.bytes.length
  long : 6 ≤ d.bytes.length
  short : d.bytes.length ≤ 65535
  kind : d.function = BVLC_ORIGINAL_UNICAST_NPDU ∨ d.function = BVLC_ORIGINAL_BROADCAST_NPDU ∨
    d.function = BVLC_FORWARDED_NPDU ∧ 10 ≤ d.bytes.length
  elsewhere : d.source ≠ own
  npdu_long : 2 ≤ d.npdu.length
  npdu_fits : d.npdu.length ≤ capacity

/-- The NPDU is addressed to the global broadcast network: version, control, DNET, an empty DADR and the
hop count are there. -/
def globalBroadcast : Bool :=
  6 ≤ d.npdu.length && d.npdu.getD 1 0 &&& 0x20 != 0 && d.npdu.getD 2 0 == 0xff &&
    d.npdu.getD 3 0 == 0xff && d.npdu.getD 4 0 == 0

def broadcast : Bool :=
  d.function == BVLC_ORIGINAL_BROADCAST_NPDU || d.forwarded || d.globalBroadcast

/-- What a service handler sees of a datagram that is intended. -/
def handled : Handled where
  src := d.source.mac
  npdu := d.npdu
  broadcast := d.broadcast

end Datagram

/-- The gateway's own address and port. -/
def BipPort.own (s : BipPort) : BipAddress := ⟨s.address, s.port⟩

/-! ## The branches of the decoder -/

theorem bvlcOrigin_some {d : Datagram} (hu : u.BigEndian)
    (h : bvlcOrigin u s d.bytes d.sender d.function = some (s', source, offset)) :
    (d.function = BVLC_ORIGINAL_UNICAST_NPDU ∨ d.function = BVLC_ORIGINAL_BROADCAST_NPDU ∨
      d.function = BVLC_FORWARDED_NPDU ∧ 10 ≤ d.bytes.length) ∧
    source = d.source ∧ offset = d.headerLength ∧
    s' = { s with
      lastReceiveWasBroadcast := d.function == BVLC_ORIGINAL_BROADCAST_NPDU || d.forwarded } := by
  have hunicast : (BVLC_ORIGINAL_UNICAST_NPDU == BVLC_FORWARDED_NPDU) = false := rfl
  have hbroadcast : (BVLC_ORIGINAL_BROADCAST_NPDU == BVLC_FORWARDED_NPDU) = false := rfl
  unfold bvlcOrigin at h
  unfold Datagram.source Datagram.headerLength Datagram.forwarded
  split at h
  · next hkind =>
    cases h
    rw [hkind, hunicast]
    exact ⟨.inl rfl, rfl, rfl, rfl⟩
  split at h
  · next hkind =>
    cases h
    rw [hkind, hbroadcast]
    exact ⟨.inr (.inl rfl), rfl, rfl, rfl⟩
  split at h
  · next hkind =>
    cases h
    rw [hkind.1, hu.decode]
    exact ⟨.inr (.inr ⟨rfl, hkind.2⟩), rfl, rfl, rfl⟩
  · cases h

theorem bvlcOrigin_none {d : Datagram}
    (h : bvlcOrigin u s d.bytes d.sender d.function = none) :
    ¬ (d.function = BVLC_ORIGINAL_UNICAST_NPDU ∨ d.function = BVLC_ORIGINAL_BROADCAST_NPDU ∨
      d.function = BVLC_FORWARDED_NPDU ∧ 10 ≤ d.bytes.length) := by
  unfold bvlcOrigin at h
  split at h
  · cases h
  next hunicast =>
  split at h
  · cases h
  next hbroadcast =>
  split at h
  · cases h
  next hforwarded =>
  rintro (hkind | hkind | hkind)
  · exact hunicast hkind
  · exact hbroadcast hkind
  · exact hforwarded hkind

theorem Datagram.npdu_getD (d : Datagram) (i : Nat) :
    d.npdu.getD i 0 = d.bytes.getD (d.headerLength + i) 0 := by
  simp only [Datagram.npdu, List.getD_eq_getElem?_getD, List.getElem?_drop]

theorem Datagram.globalBroadcastAt_eq (d : Datagram) :
    globalBroadcastAt d.bytes d.headerLength d.npdu.length = d.globalBroadcast := by
  unfold globalBroadcastAt Datagram.globalBroadcast
  rw [d.npdu_getD, d.npdu_getD, d.npdu_getD, d.npdu_getD]

/-- A frame of a known kind is no shorter than its header. -/
theorem Datagram.headerLength_le {d : Datagram} (hlong : 6 ≤ d.bytes.length)
    (hkind : d.function = BVLC_ORIGINAL_UNICAST_NPDU ∨ d.function = BVLC_ORIGINAL_BROADCAST_NPDU ∨
      d.function = BVLC_FORWARDED_NPDU ∧ 10 ≤ d.bytes.length) : d.headerLength ≤ d.bytes.length := by
  unfold Datagram.headerLength Datagram.forwarded
  split
  · next hforwarded =>
    rcases hkind with hkind | hkind | hkind
    · rw [hkind] at hforwarded
      cases hforwarded
    · rw [hkind] at hforwarded
      cases hforwarded
    · exact hkind.2
  · omega

/-! ## The decoder -/

/-- What the decoder leaves behind. -/
structure Decodes (s : BipPort) (d : Datagram) (out : ReceiveBuffers) (capacity : Nat)
    (r : BipPort × ReceiveBuffers × Nat) : Prop where
  own : r.1.own = s.own
  accepted : 0 < r.2.2 ↔ d.Intended s.own capacity
  length : 0 < r.2.2 → r.2.2 = d.npdu.length
  pdu : 0 < r.2.2 → ∀ i < r.2.2, r.2.1.pdu i = d.npdu.getD i 0
  rest : ∀ i, r.2.2 ≤ i → r.2.1.pdu i = out.pdu i
  src : 0 < r.2.2 → r.2.1.src = d.source.mac
  broadcast : 0 < r.2.2 → r.1.lastReceiveWasBroadcast = d.broadcast

/-- A datagram that is rejected. -/
theorem Decodes.reject {d : Datagram} (hown : s'.own = s.own) (hpdu : out'.pdu = out.pdu)
    (h : ¬ d.Intended s.own capacity) : Decodes s d out capacity (s', out', 0) where
  own := hown
  accepted := ⟨fun hpos => absurd hpos (Nat.lt_irrefl 0), fun hintended => absurd hintended h⟩
  length hpos := absurd hpos (Nat.lt_irrefl 0)
  pdu hpos := absurd hpos (Nat.lt_irrefl 0)
  rest i _ := congrFun hpdu i
  src hpos := absurd hpos (Nat.lt_irrefl 0)
  broadcast hpos := absurd hpos (Nat.lt_irrefl 0)

theorem bipPortDecodeDatagram_decodes (hu : u.BigEndian) (hheader : DecodesHeader bvlcDecodeHeader) (s : BipPort)
    (d : Datagram) (out : ReceiveBuffers) (capacity : Nat) :
    Decodes s d out capacity
      (bipPortDecodeDatagram u bvlcDecodeHeader s d.bytes d.sender out capacity) := by
  unfold bipPortDecodeDatagram
  split
  · next hframe =>
    refine .reject rfl rfl fun H => ?_
    have hlong := H.long
    have hshort := H.short
    rcases hframe with hframe | hframe | hframe
    · omega
    · omega
    · exact hframe H.type
  next hframe =>
  have htype : d.bytes.getD 0 0 = BVLL_TYPE_BACNET_IP := by
    by_contra hne
    exact hframe (.inr (.inr hne))
  have hsize : 6 ≤ d.bytes.length ∧ d.bytes.length ≤ 65535 := by omega
  have hlength : u16 d.bytes.length = d.bytes.length := Nat.mod_eq_of_lt (by omega)
  rw [hheader.header d.bytes (by omega) htype, hlength]
  dsimp only
  split
  · next hdeclared =>
    refine .reject rfl rfl fun H => ?_
    rcases hdeclared with hfour | hdeclared
    · exact hfour rfl
    · exact hdeclared H.declared
  next hdeclared =>
  have hdeclared : d.declaredLength = d.bytes.length := by
    by_contra hne
    exact hdeclared (.inr hne)
  split
  · next horigin => exact .reject rfl rfl fun H => bvlcOrigin_none horigin H.kind
  next s' source offset horigin =>
  obtain ⟨hkind, rfl, rfl, rfl⟩ := bvlcOrigin_some hu horigin
  split
  · next hsame =>
    refine .reject rfl rfl fun H => H.elsewhere ?_
    have heta : d.source = ⟨d.source.address, d.source.port⟩ := rfl
    rw [heta, hsame.1, hsame.2]
    rfl
  next hother =>
  have hheaderLength := Datagram.headerLength_le hsize.1 hkind
  have hnpdu : u16 (d.bytes.length + 2 ^ 16 - d.headerLength) = d.npdu.length := by
    rw [Datagram.npdu, List.length_drop]
    unfold u16
    omega
  rw [hnpdu]
  split
  · next hlarge => exact .reject rfl rfl fun H => absurd H.npdu_fits (Nat.not_le.mpr hlarge)
  next hfits =>
  split
  · next hshort => exact .reject rfl rfl fun H => absurd H.npdu_long (Nat.not_le.mpr hshort)
  next hlong =>
  refine ⟨?_, ⟨fun _ => ?_, fun _ => ?_⟩, fun _ => rfl, fun _ i hi => ?_, fun i hi => ?_,
    fun _ => hu.macAddress_eq d.source, fun _ => ?_⟩
  · dsimp only
    split
    · rfl
    · rfl
  · refine ⟨htype, hdeclared, hsize.1, hsize.2, hkind, fun hown => hother ?_, Nat.le_of_not_lt hlong,
      Nat.le_of_not_lt hfits⟩
    rw [hown]
    exact ⟨rfl, rfl⟩
  · exact Nat.lt_of_lt_of_le (by decide) (Nat.le_of_not_lt hlong)
  · dsimp only at hi ⊢
    rw [if_pos hi, d.npdu_getD]
  · dsimp only at hi ⊢
    rw [if_neg (Nat.not_lt.mpr hi)]
  · dsimp only
    rw [d.globalBroadcastAt_eq]
    unfold Datagram.broadcast
    cases d.globalBroadcast with
    | true => exact (Bool.or_true _).symm
    | false => exact (Bool.or_false _).symm

/-! ## What the handlers see -/

theorem processDatagram_handled (hu : u.BigEndian) (hheader : DecodesHeader bvlcDecodeHeader) (capacity : Nat)
    (s : BipReceiver) (d : Datagram) :
    (processDatagram u bvlcDecodeHeader capacity s d).1.port.own = s.port.own ∧
    (d.Intended s.port.own capacity →
      (processDatagram u bvlcDecodeHeader capacity s d).2 = some d.handled) ∧
    (¬ d.Intended s.port.own capacity →
      (processDatagram u bvlcDecodeHeader capacity s d).2 = none) := by
  have H := bipPortDecodeDatagram_decodes hu hheader s.port d s.buffers capacity
  unfold processDatagram
  generalize bipPortDecodeDatagram u bvlcDecodeHeader s.port d.bytes d.sender s.buffers capacity = r at H
  dsimp only
  split
  · next hzero =>
    refine ⟨H.own, fun hintended => ?_, fun _ => rfl⟩
    have hpos := H.accepted.mpr hintended
    omega
  · next hne =>
    have hpos : 0 < r.2.2 := Nat.pos_of_ne_zero hne
    refine ⟨H.own, fun _ => ?_, fun hnot => absurd (H.accepted.mp hpos) hnot⟩
    have hnpdu : (List.range r.2.2).map r.2.1.pdu = d.npdu := by
      apply List.ext_getElem
      · rw [List.length_map, List.length_range, H.length hpos]
      · intro i hleft hright
        rw [List.length_map, List.length_range] at hleft
        rw [List.getElem_map, List.getElem_range, H.pdu hpos i hleft]
        exact (List.getElem_eq_getD 0).symm
    rw [hnpdu, H.src hpos, H.broadcast hpos]
    rfl

theorem processAll_own (hu : u.BigEndian) (hheader : DecodesHeader bvlcDecodeHeader) (capacity : Nat) (s : BipReceiver)
    (ds : List Datagram) : (processAll u bvlcDecodeHeader capacity s ds).port.own = s.port.own := by
  induction ds generalizing s with
  | nil => rfl
  | cons d ds ih => exact (ih _).trans (processDatagram_handled hu hheader capacity s d).1

/-- The decoder accepts exactly the datagrams that are intended, and hands on their NPDU and their source.
After any datagrams before it, a service handler sees of a datagram what the datagram itself says, the
broadcast flag included, and of the others nothing. -/
theorem datagram_accepted (hu : u.BigEndian) (hheader : DecodesHeader bvlcDecodeHeader) (capacity : Nat)
    (start : BipReceiver) (before : List Datagram) (d : Datagram) :
    (∀ s out, Decodes s d out capacity
      (bipPortDecodeDatagram u bvlcDecodeHeader s d.bytes d.sender out capacity)) ∧
    (d.Intended start.port.own capacity →
      (processDatagram u bvlcDecodeHeader capacity
        (processAll u bvlcDecodeHeader capacity start before) d).2 = some d.handled) ∧
    (¬ d.Intended start.port.own capacity →
      (processDatagram u bvlcDecodeHeader capacity
        (processAll u bvlcDecodeHeader capacity start before) d).2 = none) := by
  have hown := processAll_own hu hheader capacity start before
  obtain ⟨-, haccepted, hrejected⟩ :=
    processDatagram_handled hu hheader capacity (processAll u bvlcDecodeHeader capacity start before) d
  rw [hown] at haccepted hrejected
  exact ⟨fun s out => bipPortDecodeDatagram_decodes hu hheader s d out capacity, haccepted, hrejected⟩

/-- The encoding of the stack. -/
def bacnetUnsigned16 : Unsigned16 where
  encode n := #v[UInt8.ofNat (n / 256), UInt8.ofNat n]
  decode high low := high.toNat * 256 + low.toNat

theorem bacnetUnsigned16_bigEndian : bacnetUnsigned16.BigEndian := ⟨fun _ => rfl, fun _ _ => rfl⟩

/-- The header of a frame, as the stack reads it. -/
def readHeader : BvlcDecodeHeader := fun frame =>
  if 4 ≤ frame.length ∧ frame.getD 0 0 = BVLL_TYPE_BACNET_IP then
    (4, frame.getD 1 0, unsigned16At frame 2)
  else (0, 0, 0)

/-- A Who-Is for the global broadcast network in a unicast frame. -/
def globalWhoIs : Datagram where
  bytes := [0x81, 0x0a, 0, 12, 1, 0x20, 0xff, 0xff, 0, 255, 0x10, 8]
  sender := { address := #v[192, 168, 1, 9], port := 47809 }

def ownPort : BipReceiver := { port := { address := #v[192, 168, 1, 5], port := 47808 } }

theorem datagram_accepted_global :
    (processDatagram bacnetUnsigned16 readHeader 501
        (processAll bacnetUnsigned16 readHeader 501 ownPort [globalWhoIs]) globalWhoIs).2 =
      some globalWhoIs.handled ∧ globalWhoIs.handled.broadcast = true := by
  have hheader : DecodesHeader readHeader := ⟨fun frame hlong htype => if_pos ⟨hlong, htype⟩⟩
  have hintended : globalWhoIs.Intended ownPort.port.own 501 :=
    ⟨rfl, rfl, by decide, by decide, .inl rfl, by decide, by decide, by decide⟩
  obtain ⟨-, haccepted, -⟩ := datagram_accepted bacnetUnsigned16_bigEndian hheader 501 ownPort [globalWhoIs] globalWhoIs
  exact ⟨haccepted hintended, rfl⟩

end ModbusGateway
