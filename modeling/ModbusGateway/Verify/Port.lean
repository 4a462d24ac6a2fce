import ModbusGateway.Bacnet.Port
import ModbusGateway.Theory.Subnet
import ModbusGateway.Verify.Datagram

/-!
# Subnet and datagrams of the port

`bip_port_configure` and `bip_set_subnet_prefix` describe one subnet: the prefix is that of the mask, and
the broadcast address is the highest address of the subnet. What `bip_send_pdu` sends is what
`bip_port_decode_datagram` takes apart at the other end.
-/

namespace ModbusGateway
open Subnet

/-! ## Words in network order -/

theorem ntohl_htonl (w : BitVec 32) : ntohl (htonl w) = w := by
  refine BitVec.eq_of_getLsbD_eq fun i hi => ?_
  unfold ntohl htonl
  simp only [BitVec.getLsbD_append, BitVec.getLsbD_extractLsb', Vector.getElem_mk,
    List.getElem_toArray, List.getElem_cons_zero, List.getElem_cons_succ]
  grind

theorem append_inj {a a' : BitVec m} {b b' : BitVec n} (h : a ++ b = a' ++ b') : a = a' ∧ b = b' := by
  have hleft := congrArg (BitVec.extractLsb' n m) h
  have hright := congrArg (BitVec.extractLsb' 0 n) h
  rw [BitVec.extractLsb'_append_eq_left, BitVec.extractLsb'_append_eq_left] at hleft
  rw [BitVec.extractLsb'_append_eq_right, BitVec.extractLsb'_append_eq_right] at hright
  exact ⟨hleft, hright⟩

theorem ntohl_injective {a b : Ipv4} (h : ntohl a = ntohl b) : a = b := by
  obtain ⟨h, h3⟩ := append_inj h
  obtain ⟨h, h2⟩ := append_inj h
  obtain ⟨h0, h1⟩ := append_inj h
  ext i hi
  have hbyte : a[i] = b[i] := by
    match i, hi with
    | 0, _ => exact UInt8.toBitVec_inj.mp h0
    | 1, _ => exact UInt8.toBitVec_inj.mp h1
    | 2, _ => exact UInt8.toBitVec_inj.mp h2
    | 3, _ => exact UInt8.toBitVec_inj.mp h3
  rw [hbyte]

theorem htonl_ntohl (a : Ipv4) : htonl (ntohl a) = a := ntohl_injective (ntohl_htonl _)

theorem ntohl_directedBroadcast (ip mask : Ipv4) :
    ntohl (directedBroadcast ip mask) = highest (ntohl ip) (ntohl mask) := by
  have hbyte (i : Nat) (hi : i < 4) : (directedBroadcast ip mask)[i].toBitVec =
      highest ip[i].toBitVec mask[i].toBitVec := by
    simp [directedBroadcast, highest]
  unfold ntohl
  rw [hbyte 0, hbyte 1, hbyte 2, hbyte 3, ← highest_append, ← highest_append]
  exact (highest_append _ _ _ _).symm

/-! ## The prefix of a mask -/

theorem topBit (mask : BitVec 32) : mask &&& 0x80000000#32 ≠ 0#32 ↔ mask.getMsbD 0 = true := by
  have hpow : 0x80000000#32 = BitVec.twoPow 32 31 := rfl
  rw [hpow, BitVec.and_twoPow, BitVec.getMsbD_eq_getLsbD]
  cases h : mask.getLsbD 31 with
  | false => simp
  | true => simp

/-- The loop shifts out leading ones, as many as there are or as there are turns. -/
theorem prefixLoop_eq (turns : Nat) (mask : BitVec 32) (bits : Nat) :
    ∃ k ≤ turns, prefixLoop turns mask bits = (mask <<< k, bits + k) ∧
      (∀ i < k, mask.getMsbD i = true) ∧ (k = turns ∨ mask.getMsbD k = false) := by
  induction turns generalizing mask bits with
  | zero =>
    refine ⟨0, Nat.le_refl 0, ?_, fun i hi => absurd hi (Nat.not_lt_zero i), .inl rfl⟩
    rw [BitVec.shiftLeft_zero]
    rfl
  | succ turns ih =>
    rw [prefixLoop]
    split
    · next hone =>
      obtain ⟨k, hk, heq, hones, hend⟩ := ih (mask <<< 1) (bits + 1)
      have hnext (i : Nat) : (mask <<< 1).getMsbD i = mask.getMsbD (i + 1) := by
        rw [BitVec.getMsbD_shiftLeft, Nat.add_comm]
      refine ⟨k + 1, Nat.succ_le_succ hk, ?_, fun i hi => ?_, ?_⟩
      · rw [heq, ← BitVec.shiftLeft_add, Nat.add_comm 1 k, Nat.add_assoc, Nat.add_comm 1 k]
      · cases i with
        | zero => exact (topBit mask).mp hone
        | succ i => exact (hnext i).symm.trans (hones i (Nat.lt_of_succ_lt_succ hi))
      · exact hend.imp (congrArg (· + 1)) fun hzero => (hnext k).symm.trans hzero
    · next hzero =>
      refine ⟨0, Nat.zero_le _, ?_, fun i hi => absurd hi (Nat.not_lt_zero i), .inr ?_⟩
      · rw [BitVec.shiftLeft_zero]
        rfl
      · exact Bool.eq_false_iff.mpr (mt (topBit mask).mpr hzero)

/-- A mask that a shift empties, its bits before that being one, is the mask of a prefix. -/
theorem eq_prefixMask {mask : BitVec 32} (hk : k ≤ 32) (hones : ∀ i < k, mask.getMsbD i = true)
    (hempty : mask <<< k = 0#32) : mask = prefixMask 32 k := by
  refine BitVec.eq_of_getMsbD_eq fun i hi => ?_
  rw [getMsbD_prefixMask hk]
  by_cases hik : i < k
  · rw [hones i hik, decide_eq_true hik]
  · rw [decide_eq_false hik]
    have hbit := congrArg (fun m => BitVec.getMsbD m (i - k)) hempty
    simp only [BitVec.getMsbD_shiftLeft, BitVec.getMsbD_zero] at hbit
    rwa [Nat.sub_add_cancel (Nat.le_of_not_lt hik)] at hbit

/-- The prefix is the one the mask belongs to, and 0 for a mask that belongs to none. -/
theorem contiguousPrefix_eq (mask : Ipv4) (hpos : 0 < bits) :
    contiguousPrefix mask = bits ↔ bits ≤ 32 ∧ ntohl mask = prefixMask 32 bits := by
  obtain ⟨k, hk, heq, hones, hend⟩ := prefixLoop_eq 32 (ntohl mask) 0
  unfold contiguousPrefix
  rw [heq, Nat.zero_add]
  dsimp only
  constructor
  · intro h
    split at h
    · next hempty =>
      subst h
      exact ⟨hk, eq_prefixMask hk hones hempty⟩
    · exact absurd h (Nat.ne_of_lt hpos)
  · rintro ⟨hbits, hmask⟩
    have hkbits : k = bits := by
      have hbit (i : Nat) : (ntohl mask).getMsbD i = decide (i < bits) := by
        rw [hmask, getMsbD_prefixMask hbits]
      have hle : k ≤ bits := by
        by_contra hlt
        have hone := hones bits (Nat.lt_of_not_le hlt)
        rw [hbit, decide_eq_true_eq] at hone
        omega
      rcases hend with hfull | hzero
      · omega
      · rw [hbit, decide_eq_false_iff_not] at hzero
        omega
    subst hkbits
    rw [hmask, if_pos]
    refine BitVec.eq_of_getMsbD_eq fun i _ => ?_
    rw [BitVec.getMsbD_shiftLeft, getMsbD_prefixMask hbits, BitVec.getMsbD_zero]
    exact decide_eq_false (by omega)

/-! ## One subnet -/

/-- The addresses that share the first bits with `ip`. -/
def sharing (bits : Nat) (ip : BitVec 32) : Set (BitVec 32) :=
  fun a => ∀ i < bits, a.getMsbD i = ip.getMsbD i

theorem members_prefixMask (hbits : bits ≤ 32) (ip : BitVec 32) :
    members ip (prefixMask 32 bits) = sharing bits ip :=
  Set.ext fun _ => mem_members_prefixMask hbits

theorem directedBroadcast_greatest (ip mask : Ipv4) :
    IsGreatest (members (ntohl ip) (ntohl mask)) (ntohl (directedBroadcast ip mask)) := by
  rw [ntohl_directedBroadcast]
  exact isGreatest_highest _ _

/-- The mask that `bip_set_subnet_prefix` computes. -/
theorem bipSetSubnetPrefix_eq (s : BipStatics) (hpos : 0 < bits) (hbits : bits ≤ 32) :
    bipSetSubnetPrefix s bits =
      ({ s with
          subnetPrefix := bits
          broadcast :=
            { s.broadcast with
              address := directedBroadcast s.address (htonl (prefixMask 32 bits)) } },
        true) := by
  unfold bipSetSubnetPrefix
  rw [if_neg (by omega)]
  have hmask : (if bits = 32 then BitVec.allOnes 32 else BitVec.allOnes 32 <<< (32 - bits)) =
      prefixMask 32 bits := by
    split
    · next hfull =>
      subst hfull
      exact prefixMask_full.symm
    · rfl
  dsimp only
  rw [hmask]

/-- The prefix after `bip_port_configure` is that of the mask, when it has one, and the broadcast address
is the highest of the addresses under the mask. `bip_set_subnet_prefix` makes it the highest of those
with the first bits of the own address, and given the prefix that is set it changes nothing. -/
theorem subnet_described (s : BipStatics) (ip netmask gateway : Ipv4) (port : Nat) :
    (∀ bits, 0 < bits →
      ((bipPortConfigure s ip netmask gateway port).subnetPrefix = bits ↔
        bits ≤ 32 ∧ ntohl netmask = prefixMask 32 bits)) ∧
    IsGreatest (members (ntohl ip) (ntohl netmask))
      (ntohl (bipPortConfigure s ip netmask gateway port).broadcast.address) ∧
    (∀ bits, (bipSetSubnetPrefix s bits).2 = true ↔ 0 < bits ∧ bits ≤ 32) ∧
    (∀ bits, 0 < bits → bits ≤ 32 →
      (bipSetSubnetPrefix s bits).1.subnetPrefix = bits ∧
      IsGreatest (sharing bits (ntohl s.address))
        (ntohl (bipSetSubnetPrefix s bits).1.broadcast.address)) ∧
    (∀ bits, 0 < bits → (bipPortConfigure s ip netmask gateway port).subnetPrefix = bits →
      bipSetSubnetPrefix (bipPortConfigure s ip netmask gateway port) bits =
        (bipPortConfigure s ip netmask gateway port, true)) := by
  refine ⟨fun bits hpos => contiguousPrefix_eq netmask hpos, directedBroadcast_greatest ip netmask,
    fun bits => ⟨fun h => ?_, fun h => ?_⟩, fun bits hpos hbits => ?_, fun bits hpos hset => ?_⟩
  · unfold bipSetSubnetPrefix at h
    split at h
    · cases h
    · omega
  · rw [bipSetSubnetPrefix_eq s h.1 h.2]
  · rw [bipSetSubnetPrefix_eq s hpos hbits]
    refine ⟨rfl, ?_⟩
    have hgreatest := directedBroadcast_greatest s.address (htonl (prefixMask 32 bits))
    rwa [ntohl_htonl, members_prefixMask hbits] at hgreatest
  · obtain ⟨hbits, hmask⟩ := (contiguousPrefix_eq netmask hpos).mp hset
    rw [bipSetSubnetPrefix_eq _ hpos hbits, ← hmask, htonl_ntohl]
    unfold bipPortConfigure at hset ⊢
    dsimp only at hset ⊢
    rw [hset]

/-! ## From one port to another -/

/-- The frame of an original NPDU: type, function and length, then the NPDU. -/
def bvlcFrame (function : UInt8) (npdu : List UInt8) : List UInt8 :=
  [BVLL_TYPE_BACNET_IP, function, .ofNat ((npdu.length + 4) / 256), .ofNat (npdu.length + 4)] ++ npdu

/-- What the encoders of the stack write when the frame has room. -/
structure EncodesBvlc (encode : BvlcEncode) : Prop where
  encodes : ∀ function capacity npdu,
    function = BVLC_ORIGINAL_UNICAST_NPDU ∨ function = BVLC_ORIGINAL_BROADCAST_NPDU →
    npdu.length + 4 ≤ capacity → npdu.length + 4 ≤ 65535 →
    encode function capacity npdu = bvlcFrame function npdu

/-- `bip_send_pdu` takes the branch of a broadcast. -/
def BacnetAddress.isBroadcast (dest : BacnetAddress) : Prop :=
  dest.net = BACNET_BROADCAST_NETWORK ∨ dest.macLen = 0 ∨
    (0 < dest.net ∧ dest.len = 0 ∧ dest.macLen ≠ 6)

instance (dest : BacnetAddress) : Decidable dest.isBroadcast :=
  inferInstanceAs (Decidable (_ ∨ _))

def BacnetAddress.function (dest : BacnetAddress) : UInt8 :=
  if dest.isBroadcast then BVLC_ORIGINAL_BROADCAST_NPDU else BVLC_ORIGINAL_UNICAST_NPDU

/-- Where a frame for `dest` goes. -/
def BipStatics.target (s : BipStatics) (dest : BacnetAddress) : BipAddress :=
  if dest.isBroadcast then ⟨s.broadcast.address, bipGetBroadcastPort s⟩
  else ⟨macIp dest.mac, unsigned16At dest.mac 4⟩

theorem BacnetAddress.function_original (dest : BacnetAddress) :
    dest.function = BVLC_ORIGINAL_UNICAST_NPDU ∨ dest.function = BVLC_ORIGINAL_BROADCAST_NPDU := by
  unfold BacnetAddress.function
  split
  · exact .inr rfl
  · exact .inl rfl

theorem bvlcFrame_ne_nil : bvlcFrame function npdu ≠ [] := by
  unfold bvlcFrame
  exact List.cons_ne_nil _ _

theorem macIp_mac (a : BipAddress) : macIp a.mac.mac = a.address := by
  ext i hi
  have hlt : i < a.address.toList.length := by rw [Vector.length_toList]; exact hi
  simp [macIp, BipAddress.mac, List.getD_eq_getElem?_getD, List.getElem?_append_left hlt,
    Vector.getElem?_eq_getElem hi]

theorem toNat_high_low (hn : n < 65536) :
    (UInt8.ofNat (n / 256)).toNat * 256 + (UInt8.ofNat n).toNat = n := by
  rw [UInt8.toNat_ofNat', UInt8.toNat_ofNat']
  omega

theorem unsigned16At_mac (a : BipAddress) (hport : a.port < 65536) :
    unsigned16At a.mac.mac 4 = a.port := by
  have hlen : a.address.toList.length = 4 := Vector.length_toList
  unfold unsigned16At BipAddress.mac
  simp only [List.getD_eq_getElem?_getD, List.getElem?_append_right (Nat.le_of_eq hlen),
    List.getElem?_append_right (Nat.le_succ_of_le (Nat.le_of_eq hlen)), hlen]
  exact toNat_high_low hport

/-- An address that was read from a datagram leads back to where it came from. -/
theorem target_mac (s : BipStatics) (a : BipAddress) (hport : a.port < 65536) :
    s.target a.mac = a := by
  have hunicast : ¬ a.mac.isBroadcast := by
    rintro (hnet | hmac | hnet)
    · exact absurd hnet (by decide : (0 : Nat) ≠ BACNET_BROADCAST_NETWORK)
    · exact absurd hmac (by decide : (6 : Nat) ≠ 0)
    · exact absurd hnet.1 (Nat.lt_irrefl 0)
  unfold BipStatics.target
  rw [if_neg hunicast, macIp_mac, unsigned16At_mac a hport]

theorem bipSendPdu_eq (hu : u.BigEndian) (hencode : EncodesBvlc encode) (hfit : maxPdu + 4 ≤ mpduMax)
    (hmpdu : mpduMax ≤ 65535) (s : BipStatics) (dest : BacnetAddress) (pdu : List UInt8) :
    bipSendPdu u encode maxPdu mpduMax s dest pdu =
      if s.socket ∧ pdu.length ≤ maxPdu ∧ (dest.isBroadcast ∨ dest.macLen = 6) then
        some (s.target dest, bvlcFrame dest.function pdu)
      else none := by
  unfold bipSendPdu bipSendFrame
  split
  · next hlong => rw [if_neg fun h => absurd h.2.1 (Nat.not_le.mpr hlong)]; rfl
  next hlong =>
  have hroom : pdu.length + 4 ≤ mpduMax := by omega
  have hframe := hencode.encodes dest.function mpduMax pdu dest.function_original hroom (by omega)
  have hsend (target : BipAddress) (frame : List UInt8) (hframe : frame = bvlcFrame dest.function pdu) :
      ((some (target, frame)).filter fun f => f.2 ≠ []).bind (fun f => bipSendMpdu s f.1 f.2) =
        if s.socket then some (target, bvlcFrame dest.function pdu) else none := by
    subst hframe
    rw [Option.filter_some, if_pos (decide_eq_true bvlcFrame_ne_nil)]
    unfold bipSendMpdu
    cases s.socket with
    | true => simp [bvlcFrame_ne_nil]
    | false => simp
  by_cases hbroadcast : dest.isBroadcast
  · have hfunction : dest.function = BVLC_ORIGINAL_BROADCAST_NPDU := if_pos hbroadcast
    have htarget : s.target dest = ⟨s.broadcast.address, bipGetBroadcastPort s⟩ := if_pos hbroadcast
    have hcond := hbroadcast
    unfold BacnetAddress.isBroadcast at hcond
    dsimp only
    rw [if_pos hcond, hsend _ _ (hfunction ▸ hframe), htarget]
    simp only [Nat.le_of_not_lt hlong, hbroadcast, true_or, and_true]
  · have hfunction : dest.function = BVLC_ORIGINAL_UNICAST_NPDU := if_neg hbroadcast
    have htarget : s.target dest = ⟨macIp dest.mac, unsigned16At dest.mac 4⟩ := if_neg hbroadcast
    have hcond := hbroadcast
    unfold BacnetAddress.isBroadcast at hcond
    dsimp only
    rw [if_neg hcond, hu.decode]
    by_cases hmac : dest.macLen = 6
    · rw [if_pos hmac, hsend _ _ (hfunction ▸ hframe), htarget]
      simp only [Nat.le_of_not_lt hlong, hmac, or_true, and_true]
      rfl
    · rw [if_neg hmac, if_neg fun h => h.2.2.elim hbroadcast hmac]
      rfl

theorem bvlcFrame_npdu (hfunction : function ≠ BVLC_FORWARDED_NPDU) (npdu : List UInt8)
    (sender : BipAddress) :
    (⟨bvlcFrame function npdu, sender⟩ : Datagram).npdu = npdu ∧
    (⟨bvlcFrame function npdu, sender⟩ : Datagram).source = sender := by
  have hforwarded : (⟨bvlcFrame function npdu, sender⟩ : Datagram).forwarded = false :=
    beq_false_of_ne hfunction
  unfold Datagram.npdu Datagram.headerLength Datagram.source
  rw [hforwarded]
  exact ⟨rfl, rfl⟩

/-- Which ports a frame is for: all but the one it comes from. -/
theorem bvlcFrame_intended
    (hfunction : function = BVLC_ORIGINAL_UNICAST_NPDU ∨ function = BVLC_ORIGINAL_BROADCAST_NPDU)
    (hlong : 2 ≤ npdu.length) (hcapacity : npdu.length ≤ capacity) (hshort : npdu.length + 4 ≤ 65535)
    (sender own : BipAddress) :
    (⟨bvlcFrame function npdu, sender⟩ : Datagram).Intended own capacity ↔ sender ≠ own := by
  have hforwarded : function ≠ BVLC_FORWARDED_NPDU := by
    rcases hfunction with rfl | rfl
    · decide
    · decide
  obtain ⟨hnpdu, hsource⟩ := bvlcFrame_npdu hforwarded npdu sender
  have hlength : (bvlcFrame function npdu).length = npdu.length + 4 := List.length_append.trans (Nat.add_comm ..)
  constructor
  · intro h
    have helsewhere := h.elsewhere
    rwa [hsource] at helsewhere
  · intro hne
    refine ⟨rfl, ?_, ?_, ?_, ?_, ?_, ?_, ?_⟩
    · rw [hlength]
      exact toNat_high_low (by omega)
    · rw [hlength]
      omega
    · rw [hlength]
      exact hshort
    · exact hfunction.imp_right .inl
    · rwa [hsource]
    · rwa [hnpdu]
    · rwa [hnpdu]

/-- The NPDU asks for the global broadcast network. -/
def globalBroadcastNpdu (npdu : List UInt8) : Bool :=
  6 ≤ npdu.length && npdu.getD 1 0 &&& 0x20 != 0 && npdu.getD 2 0 == 0xff && npdu.getD 3 0 == 0xff &&
    npdu.getD 4 0 == 0

theorem bvlcFrame_handled (dest : BacnetAddress) (npdu : List UInt8) (sender : BipAddress) :
    (⟨bvlcFrame dest.function npdu, sender⟩ : Datagram).handled =
      { src := sender.mac
        npdu := npdu
        broadcast := dest.isBroadcast || globalBroadcastNpdu npdu } := by
  have hfunction : dest.function ≠ BVLC_FORWARDED_NPDU := by
    rcases dest.function_original with h | h
    · rw [h]
      decide
    · rw [h]
      decide
  obtain ⟨hnpdu, hsource⟩ := bvlcFrame_npdu hfunction npdu sender
  have hforwarded : (⟨bvlcFrame dest.function npdu, sender⟩ : Datagram).forwarded = false :=
    beq_false_of_ne hfunction
  have hbroadcast : (dest.function == BVLC_ORIGINAL_BROADCAST_NPDU) = decide dest.isBroadcast := by
    unfold BacnetAddress.function
    split
    · next h => rw [decide_eq_true h]; rfl
    · next h => rw [decide_eq_false h]; rfl
  have hflag : (⟨bvlcFrame dest.function npdu, sender⟩ : Datagram).globalBroadcast =
      globalBroadcastNpdu npdu := by
    unfold Datagram.globalBroadcast
    rw [hnpdu]
    rfl
  unfold Datagram.handled Datagram.broadcast
  rw [hsource, hnpdu, hforwarded, hflag, Bool.or_false]
  exact congrArg (fun b => (⟨sender.mac, npdu, b || globalBroadcastNpdu npdu⟩ : Handled)) hbroadcast

/-- What one port sends is received as it was sent. A send takes place when the socket is open, the NPDU
fits and the address has a MAC or is a broadcast. It goes to the broadcast address of the subnet, or to
the address in the MAC, so that an answer to the source of a datagram goes back to its sender. Every
other port hands on the same NPDU with the address of the sender, flagged as a broadcast when it was one;
the sender itself drops it. -/
theorem sent_received (hu : u.BigEndian) (hencode : EncodesBvlc encode) (hheader : DecodesHeader bvlcDecodeHeader)
    (hfit : maxPdu + 4 ≤ mpduMax) (hmpdu : mpduMax ≤ 65535) (s : BipStatics) :
    (∀ dest pdu, (bipSendPdu u encode maxPdu mpduMax s dest pdu).isSome ↔
      s.socket ∧ pdu.length ≤ maxPdu ∧ (dest.isBroadcast ∨ dest.macLen = 6)) ∧
    (∀ a : BipAddress, a.port < 65536 → s.target (macAddress u a) = a) ∧
    s.target (bipGetBroadcastAddress u s) = ⟨s.broadcast.address, bipGetBroadcastPort s⟩ ∧
    ∀ dest pdu target frame, bipSendPdu u encode maxPdu mpduMax s dest pdu = some (target, frame) →
      2 ≤ pdu.length →
      target = s.target dest ∧
      ∀ r : BipReceiver,
        (r.port.own = s.own →
          (processDatagram u bvlcDecodeHeader maxPdu r ⟨frame, s.own⟩).2 = none) ∧
        (r.port.own ≠ s.own →
          (processDatagram u bvlcDecodeHeader maxPdu r ⟨frame, s.own⟩).2 =
            some
              { src := bipGetMyAddress u s
                npdu := pdu
                broadcast := dest.isBroadcast || globalBroadcastNpdu pdu }) := by
  refine ⟨fun dest pdu => ?_, fun a => hu.macAddress_eq a ▸ target_mac s a, if_pos (.inl rfl),
    fun dest pdu target frame hsend hlong => ?_⟩
  · rw [bipSendPdu_eq hu hencode hfit hmpdu]
    split
    · next h => exact ⟨fun _ => h, fun _ => rfl⟩
    · next h => exact ⟨fun hsome => (by cases hsome), fun hcond => absurd hcond h⟩
  rw [bipSendPdu_eq hu hencode hfit hmpdu] at hsend
  split at hsend
  · next hcond =>
    cases hsend
    refine ⟨rfl, fun r => ?_⟩
    have hintended := bvlcFrame_intended dest.function_original hlong hcond.2.1
      (by omega) s.own r.port.own
    obtain ⟨-, haccept, hreject⟩ := processDatagram_handled hu hheader maxPdu r
      ⟨bvlcFrame dest.function pdu, s.own⟩
    refine ⟨fun hown => hreject fun h => hintended.mp h hown.symm, fun hne => ?_⟩
    rw [haccept (hintended.mpr (Ne.symm hne)), bvlcFrame_handled, bipGetMyAddress, hu.macAddress_eq]
    rfl
  · cases hsend

/-- The encoders of the stack: nothing when the frame has no room. -/
def encodeOriginal : BvlcEncode := fun function capacity npdu =>
  if npdu.length + 4 ≤ capacity ∧ npdu.length + 4 ≤ 65535 then bvlcFrame function npdu else []

/-- The port of a gateway with an open socket. -/
def openPort : BipStatics :=
  { bipPortConfigure bipStatics #v[192, 168, 1, 7] #v[255, 255, 255, 0] #v[192, 168, 1, 1] 47809 with
    socket := true }

/-- A Read-Property request, which another gateway is sent. -/
theorem sent_received_request :
    bipSendPdu bacnetUnsigned16 encodeOriginal 480 484 openPort
        (macAddress bacnetUnsigned16 ⟨#v[192, 168, 1, 5], 47808⟩) [1, 4, 0, 5, 1, 12] =
      some (⟨#v[192, 168, 1, 5], 47808⟩, [0x81, 0x0a, 0, 10, 1, 4, 0, 5, 1, 12]) ∧
    (processDatagram bacnetUnsigned16 readHeader 480 ownPort
        ⟨[0x81, 0x0a, 0, 10, 1, 4, 0, 5, 1, 12], openPort.own⟩).2 =
      some
        { src := bipGetMyAddress bacnetUnsigned16 openPort
          npdu := [1, 4, 0, 5, 1, 12]
          broadcast := false } := by
  have hencode : EncodesBvlc encodeOriginal :=
    ⟨fun function capacity npdu _ hroom hshort => if_pos ⟨hroom, hshort⟩⟩
  have hheader : DecodesHeader readHeader := ⟨fun frame hlong htype => if_pos ⟨hlong, htype⟩⟩
  have hsend : bipSendPdu bacnetUnsigned16 encodeOriginal 480 484 openPort
      (macAddress bacnetUnsigned16 ⟨#v[192, 168, 1, 5], 47808⟩) [1, 4, 0, 5, 1, 12] =
        some (⟨#v[192, 168, 1, 5], 47808⟩, [0x81, 0x0a, 0, 10, 1, 4, 0, 5, 1, 12]) := by decide
  obtain ⟨-, -, -, hreceived⟩ :=
    sent_received bacnetUnsigned16_bigEndian hencode hheader (by decide : 480 + 4 ≤ 484) (by decide) openPort
  exact ⟨hsend, ((hreceived _ _ _ _ hsend (by decide)).2 ownPort).2 (by decide)⟩

end ModbusGateway
