import ModbusGateway.Bacnet.Datagram

/-!
# The BACnet/IP port

The statics of `bip_port.c` and what sets them up and sends on them, as built for the board. A
`uint32_t` in network byte order is its four bytes in memory. Sockets and the encoders of the stack are
parameters: what a call of theirs returns.
-/

namespace ModbusGateway

def BACNET_BROADCAST_NETWORK : Nat := 0xFFFF

/-- An IPv4 address or mask, in network byte order. -/
abbrev Ipv4 := Vector UInt8 4

/-- All the bytes are zero. -/
def Ipv4.zero : Ipv4 := .replicate 4 0

/-- `ntohl`. -/
def ntohl (a : Ipv4) : BitVec 32 :=
  a[0].toBitVec ++ a[1].toBitVec ++ a[2].toBitVec ++ a[3].toBitVec

/-- `htonl`. -/
def htonl (w : BitVec 32) : Ipv4 :=
  #v[.ofBitVec (w.extractLsb' 24 8), .ofBitVec (w.extractLsb' 16 8),
    .ofBitVec (w.extractLsb' 8 8), .ofBitVec (w.extractLsb' 0 8)]

/-- `(ip & mask) | ~mask`. -/
def directedBroadcast (ip mask : Ipv4) : Ipv4 :=
  .ofFn fun i => ip[i] &&& mask[i] ||| ~~~mask[i]

/-- The statics of `bip_port.c`: with those of `BipPort`, whether there is a socket, and
`s_broadcast_port`, `s_broadcast`, `s_gateway` and `s_prefix`. -/
structure BipStatics extends BipPort where
  socket : Bool := false
  broadcastPort : Nat := 0
  broadcast : BipAddress
  gateway : BipAddress
  subnetPrefix : Nat := 0

/-- The statics at boot. -/
def bipStatics : BipStatics where
  address := Ipv4.zero
  port := 47808
  broadcast := ⟨Ipv4.zero, 0⟩
  gateway := ⟨Ipv4.zero, 0⟩

/-- The loop of `contiguous_prefix`; after 32 turns nothing is left of the mask. -/
def prefixLoop : Nat → BitVec 32 → Nat → BitVec 32 × Nat
  | 0, mask, bits => (mask, bits)
  | turns + 1, mask, bits =>
    if mask &&& 0x80000000#32 ≠ 0#32 then prefixLoop turns (mask <<< 1) (bits + 1) else (mask, bits)

/-- `contiguous_prefix`. -/
def contiguousPrefix (networkMask : Ipv4) : Nat :=
  let loop := prefixLoop 32 (ntohl networkMask) 0
  if loop.1 = 0#32 then loop.2 else 0

/-- `bip_port_configure`. -/
def bipPortConfigure (s : BipStatics) (ip netmask gateway : Ipv4) (port : Nat) : BipStatics :=
  { s with
    address := ip
    port := port
    broadcast := ⟨directedBroadcast ip netmask, port⟩
    gateway := ⟨gateway, 0⟩
    subnetPrefix := contiguousPrefix netmask }

/-- `bip_set_subnet_prefix`, and what it returns. -/
def bipSetSubnetPrefix (s : BipStatics) (bits : Nat) : BipStatics × Bool :=
  if bits = 0 ∨ 32 < bits then (s, false)
  else
    let mask := htonl (if bits = 32 then BitVec.allOnes 32 else BitVec.allOnes 32 <<< (32 - bits))
    ({ s with
        subnetPrefix := bits
        broadcast := { s.broadcast with address := directedBroadcast s.address mask } },
      true)

/-- `bip_get_broadcast_port`. -/
def bipGetBroadcastPort (s : BipStatics) : Nat :=
  if s.broadcastPort ≠ 0 then s.broadcastPort else s.port

/-! ## The socket -/

/-- What the socket calls of one `bip_init` return; `fcntl` decides nothing. -/
structure SocketCalls where
  socket : Int
  broadcast : Int
  bind : Int

/-- `bip_cleanup`. -/
def bipCleanup (s : BipStatics) : BipStatics := { s with socket := false }

/-- `bip_init(NULL)`, and what it returns. -/
def bipInit (calls : SocketCalls) (s : BipStatics) : BipStatics × Bool :=
  let s := bipCleanup s
  if calls.socket < 0 then (s, false)
  else
    let s := { s with socket := true }
    if calls.broadcast < 0 then (bipCleanup s, false)
    else if calls.bind < 0 then (bipCleanup s, false)
    else (s, true)

/-- `bip_valid`. -/
def bipValid (s : BipStatics) : Bool := s.socket

/-! ## Sending -/

/-- `bip_get_broadcast_address`. -/
def bipGetBroadcastAddress (u : Unsigned16) (s : BipStatics) : BacnetAddress :=
  { macAddress u ⟨s.broadcast.address, bipGetBroadcastPort s⟩ with net := BACNET_BROADCAST_NETWORK }

/-- `bip_get_my_address`. -/
def bipGetMyAddress (u : Unsigned16) (s : BipStatics) : BacnetAddress := macAddress u ⟨s.address, s.port⟩

/-- `bvlc_encode_original_unicast` and `bvlc_encode_original_broadcast`: the frame for a function, a
capacity and an NPDU; the empty one for a result of 0. -/
abbrev BvlcEncode := UInt8 → Nat → List UInt8 → List UInt8

/-- The first four bytes of `mac` as an address. -/
def macIp (mac : List UInt8) : Ipv4 := .ofFn fun i => mac.getD i 0

/-- `bip_send_pdu` up to `bip_send_mpdu`: the target and the frame, or `none` for -1. -/
def bipSendFrame (u : Unsigned16) (encode : BvlcEncode) (maxPdu mpduMax : Nat) (s : BipStatics)
    (dest : BacnetAddress) (pdu : List UInt8) : Option (BipAddress × List UInt8) :=
  if maxPdu < pdu.length then none
  else
    let frame :=
      if dest.net = BACNET_BROADCAST_NETWORK ∨ dest.macLen = 0 ∨
          (0 < dest.net ∧ dest.len = 0 ∧ dest.macLen ≠ 6) then
        some ((⟨s.broadcast.address, bipGetBroadcastPort s⟩ : BipAddress),
          encode BVLC_ORIGINAL_BROADCAST_NPDU mpduMax pdu)
      else if dest.macLen = 6 then
        some ((⟨macIp dest.mac, u.decode (dest.mac.getD 4 0) (dest.mac.getD 5 0)⟩ : BipAddress),
          encode BVLC_ORIGINAL_UNICAST_NPDU mpduMax pdu)
      else none
    frame.filter fun f => f.2 ≠ []

/-- `bip_send_mpdu`: what is given to `sendto`. -/
def bipSendMpdu (s : BipStatics) (target : BipAddress) (mtu : List UInt8) :
    Option (BipAddress × List UInt8) :=
  if ¬ s.socket ∨ mtu = [] then none else some (target, mtu)

/-- `bip_send_pdu`: the datagram that is given to `sendto`, if any. -/
def bipSendPdu (u : Unsigned16) (encode : BvlcEncode) (maxPdu mpduMax : Nat) (s : BipStatics)
    (dest : BacnetAddress) (pdu : List UInt8) : Option (BipAddress × List UInt8) :=
  (bipSendFrame u encode maxPdu mpduMax s dest pdu).bind fun f => bipSendMpdu s f.1 f.2

end ModbusGateway
