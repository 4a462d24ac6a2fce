import ModbusGateway.Basic

/-!
# Receiving a datagram

`bip_port_decode_datagram` of `bip_port.c` and the part of `gateway_bacnet_process_datagram` that hands
its result on. `bvlc_decode_header`, `encode_unsigned16` and `decode_unsigned16` of the stack are parameters.
-/

namespace ModbusGateway

def BVLL_TYPE_BACNET_IP : UInt8 := 0x81
def BVLC_FORWARDED_NPDU : UInt8 := 0x04
def BVLC_ORIGINAL_UNICAST_NPDU : UInt8 := 0x0a
def BVLC_ORIGINAL_BROADCAST_NPDU : UInt8 := 0x0b

/-- `BACNET_IP_ADDRESS`. -/
structure BipAddress where
  address : Vector UInt8 4
  port : Nat
  deriving DecidableEq

/-- `BACNET_ADDRESS`, as far as it is filled in. -/
structure BacnetAddress where
  macLen : Nat := 0
  mac : List UInt8 := []
  net : Nat := 0
  len : Nat := 0
  deriving DecidableEq

/-- The statics of `bip_port.c` that are used here: `s_address.address`, `s_port` and
`s_last_receive_was_broadcast`. -/
structure BipPort where
  address : Vector UInt8 4
  port : Nat
  lastReceiveWasBroadcast : Bool := false

/-- What the caller passes pointers to: the source and the buffer. -/
structure ReceiveBuffers where
  src : BacnetAddress := {}
  pdu : Nat → UInt8 := fun _ => 0

/-- `bvlc_decode_header`: the result, the function and the declared length. -/
abbrev BvlcDecodeHeader := List UInt8 → Nat × UInt8 × Nat

/-- `encode_unsigned16` and `decode_unsigned16`: the two bytes of a value, and the value of two bytes. -/
structure Unsigned16 where
  encode : Nat → Vector UInt8 2
  decode : UInt8 → UInt8 → Nat

/-- `mac_len` and `mac` of an address. -/
def macAddress (u : Unsigned16) (source : BipAddress) : BacnetAddress where
  macLen := 6
  mac := source.address.toList ++ (u.encode source.port).toList

/-- The branch on the function: the flag, the source and the offset of the NPDU. -/
def bvlcOrigin (u : Unsigned16) (s : BipPort) (frame : List UInt8) (sender : BipAddress) (function : UInt8) :
    Option (BipPort × BipAddress × Nat) :=
  if function = BVLC_ORIGINAL_UNICAST_NPDU then
    some ({ s with lastReceiveWasBroadcast := false }, sender, 4)
  else if function = BVLC_ORIGINAL_BROADCAST_NPDU then
    some ({ s with lastReceiveWasBroadcast := true }, sender, 4)
  else if function = BVLC_FORWARDED_NPDU ∧ 10 ≤ frame.length then
    some ({ s with lastReceiveWasBroadcast := true },
      { address := .ofFn fun i => frame.getD (4 + i) 0
        port := u.decode (frame.getD 8 0) (frame.getD 9 0) }, 10)
  else none

/-- The test for a global broadcast in an NPDU of that length at that offset. -/
def globalBroadcastAt (frame : List UInt8) (offset npduLen : Nat) : Bool :=
  6 ≤ npduLen && frame.getD (offset + 1) 0 &&& 0x20 != 0 && frame.getD (offset + 2) 0 == 0xff &&
    frame.getD (offset + 3) 0 == 0xff && frame.getD (offset + 4) 0 == 0

/-- `bip_port_decode_datagram`, with pointers that are not NULL. -/
def bipPortDecodeDatagram (u : Unsigned16) (bvlcDecodeHeader : BvlcDecodeHeader) (s : BipPort)
    (frame : List UInt8) (sender : BipAddress) (out : ReceiveBuffers) (maxPdu : Nat) :
    BipPort × ReceiveBuffers × Nat :=
  if frame.length < 6 ∨ 65535 < frame.length ∨ frame.getD 0 0 ≠ BVLL_TYPE_BACNET_IP then (s, out, 0)
  else
    let header := bvlcDecodeHeader frame
    if header.1 ≠ 4 ∨ header.2.2 ≠ u16 frame.length then (s, out, 0)
    else
      match bvlcOrigin u s frame sender header.2.1 with
      | none => (s, out, 0)
      | some (s, source, offset) =>
        if source.address = s.address ∧ source.port = s.port then (s, out, 0)
        else
          let npduLen := u16 (u16 frame.length + 2 ^ 16 - offset)
          if maxPdu < npduLen then (s, out, 0)
          else
            let out := { out with src := macAddress u source }
            if npduLen < 2 then (s, out, 0)
            else
              let s :=
                if globalBroadcastAt frame offset npduLen then
                  { s with lastReceiveWasBroadcast := true }
                else s
              (s,
                { out with
                  pdu := fun i => if i < npduLen then frame.getD (offset + i) 0 else out.pdu i },
                npduLen)

/-! ## Handing it on -/

/-- A datagram and the address it came from. -/
structure Datagram where
  bytes : List UInt8
  sender : BipAddress

/-- What a service handler sees: the source, the NPDU, and the flag. -/
structure Handled where
  src : BacnetAddress
  npdu : List UInt8
  broadcast : Bool
  deriving DecidableEq

/-- The port and the buffers of the gateway. -/
structure BipReceiver where
  port : BipPort
  buffers : ReceiveBuffers := {}

/-- `gateway_bacnet_process_datagram` with the link up; `npdu_handler` runs before it returns. -/
def processDatagram (u : Unsigned16) (bvlcDecodeHeader : BvlcDecodeHeader) (capacity : Nat)
    (s : BipReceiver) (d : Datagram) : BipReceiver × Option Handled :=
  let decoded := bipPortDecodeDatagram u bvlcDecodeHeader s.port d.bytes d.sender s.buffers capacity
  let s : BipReceiver := { port := decoded.1, buffers := decoded.2.1 }
  let length := decoded.2.2
  if length = 0 then (s, none)
  else
    (s, some
      { src := s.buffers.src
        npdu := (List.range length).map s.buffers.pdu
        broadcast := s.port.lastReceiveWasBroadcast })

/-- The receiver after a list of datagrams. -/
def processAll (u : Unsigned16) (bvlcDecodeHeader : BvlcDecodeHeader) (capacity : Nat) (s : BipReceiver)
    (ds : List Datagram) : BipReceiver :=
  ds.foldl (fun s d => (processDatagram u bvlcDecodeHeader capacity s d).1) s

end ModbusGateway
