import ModbusGateway.Bacnet.Port
import ModbusGateway.Bacnet.Publish

/-!
# The network side of a session

`gateway_bacnet_init`, `gateway_bacnet_network_update`, `gateway_bacnet_tick`, `gateway_bacnet_poll` and
`gateway_bacnet_process_datagram` in `gateway_bacnet.c`: the link, the socket, the clocks and what is
announced. The points and the recovery table are in other modules. A call of the stack or of a handler is
an event, and the datagrams that wait in the socket are part of the state.
-/

namespace ModbusGateway

/-- What the stack and its configuration fix: string limits, its 16-bit encoding, `bvlc_decode_header`,
`MAX_PDU`, `BIP_MPDU_MAX` and `MAX_COV_SUBSCRIPTIONS`. -/
structure BacnetEnv where
  stack : BacnetStack
  unsigned16 : Unsigned16
  bvlcDecodeHeader : BvlcDecodeHeader
  maxPdu : Nat
  mpduMax : Nat
  maxCovSubscriptions : Nat

/-- The network fields of `gateway_bacnet_config_t`; `peers` are the first `peer_count`. -/
structure NetworkConfig where
  localIp : Ipv4
  netmask : Ipv4
  gateway : Ipv4
  udpPort : Nat
  peers : List BipAddress
  deriving DecidableEq

/-- The properties of the Network Port object that `network_properties` sets. -/
structure NetworkPort where
  ipAddress : Ipv4
  subnetPrefix : Nat
  ipGateway : Ipv4
  macAddress : List UInt8
  reliability : Reliability
  deriving DecidableEq

/-- What the calls do outside of this state, in their order. An I-Am has the address of the port it leaves
and the one it is for. -/
inductive NetworkEvent where
  | opened
  | initialized
  | iAmBroadcast (own destination : BacnetAddress)
  | iAmUnicast (own destination : BacnetAddress)
  | tsmTimer (ms : Nat)
  | covTimer (seconds : Nat)
  | covFsm (calls : Nat)
  | handled (h : Handled)
  deriving DecidableEq

/-- The statics of `gateway_bacnet.c` that the network side reads, those of `bip_port.c`, the waiting
datagrams, and the objects that it sets: the Network Port, `Gateway-Ethernet-Link`, `Gateway-Uptime` and
`Gateway-Packets`. -/
structure BacnetNetwork where
  initialized : Bool := false
  linkUp : Bool := false
  receivedPackets : Nat := 0
  config : NetworkConfig := ⟨Ipv4.zero, Ipv4.zero, Ipv4.zero, 0, []⟩
  nowMs : Nat := 0
  startedMs : Nat := 0
  lastTimerMs : Nat := 0
  lastSecondMs : Nat := 0
  nextAnnounceMs : Nat := 0
  port : BipStatics := bipStatics
  buffers : ReceiveBuffers := {}
  queue : List Datagram := []
  networkPort : NetworkPort := ⟨Ipv4.zero, 0, Ipv4.zero, [], .noFaultDetected⟩
  ethernetLink : Bool := false
  uptime : PresentValue := .real 0
  packets : PresentValue := .real 0

namespace BacnetNetwork

/-- `network_properties`. -/
def networkProperties (env : BacnetEnv) (s : BacnetNetwork) : BacnetNetwork :=
  { s with
    networkPort :=
      { ipAddress := s.config.localIp
        subnetPrefix := s.port.subnetPrefix
        ipGateway := s.config.gateway
        macAddress := (macAddress env.unsigned16 ⟨s.config.localIp, s.config.udpPort⟩).mac
        reliability := if s.linkUp then .noFaultDetected else .communicationFailure } }

/-- The address of a peer: its own port, or that of the gateway for 0. -/
def peerAddress (env : BacnetEnv) (s : BacnetNetwork) (peer : BipAddress) : BacnetAddress :=
  macAddress env.unsigned16 ⟨peer.address, if peer.port ≠ 0 then peer.port else s.config.udpPort⟩

/-- The messages of one announcement: `Send_I_Am_Broadcast` has its addresses from `bip_get_my_address` and
`bip_get_broadcast_address`. -/
def announcement (env : BacnetEnv) (s : BacnetNetwork) : List NetworkEvent :=
  .iAmBroadcast (bipGetMyAddress env.unsigned16 s.port) (bipGetBroadcastAddress env.unsigned16 s.port) ::
    s.config.peers.map fun peer =>
      .iAmUnicast (bipGetMyAddress env.unsigned16 s.port) (s.peerAddress env peer)

/-- `announce`. -/
def announce (env : BacnetEnv) (s : BacnetNetwork) : BacnetNetwork × List NetworkEvent :=
  if ¬ s.linkUp ∨ ¬ bipValid s.port then (s, [])
  else ({ s with nextAnnounceMs := u64 (s.nowMs + 60000) }, s.announcement env)

/-- `bip_cleanup`; what waits in a socket goes with it. -/
def closeSocket (s : BacnetNetwork) : BacnetNetwork :=
  { s with port := bipCleanup s.port, queue := [] }

/-- `bip_init(NULL)`. -/
def openSocket (calls : SocketCalls) (s : BacnetNetwork) : BacnetNetwork × Bool :=
  let r := bipInit calls s.port
  ({ s with port := r.1, queue := [] }, r.2)

/-- `gateway_bacnet_shutdown`; the other statics of `bip_port.c` stay. -/
def gatewayBacnetShutdown (s : BacnetNetwork) : BacnetNetwork :=
  { port := bipCleanup s.port, buffers := s.buffers }

/-- The network fields in a `gateway_bacnet_config_t`, whose other fields are those of `input`. -/
def configInput (input : BacnetConfig) (net : NetworkConfig) : BacnetConfig :=
  { input with
    localIp := (ntohl net.localIp).toNat
    udpPort := net.udpPort
    peerCount := net.peers.length }

/-- `gateway_bacnet_init`; `created` says whether the objects can be created. -/
def gatewayBacnetInit (env : BacnetEnv) (calls : SocketCalls) (s : BacnetNetwork)
    (input : BacnetConfig) (net : NetworkConfig) (timestamp : Nat) (created : Bool) :
    BacnetNetwork × List NetworkEvent × Bool :=
  if ¬ bacnetInitChecks env.stack s.initialized (configInput input net) then (s, [], false)
  else
    let s : BacnetNetwork :=
      { s with
        config := net
        nowMs := timestamp
        startedMs := timestamp
        lastTimerMs := timestamp
        lastSecondMs := timestamp
        initialized := false
        linkUp := true
        receivedPackets := 0
        port := bipPortConfigure s.port net.localIp net.netmask net.gateway net.udpPort }
    if ¬ created then (s.gatewayBacnetShutdown, [], false)
    else
      let r := (s.networkProperties env).openSocket calls
      if ¬ r.2 then (r.1.gatewayBacnetShutdown, [], false)
      else
        let s := { r.1 with initialized := true, ethernetLink := true }
        let announced := s.announce env
        (announced.1, .opened :: .initialized :: announced.2, true)

/-- The address of `gateway_bacnet_network_update`, in the configuration and in the port. -/
def setAddress (s : BacnetNetwork) (ip mask gateway : Ipv4) : BacnetNetwork :=
  { s with
    config := { s.config with localIp := ip, netmask := mask, gateway := gateway }
    port := bipPortConfigure s.port ip mask gateway s.config.udpPort }

/-- `bip_init` where it is needed; when it fails the link counts as down. -/
def bindSocket (calls : SocketCalls) (needed : Bool) (s : BacnetNetwork) :
    BacnetNetwork × List NetworkEvent :=
  if needed then
    let r := s.openSocket calls
    if r.2 then (r.1, [.opened]) else ({ r.1 with linkUp := false }, [])
  else (s, [])

/-- The objects about the link. -/
def reportLink (env : BacnetEnv) (s : BacnetNetwork) : BacnetNetwork :=
  { s.networkProperties env with ethernetLink := s.linkUp }

/-- `gateway_bacnet_network_update`. -/
def gatewayBacnetNetworkUpdate (env : BacnetEnv) (calls : SocketCalls) (s : BacnetNetwork)
    (ip mask gateway : Ipv4) (linkUp : Bool) (timestamp : Nat) : BacnetNetwork × List NetworkEvent × Bool :=
  if ¬ s.initialized then (s, [], false)
  else
    let s := { s with nowMs := if s.nowMs ≤ timestamp then timestamp else s.nowMs }
    let changed : Bool :=
      decide (s.config.localIp ≠ ip ∨ s.config.netmask ≠ mask ∨ s.config.gateway ≠ gateway)
    let wasUp := s.linkUp
    let s := { s with linkUp := linkUp && ip != Ipv4.zero }
    let bound : BacnetNetwork × List NetworkEvent :=
      if s.linkUp then
        let s := s.setAddress ip mask gateway
        s.bindSocket calls (!wasUp || changed || !bipValid s.port)
      else (s.closeSocket, [])
    let s : BacnetNetwork := bound.1.reportLink env
    let announced := if s.linkUp && (!wasUp || changed) then s.announce env else (s, [])
    (announced.1, bound.2 ++ announced.2, announced.1.linkUp == linkUp)

/-! ## The tick -/

/-- How often the loop of `gateway_bacnet_tick` calls `handler_cov_fsm`, given what the calls return. -/
def covFsmCalls (fsm : Nat → Bool) : (left i : Nat) → Nat
  | 0, _ => 0
  | left + 1, i => if fsm i then 1 else covFsmCalls fsm left (i + 1) + 1

/-- A difference of two `uint64_t`. -/
def elapsed (now before : Nat) : Nat := u64 (now + 2 ^ 64 - before)

/-- The elapsed time for `tsm_timer_milliseconds`. -/
def tickTimer (s : BacnetNetwork) : BacnetNetwork × List NetworkEvent :=
  let delta := elapsed s.nowMs s.lastTimerMs
  if delta ≠ 0 then
    ({ s with lastTimerMs := s.nowMs }, [.tsmTimer (if 65535 < delta then 65535 else u16 delta)])
  else (s, [])

/-- The whole seconds for `handler_cov_timer_seconds`. -/
def tickSecond (s : BacnetNetwork) : BacnetNetwork × List NetworkEvent :=
  let delta := elapsed s.nowMs s.lastSecondMs / 1000
  if delta ≠ 0 then
    ({ s with lastSecondMs := u64 (s.lastSecondMs + delta * 1000) },
      [.covTimer (if UINT32_MAX < delta then UINT32_MAX else u32 delta)])
  else (s, [])

/-- The objects that a tick sets. -/
def tickObjects (s : BacnetNetwork) : BacnetNetwork :=
  { s with
    uptime := .real ((elapsed s.nowMs s.startedMs).toFloat32 / 1000)
    packets := .real s.receivedPackets.toFloat32 }

/-- What a tick does while the link is up. -/
def tickLink (env : BacnetEnv) (fsm : Nat → Bool) (s : BacnetNetwork) :
    BacnetNetwork × List NetworkEvent :=
  if s.linkUp then
    let announced := if s.nextAnnounceMs ≤ s.nowMs then s.announce env else (s, [])
    (announced.1, .covFsm (covFsmCalls fsm (4 * env.maxCovSubscriptions + 8) 0) :: announced.2)
  else (s, [])

/-- `gateway_bacnet_tick`. -/
def gatewayBacnetTick (env : BacnetEnv) (s : BacnetNetwork) (timestamp : Nat) (fsm : Nat → Bool) :
    BacnetNetwork × List NetworkEvent :=
  if ¬ s.initialized then (s, [])
  else if timestamp < s.nowMs then (s, [])
  else
    let timer := { s with nowMs := timestamp }.tickTimer
    let second := timer.1.tickSecond
    let link := second.1.tickObjects.tickLink env fsm
    (link.1, timer.2 ++ second.2 ++ link.2)

/-! ## Receiving -/

/-- A datagram and what the handlers see of it, the buffers and the flag of the port kept. -/
def decode (env : BacnetEnv) (s : BacnetNetwork) (d : Datagram) : BacnetNetwork × Option Handled :=
  let r := processDatagram env.unsigned16 env.bvlcDecodeHeader env.maxPdu ⟨s.port.toBipPort, s.buffers⟩ d
  ({ s with port := { s.port with toBipPort := r.1.port }, buffers := r.1.buffers }, r.2)

/-- `npdu_handler` is called for what was decoded. -/
def count (r : BacnetNetwork × Option Handled) : BacnetNetwork × List NetworkEvent × Bool :=
  match r.2 with
  | none => (r.1, [], false)
  | some h =>
    ({ r.1 with receivedPackets := u32 (r.1.receivedPackets + 1) }, [.handled h], true)

/-- `gateway_bacnet_process_datagram`. -/
def gatewayBacnetProcessDatagram (env : BacnetEnv) (s : BacnetNetwork) (d : Datagram) :
    BacnetNetwork × List NetworkEvent × Bool :=
  if ¬ s.initialized ∨ ¬ s.linkUp then (s, [], false) else count (s.decode env d)

/-- `bip_receive`; `ready` says that `select` and `recvfrom` succeed when there is a datagram, which is
cut to the size of the frame buffer. -/
def bipReceive (env : BacnetEnv) (s : BacnetNetwork) (ready : Bool) : BacnetNetwork × Option Handled :=
  if ¬ bipValid s.port ∨ env.maxPdu < 4 ∨ ¬ ready then (s, none)
  else
    match s.queue with
    | [] => (s, none)
    | d :: queue =>
      let s := { s with queue }
      if d.bytes.take env.mpduMax = [] then (s, none)
      else s.decode env { d with bytes := d.bytes.take env.mpduMax }

/-- The loop of `gateway_bacnet_poll`. -/
def pollLoop (env : BacnetEnv) (ready : Nat → Bool) :
    (left i : Nat) → BacnetNetwork → BacnetNetwork × List NetworkEvent
  | 0, _, s => (s, [])
  | left + 1, i, s =>
    let r := count (s.bipReceive env (ready i))
    if r.2.2 then
      let rest := pollLoop env ready left (i + 1) r.1
      (rest.1, r.2.1 ++ rest.2)
    else (r.1, [])

/-- `gateway_bacnet_poll`; it returns the number of the events. -/
def gatewayBacnetPoll (env : BacnetEnv) (s : BacnetNetwork) (ready : Nat → Bool) :
    BacnetNetwork × List NetworkEvent :=
  if ¬ s.initialized ∨ ¬ s.linkUp then (s, []) else pollLoop env ready 16 0 s

end BacnetNetwork

/-! ## Runs -/

/-- The calls of the task, and a datagram that reaches the socket. -/
inductive NetworkInput where
  | init (calls : SocketCalls) (input : BacnetConfig) (net : NetworkConfig) (timestamp : Nat)
      (created : Bool)
  | update (calls : SocketCalls) (ip mask gateway : Ipv4) (linkUp : Bool) (timestamp : Nat)
  | tick (timestamp : Nat) (fsm : Nat → Bool)
  | poll (ready : Nat → Bool)
  | process (d : Datagram)
  | shutdown
  | arrive (d : Datagram)

/-- A step: the call, `now_ms` after it, and what it did. -/
structure NetworkLabel where
  input : NetworkInput
  time : Nat
  events : List NetworkEvent

/-- A reading of `esp_timer_get_time`, which counts microseconds in an `int64_t`, in milliseconds. -/
structure TimerMs (ms : Nat) : Prop where
  fits : ms * 1000 < 2 ^ 63

instance (ms : Nat) : Decidable (TimerMs ms) :=
  decidable_of_iff (ms * 1000 < 2 ^ 63) ⟨TimerMs.mk, TimerMs.fits⟩

/-- What an input does; a datagram for a closed socket is no step. -/
def networkCall (env : BacnetEnv) (s : BacnetNetwork) :
    NetworkInput → Option (BacnetNetwork × List NetworkEvent)
  | .init calls input net timestamp created =>
    if TimerMs timestamp then
      let r := s.gatewayBacnetInit env calls input net timestamp created
      some (r.1, r.2.1)
    else none
  | .update calls ip mask gateway linkUp timestamp =>
    if TimerMs timestamp then
      let r := s.gatewayBacnetNetworkUpdate env calls ip mask gateway linkUp timestamp
      some (r.1, r.2.1)
    else none
  | .tick timestamp fsm =>
    if TimerMs timestamp then some (s.gatewayBacnetTick env timestamp fsm) else none
  | .poll ready => some (s.gatewayBacnetPoll env ready)
  | .process d =>
    let r := s.gatewayBacnetProcessDatagram env d
    some (r.1, r.2.1)
  | .shutdown => some (s.gatewayBacnetShutdown, [])
  | .arrive d => if s.port.socket then some ({ s with queue := s.queue ++ [d] }, []) else none

def networkNext (env : BacnetEnv) (s : BacnetNetwork) (i : NetworkInput) :
    Option (NetworkLabel × BacnetNetwork) :=
  (networkCall env s i).map fun r => (⟨i, r.1.nowMs, r.2⟩, r.1)

def networkSystem (env : BacnetEnv) : StepSystem BacnetNetwork NetworkLabel :=
  .ofFun {} (networkNext env)

end ModbusGateway
