import ModbusGateway.App.Startup
import ModbusGateway.Bacnet.Network

/-!
# The BACnet task

`bacnet_task` and `network_event` of `app_main.c` on the network side of `gateway_bacnet.c`. A section under
the lock is one step; so is a call of the stack, since datagrams may come between two of them. The values
of the points are in `App.PollTask`; here an update is only its time.
-/

namespace ModbusGateway

/-- `esp_netif_ip_info_t`. -/
structure NetworkInfo where
  ip : Ipv4
  netmask : Ipv4
  gw : Ipv4
  deriving DecidableEq

/-- What `bacnet_task` takes from the configuration of the device: the fields of
`gateway_bacnet_config_t` that do not depend on the network. -/
structure TaskConfig where
  env : BacnetEnv
  input : BacnetConfig
  udpPort : Nat
  peers : List BipAddress

/-- What an iteration samples under the lock. -/
structure NetworkSample where
  up : Bool
  changed : Nat
  info : NetworkInfo
  deriving DecidableEq

/-- Where `bacnet_task` stands; `now` is the reading of the clock of this iteration. -/
inductive BacnetTaskPc where
  | sample
  | start (sample : NetworkSample)
  | rebind (sample : NetworkSample) (now : Nat)
  | update (now : Nat)
  | tick (now : Nat)
  | poll
  | publish

/-- What `network_event` and `bacnet_task` share, the locals of the task, and the stack. -/
structure BacnetTask where
  clock : Nat := 0
  networkUp : Bool := false
  networkGeneration : Nat := 0
  networkInfo : NetworkInfo := ⟨Ipv4.zero, Ipv4.zero, Ipv4.zero⟩
  publishedBacnet : BacnetStats := {}
  started : Bool := false
  generation : Nat := UINT32_MAX
  nextUpdate : Nat := 0
  pc : BacnetTaskPc := .sample
  bacnet : BacnetNetwork := {}

/-- The choices of the environment: time passes, an event of the network (an address, or none for a
loss), a datagram, and the steps of the task with what the calls in them return. -/
inductive TaskInput where
  | clock (ms : Nat)
  | network (info : Option NetworkInfo)
  | arrive (d : Datagram)
  | sample
  | start (calls : SocketCalls) (created : Bool)
  | rebind (calls : SocketCalls)
  | update
  | tick (fsm : Nat → Bool)
  | poll (ready : Nat → Bool)
  | publish

/-- A step: what the stack did, and when the points were updated. -/
structure TaskLabel where
  input : TaskInput
  events : List NetworkEvent := []
  updated : Option Nat := none

namespace BacnetTask

variable (c : TaskConfig)

/-- `network_event`. -/
def networkEvent (s : BacnetTask) : Option NetworkInfo → BacnetTask
  | some info =>
    { s with
      networkInfo := info
      networkUp := true
      networkGeneration := u32 (s.networkGeneration + 1) }
  | none => { s with networkUp := false, networkGeneration := u32 (s.networkGeneration + 1) }

/-- What the lock protects at the head of an iteration. -/
def sampled (s : BacnetTask) : NetworkSample := ⟨s.networkUp, s.networkGeneration, s.networkInfo⟩

/-- The branch on `!started && up`. -/
def startStack (s : BacnetTask) (n : NetworkSample) (now : Nat) (calls : SocketCalls) (created : Bool) :
    BacnetTask × List NetworkEvent :=
  if !s.started && n.up then
    let r := s.bacnet.gatewayBacnetInit c.env calls c.input
      ⟨n.info.ip, n.info.netmask, n.info.gw, c.udpPort, c.peers⟩ now created
    ({ s with bacnet := r.1, started := r.2.2, generation := n.changed }, r.2.1)
  else (s, [])

/-- The branch on `generation != changed`. -/
def rebindStack (s : BacnetTask) (n : NetworkSample) (now : Nat) (calls : SocketCalls) :
    BacnetTask × List NetworkEvent :=
  if s.generation ≠ n.changed then
    let r := s.bacnet.gatewayBacnetNetworkUpdate c.env calls n.info.ip n.info.netmask n.info.gw n.up now
    ({ s with bacnet := r.1, generation := if r.2.2 then n.changed else s.generation }, r.2.1)
  else (s, [])

/-- The end of an iteration: `gateway_bacnet_stats` into `published_bacnet`. -/
def publishStats (s : BacnetTask) : BacnetTask :=
  { s with publishedBacnet := ⟨s.bacnet.initialized, s.bacnet.linkUp⟩ }

end BacnetTask

def taskNext (c : TaskConfig) (s : BacnetTask) (i : TaskInput) : Option (TaskLabel × BacnetTask) :=
  match i with
  | .clock ms => if TimerMs (s.clock + ms) then some (⟨i, [], none⟩, { s with clock := s.clock + ms }) else none
  | .network info => some (⟨i, [], none⟩, s.networkEvent info)
  | .arrive d =>
    if s.bacnet.port.socket then
      some (⟨i, [], none⟩, { s with bacnet := { s.bacnet with queue := s.bacnet.queue ++ [d] } })
    else none
  | .sample =>
    match s.pc with
    | .sample => some (⟨i, [], none⟩, { s with pc := .start s.sampled })
    | _ => none
  | .start calls created =>
    match s.pc with
    | .start n =>
      let r := s.startStack c n s.clock calls created
      some (⟨i, r.2, none⟩, { r.1 with pc := if r.1.started then .rebind n s.clock else .sample })
    | _ => none
  | .rebind calls =>
    match s.pc with
    | .rebind n now =>
      let r := s.rebindStack c n now calls
      some (⟨i, r.2, none⟩, { r.1 with pc := .update now })
    | _ => none
  | .update =>
    match s.pc with
    | .update now =>
      if s.nextUpdate ≤ now then
        some (⟨i, [], some now⟩, { s with nextUpdate := u64 (now + 200), pc := .tick now })
      else some (⟨i, [], none⟩, { s with pc := .tick now })
    | _ => none
  | .tick fsm =>
    match s.pc with
    | .tick now =>
      let r := s.bacnet.gatewayBacnetTick c.env now fsm
      some (⟨i, r.2, none⟩, { s with bacnet := r.1, pc := .poll })
    | _ => none
  | .poll ready =>
    match s.pc with
    | .poll =>
      let r := s.bacnet.gatewayBacnetPoll c.env ready
      some (⟨i, r.2, none⟩, { s with bacnet := r.1, pc := .publish })
    | _ => none
  | .publish =>
    match s.pc with
    | .publish => some (⟨i, [], none⟩, { s.publishStats with pc := .sample })
    | _ => none

def taskSystem (c : TaskConfig) : StepSystem BacnetTask TaskLabel := .ofFun {} (taskNext c)

end ModbusGateway
