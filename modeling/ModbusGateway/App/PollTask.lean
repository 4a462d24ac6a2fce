import ModbusGateway.Config.Config
import ModbusGateway.Custom.Poll

/-!
# The tasks around the pollers

`poll_task`, `network_event` and `snapshot_values` of `app_main.c` as one step system. A section
under the lock is one step, and so is every stretch of `poll_task` between two of them; the Modbus
read is two steps, its start and its end, so that anything may happen during it. `clock` is what
`now_ms` would return; it never goes back and is a `uint64_t`.
-/

namespace ModbusGateway

/-- The arguments of `error_history_record` that `poll_task` fills in per failure. -/
structure FailureRecord where
  function : Nat
  offset : Nat
  quantity : Nat
  transactionId : Nat
  phase : String
  result : MbResult

/-- Where `poll_task` stands. `up` and `changed` are what it sampled, `now` is the time the step
was called with; it reads only when the network was up. -/
inductive PollPc where
  | sample
  | check (up : Bool) (changed : Nat)
  | step (up : Bool) (changed : Nat)
  | reading (changed now : Nat)
  | publish (up : Bool) (changed : Nat)

/-- The shared state, the locals of `poll_task`, and the clock readings of the `snapshot_values`
calls that have not taken the lock yet. -/
structure App (c : Boot) where
  clock : Nat := 0
  networkUp : Bool := false
  networkGeneration : Nat := 0
  publishedGeneration : Nat := 0
  published : GatewayPoll := gatewayPollInit
  publishedCustom : CustomPoll c.customMap := customPollInit c.customMap
  poller : GatewayPoll := gatewayPollInit
  custom : CustomPoll c.customMap := customPollInit c.customMap
  previousUp : Bool := false
  generation : Nat := 0
  pc : PollPc := .sample
  pending : List Nat := []

/-- One step as seen from outside. `read` and `customRead` carry the generation the iteration had
sampled and the failure it recorded. -/
inductive AppLabel (c : Boot) where
  | quiet
  | network (up : Bool)
  | offline
  | read (generation : Nat) (r : PollRequest) (recorded : Option FailureRecord)
  | customRead (generation : Nat) (r : CustomRequest c.customMap) (recorded : Option FailureRecord)
  | publish (offline : Bool)
  | snapshot (now : Nat) (values : List AtsValue)

/-- The choices of the environment. `t₁ t₂ t₃` are the readings of the clock in a section that takes
the pollers offline. -/
inductive AppInput where
  | tick (ms : Nat)
  | network (up : Bool)
  | sample
  | check (t₁ t₂ t₃ : Nat)
  | start
  | finish (reply : MbReply)
  | publish (t₁ t₂ t₃ : Nat)
  | enter (now : Nat)
  | snapshot (now : Nat)

variable {c : Boot}

/-- `snapshot_values`: the entries of the active catalogue, at the instant the lock is held. -/
def snapshotValues (s : App c) (now : Nat) : List AtsValue :=
  let values :=
    if c.isCustom then List.ofFn (customPollSnapshot s.publishedCustom now)
    else (List.ofFn (atsModelDecodeAll s.published.model now)).take c.activeCount
  let up := s.networkUp && s.publishedGeneration == s.networkGeneration
  if !up || !c.configError.isEmpty then
    values.map fun v => v.grade .comm
      (if c.configError.isEmpty then "Ethernet unavailable" else "Configuration requires repair")
  else values

/-- `network_event`; an event of another kind changes nothing and is no step. -/
def networkEvent (s : App c) (up : Bool) : App c :=
  { s with networkUp := up, networkGeneration := u32 (s.networkGeneration + 1) }

/-- The two pollers are taken offline, at three readings of the clock. -/
def takeOffline (s : App c) (t₁ t₂ t₃ : Nat) : App c :=
  { s with
    clock := t₃
    poller := { gatewayPollOffline s.poller t₁ with nextRequestMs := t₃ }
    custom := { customPollOffline s.custom t₂ with nextRequestMs := t₃ } }

/-- The readings of a section that starts at the clock of the state. -/
def App.Readings (s : App c) (t₁ t₂ t₃ : Nat) : Prop :=
  s.clock ≤ t₁ ∧ t₁ ≤ t₂ ∧ t₂ ≤ t₃ ∧ t₃ < 2 ^ 64

instance (s : App c) (t₁ t₂ t₃ : Nat) : Decidable (s.Readings t₁ t₂ t₃) :=
  inferInstanceAs (Decidable (_ ∧ _))

/-- The Modbus step of an iteration, called at `now`. -/
def pollStep (s : App c) (changed now : Nat) (reply : MbReply) : AppLabel c × App c :=
  if c.isCustom then
    let before := s.custom.failures
    match customPollStep s.custom now reply with
    | (custom, none) => (.quiet, { s with custom })
    | (custom, some r) =>
      let recorded :=
        if custom.failures ≠ before then
          some
            { function := custom.lastFunction
              offset := custom.lastOffset
              quantity := custom.lastQuantity
              transactionId := custom.transactionId
              phase := "data"
              result := custom.lastResult }
        else none
      (.customRead changed r recorded, { s with custom })
  else
    let before := s.poller.failures
    match gatewayPollStep c.pollConfig s.poller now reply with
    | (poller, none) => (.quiet, { s with poller })
    | (poller, some r) =>
      let recorded :=
        if poller.failures ≠ before then
          some
            { function := 3
              offset := poller.lastOffset
              quantity := poller.lastQuantity
              transactionId := poller.transactionId
              phase := if poller.lastChecking then "identity" else "data"
              result := poller.lastResult }
        else none
      (.read changed r recorded, { s with poller })

/-- The end of an iteration: what the locked section publishes and the locals it leaves. -/
def publishPollers (s : App c) (up : Bool) (changed : Nat) : App c :=
  { s with
    published := s.poller
    publishedCustom := s.custom
    publishedGeneration := changed
    previousUp := up
    generation := changed
    pc := .sample }

def appNext (s : App c) : AppInput → Option (AppLabel c × App c)
  | .tick ms => if s.clock + ms < 2 ^ 64 then some (.quiet, { s with clock := s.clock + ms }) else none
  | .network up => some (.network up, networkEvent s up)
  | .sample =>
    match s.pc with
    | .sample => some (.quiet, { s with pc := .check s.networkUp s.networkGeneration })
    | _ => none
  | .check t₁ t₂ t₃ =>
    match s.pc with
    | .check up changed =>
      if (s.previousUp && !up) || (up && changed != s.generation) then
        if s.Readings t₁ t₂ t₃ then
          some (.offline, { takeOffline s t₁ t₂ t₃ with pc := .step up changed })
        else none
      else some (.quiet, { s with pc := .step up changed })
    | _ => none
  | .start =>
    match s.pc with
    | .step up changed =>
      if up && c.configError.isEmpty then
        some (.quiet, { s with pc := .reading changed s.clock })
      else some (.quiet, { s with pc := .publish up changed })
    | _ => none
  | .finish reply =>
    match s.pc with
    | .reading changed now =>
      -- The transport measured its time on the same clock.
      if now + reply.result.elapsedMs ≤ s.clock then
        some ((pollStep s changed now reply).1,
          { (pollStep s changed now reply).2 with pc := .publish true changed })
      else none
    | _ => none
  | .publish t₁ t₂ t₃ =>
    match s.pc with
    | .publish up changed =>
      if !s.networkUp || s.networkGeneration != changed then
        if s.Readings t₁ t₂ t₃ then
          some (.publish true, publishPollers (takeOffline s t₁ t₂ t₃) up changed)
        else none
      else some (.publish false, publishPollers s up changed)
    | _ => none
  -- The reading may have been taken while another section was under way.
  | .enter now => if now ≤ s.clock then some (.quiet, { s with pending := now :: s.pending }) else none
  | .snapshot now =>
    if now ∈ s.pending then
      some (.snapshot now (snapshotValues s now), { s with pending := s.pending.erase now })
    else none

def appSystem (c : Boot) : StepSystem (App c) (AppLabel c) :=
  .ofFun {} appNext

/-- History and state after a list of choices. -/
def appAfter (c : Boot) (inputs : List AppInput) : List (AppLabel c) × App c :=
  StepSystem.feed appNext inputs ([], {})

theorem appSystem_run (c : Boot) (inputs : List AppInput) :
    (appSystem c).Run (appAfter c inputs).1 (appAfter c inputs).2 :=
  StepSystem.Run.feed inputs (.init rfl)

/-- An iteration that starts at the clock and reads for 20 ms. -/
def pollIteration (reply : MbReply) : List AppInput :=
  [.sample, .check 0 0 0, .start, .tick 20, .finish reply, .publish 0 0 0, .tick 250]

end ModbusGateway
