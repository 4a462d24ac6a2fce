import ModbusGateway.App.PollTask

/-!
# The health check at startup

`startup_healthy` beside `poll_task` and `bacnet_task`. The system is that of `App.PollTask` with the
two heartbeats, what `bacnet_task` publishes, and the conditions that other parts of the program set.
-/

namespace ModbusGateway

/-- What the health check reads of `gateway_bacnet_stats_t`. -/
structure BacnetStats where
  initialized : Bool := false
  linkUp : Bool := false
  deriving DecidableEq

/-- Where `bacnet_task` stands; `up` is what it sampled. -/
inductive BacnetPc where
  | sample
  | work (up : Bool)
  | publish

/-- The tasks, what they share, and the clock reading of a `startup_healthy` that has not taken the
lock yet. -/
structure Startup (c : Boot) where
  app : App c := {}
  webStarted : Bool := false
  otaReady : Bool := false
  pollHeartbeatMs : Nat := 0
  bacnetHeartbeatMs : Nat := 0
  publishedBacnet : BacnetStats := {}
  bacnetPc : BacnetPc := .sample
  started : Bool := false
  call : Option Nat := none

/-- Subtraction of `uint64_t`. -/
def sub64 (a b : Nat) : Nat := u64 (a + 2 ^ 64 - b)

variable {c : Boot}

/-- `startup_healthy` from the lock on, `now` being its reading of the clock. -/
def startupHealthy (s : Startup c) (now : Nat) : Bool :=
  s.app.networkUp && s.webStarted && s.otaReady && c.configError.isEmpty &&
    s.publishedBacnet.initialized && s.publishedBacnet.linkUp &&
    s.pollHeartbeatMs != 0 && s.bacnetHeartbeatMs != 0 &&
    sub64 now s.pollHeartbeatMs ≤ 2500 && sub64 now s.bacnetHeartbeatMs ≤ 2500

inductive StartupLabel (c : Boot) where
  | quiet
  | app (l : AppLabel c)
  | healthy (now : Nat) (result : Bool)

/-- The choices of the environment. `heartbeat` is the last reading of the clock in a section that
stores one; an iteration of `bacnet_task` brings the outcome of `gateway_bacnet_init` and the stats. -/
inductive StartupInput where
  | app (i : AppInput) (heartbeat : Nat)
  | web (b : Bool)
  | ota (b : Bool)
  | bacnetSample
  | bacnetWork (initialized : Bool)
  | bacnetPublish (stats : BacnetStats) (heartbeat : Nat)
  | call (now : Nat)
  | lock

/-- A reading of the clock inside a section. -/
def Startup.Reads (s : Startup c) (t : Nat) : Prop := s.app.clock ≤ t ∧ t < 2 ^ 64

instance (s : Startup c) (t : Nat) : Decidable (s.Reads t) := inferInstanceAs (Decidable (_ ∧ _))

/-- The clock has come to `t`. -/
def Startup.at (s : Startup c) (t : Nat) : Startup c := { s with app := { s.app with clock := t } }

/-- A step of the tasks of `App.PollTask`; the section that publishes ends with the heartbeat. -/
def startupApp (s : Startup c) (l : AppLabel c) (app : App c) (heartbeat : Nat) :
    Option (StartupLabel c × Startup c) :=
  let s := { s with app }
  match l with
  | .publish _ =>
    if s.Reads heartbeat then some (.app l, { s.at heartbeat with pollHeartbeatMs := heartbeat })
    else none
  | _ => some (.app l, s)

def startupNext (s : Startup c) : StartupInput → Option (StartupLabel c × Startup c)
  | .app i heartbeat =>
    match appNext s.app i with
    | some (l, app) => startupApp s l app heartbeat
    | none => none
  | .web b => some (.quiet, { s with webStarted := b })
  | .ota b => some (.quiet, { s with otaReady := b })
  | .bacnetSample =>
    match s.bacnetPc with
    | .sample => some (.quiet, { s with bacnetPc := .work s.app.networkUp })
    | _ => none
  | .bacnetWork initialized =>
    match s.bacnetPc with
    | .work up =>
      let started := s.started || (up && initialized)
      some (.quiet, { s with started, bacnetPc := if started then .publish else .sample })
    | _ => none
  | .bacnetPublish stats heartbeat =>
    match s.bacnetPc with
    | .publish =>
      if s.Reads heartbeat then
        some (.quiet,
          { s.at heartbeat with
            publishedBacnet := stats
            bacnetHeartbeatMs := heartbeat
            bacnetPc := .sample })
      else none
    | _ => none
  -- The reading may have been taken while a section was under way.
  | .call now =>
    if s.call = none ∧ now ≤ s.app.clock then some (.quiet, { s with call := some now }) else none
  | .lock =>
    match s.call with
    | some now => some (.healthy now (startupHealthy s now), { s with call := none })
    | none => none

def startupSystem (c : Boot) : StepSystem (Startup c) (StartupLabel c) :=
  .ofFun {} startupNext

/-- History and state after a list of choices. -/
def startupAfter (c : Boot) (inputs : List StartupInput) : List (StartupLabel c) × Startup c :=
  StepSystem.feed startupNext inputs ([], {})

theorem startupSystem_run (c : Boot) (inputs : List StartupInput) :
    (startupSystem c).Run (startupAfter c inputs).1 (startupAfter c inputs).2 :=
  StepSystem.Run.feed inputs (.init rfl)

end ModbusGateway
