import ModbusGateway.Ota.Handlers
import ModbusGateway.Theory.Run

/-!
# Validation of a new image

`ota_health.c`, and the end of `gateway_ota.c`. `gateway_ota_begin_validation` starts a timer and a task;
from then on its caller, `validate_task` and `hard_validation_deadline` interleave. A step is one access
to what they share or one call of the platform. `esp_restart` does not return to its caller; the others
go on until the chip resets.
-/

namespace ModbusGateway

def HEALTH_DELAY_MS : Nat := 10000
def HEALTH_DEADLINE_MS : Nat := 60000
def HEALTH_SAMPLES : UInt32 := 5

def ESP_ERR_INVALID_ARG : EspErr := 0x102
def ESP_ERR_NOT_FOUND : EspErr := 0x105

/-! ## The health gate -/

/-- `ota_health_gate_t`. -/
structure OtaHealthGate where
  consecutiveHealthySamples : UInt32 := 0

/-- `ota_health_gate_sample`; the gate is never null. -/
def otaHealthGateSample (gate : OtaHealthGate) (healthy : Bool) (required : UInt32) :
    Bool × OtaHealthGate :=
  if required = 0 then (false, gate)
  else if ¬ healthy then (false, { consecutiveHealthySamples := 0 })
  else
    let samples := gate.consecutiveHealthySamples
    let samples := if samples < required then samples + 1 else samples
    (required ≤ samples, { consecutiveHealthySamples := samples })

/-! ## The three parties -/

/-- Where `gateway_ota_begin_validation` stands; `armed` and `started` are before and after
`validation_started` is set. -/
inductive CallerPc where
  | idle
  | armed
  | started
  | restarting
  | stopped
  deriving DecidableEq

/-- Where `validate_task` stands. -/
inductive ValidateTaskPc where
  | absent
  | created
  | delay (until_ : Nat)
  | check
  | sample
  | mark
  | record
  | stopTimer
  | restarting
  | ended
  deriving DecidableEq

/-- Where `hard_validation_deadline` stands. -/
inductive DeadlinePc where
  | idle
  | load
  | restarting
  | done
  deriving DecidableEq

/-- The boot state of the running image, the statics, the armed deadline, the parties, and whether
`esp_restart` has been called. Times are in milliseconds. -/
structure Validation where
  image : OtaImageState
  healthCallback : Bool := false
  validationStarted : Bool := false
  validationFinished : Bool := false
  deadline : Option Nat := none
  caller : CallerPc := .idle
  task : ValidateTaskPc := .absent
  gate : OtaHealthGate := {}
  callback : DeadlinePc := .idle
  restart : Bool := false
  now : Nat := 0

inductive ValidationLabel where
  | quiet
  | returned (result : EspErr)
  | armed (now : Nat)
  | taskStarted (now : Nat)
  | sample (now : Nat) (healthy : Bool)
  | mark (result : EspErr)
  | recorded
  | timerStopped
  | fired (now : Nat)
  | restart
  deriving DecidableEq

/-- What the calls of `gateway_ota_begin_validation` return up to the start of the timer; `healthy` says
that its argument is not null. -/
structure BeginCalls where
  healthy : Bool
  running : Option Partition
  state : EspErr
  next : Option Partition
  select : EspErr
  timerCreate : EspErr
  timerStart : EspErr

/-- The layout that the bootstrap of a fresh installation accepts. -/
def bootstrapLayout (running : Partition) (next : Option Partition) : Bool :=
  match next with
  | none => false
  | some next =>
    running.type = ESP_PARTITION_TYPE_APP ∧
      (running.subtype = ESP_PARTITION_SUBTYPE_APP_OTA_0 ∨
        running.subtype = ESP_PARTITION_SUBTYPE_APP_OTA_1) ∧
      next ≠ running ∧ next.type = ESP_PARTITION_TYPE_APP ∧
      next.size = running.size ∧ running.size.toNat = IMAGE_MAX_BYTES ∧
      (next.subtype = ESP_PARTITION_SUBTYPE_APP_OTA_0 ∨
        next.subtype = ESP_PARTITION_SUBTYPE_APP_OTA_1) ∧
      next.subtype ≠ running.subtype

/-- `gateway_ota_begin_validation` up to the start of the timer; until then it runs alone. -/
def beginValidation (calls : BeginCalls) (s : Validation) : ValidationLabel × Validation :=
  if s.validationStarted then (.returned ESP_OK, s)
  else if ¬ calls.healthy then (.returned ESP_ERR_INVALID_ARG, s)
  else
    match calls.running with
    | none => (.returned ESP_ERR_NOT_FOUND, s)
    | some running =>
      if calls.state = ESP_ERR_NOT_FOUND then
        if ¬ bootstrapLayout running calls.next then (.returned ESP_ERR_INVALID_STATE, s)
        else if calls.select ≠ ESP_OK then (.returned calls.select, s)
        else (.quiet, { s with image := .new, caller := .restarting })
      else if calls.state ≠ ESP_OK then (.returned calls.state, s)
      else if s.image ≠ .pendingVerify then (.returned ESP_OK, s)
      else
        let s := { s with healthCallback := true }
        if calls.timerCreate ≠ ESP_OK then (.returned calls.timerCreate, s)
        else if calls.timerStart ≠ ESP_OK then (.returned calls.timerStart, s)
        else
          (.armed s.now,
            { s with deadline := some (s.now + HEALTH_DEADLINE_MS), caller := .armed })

/-- The rest of `gateway_ota_begin_validation`; `created` is the outcome of `xTaskCreate`. -/
def callerStep (s : Validation) (created : Bool) : Option (ValidationLabel × Validation) :=
  match s.caller with
  | .idle | .stopped => none
  | .armed => some (.quiet, { s with validationStarted := true, caller := .started })
  | .started =>
    if created then some (.returned ESP_OK, { s with task := .created, caller := .idle })
    else some (.returned ESP_ERR_NO_MEM, { s with caller := .idle })
  | .restarting => some (.restart, { s with restart := true, caller := .stopped })

/-- `validate_task`; `ready` and `healthy` are what `gateway_ota_ready` and the health callback return,
`marked` what `esp_ota_mark_app_valid_cancel_rollback` returns. -/
def taskStep (s : Validation) (ready healthy : Bool) (marked : EspErr) :
    Option (ValidationLabel × Validation) :=
  match s.task with
  | .absent | .ended => none
  | .created =>
    some (.taskStarted s.now,
      { s with task := .delay (s.now + HEALTH_DELAY_MS), gate := {} })
  | .delay until_ => if until_ ≤ s.now then some (.quiet, { s with task := .check }) else none
  | .check => some (.quiet, { s with task := if s.validationFinished then .ended else .sample })
  | .sample =>
    let sample := ready && s.healthCallback && healthy
    let r := otaHealthGateSample s.gate sample HEALTH_SAMPLES
    some (.sample s.now sample,
      { s with task := if r.1 then .mark else .delay (s.now + 1000), gate := r.2 })
  | .mark =>
    if marked = ESP_OK then some (.mark marked, { s with image := .valid, task := .record })
    else some (.mark marked, { s with task := .restarting })
  | .record => some (.recorded, { s with validationFinished := true, task := .stopTimer })
  | .stopTimer => some (.timerStopped, { s with deadline := none, task := .ended })
  | .restarting => some (.restart, { s with restart := true, task := .ended })

/-- `hard_validation_deadline`. -/
def deadlineStep (s : Validation) : Option (ValidationLabel × Validation) :=
  match s.callback with
  | .idle | .done => none
  | .load =>
    some (.quiet, { s with callback := if s.validationFinished then .done else .restarting })
  | .restarting => some (.restart, { s with restart := true, callback := .done })

/-- The choices of the scheduler and of the platform. -/
inductive ValidationInput where
  | tick (elapsed : Nat)
  | begin (calls : BeginCalls)
  | caller (created : Bool)
  | task (ready healthy : Bool) (marked : EspErr)
  | fire
  | deadline

def validationNext (s : Validation) : ValidationInput → Option (ValidationLabel × Validation)
  | .tick elapsed => some (.quiet, { s with now := s.now + elapsed })
  | .begin calls => if s.caller = .idle then some (beginValidation calls s) else none
  | .caller created => callerStep s created
  | .task ready healthy marked => taskStep s ready healthy marked
  | .fire =>
    match s.deadline with
    | none => none
    | some due =>
      if due ≤ s.now then some (.fired s.now, { s with deadline := none, callback := .load })
      else none
  | .deadline => deadlineStep s

/-- The boot of an image that the bootloader has left pending. -/
def validationSystem : StepSystem Validation ValidationLabel :=
  StepSystem.ofFun { image := .pendingVerify } validationNext

end ModbusGateway
