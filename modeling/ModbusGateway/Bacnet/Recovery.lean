import ModbusGateway.Bacnet.Catalog
import ModbusGateway.Theory.Run

/-!
# Recovery of timed-out notifications

The recovery table of `gateway_bacnet.c` and the callbacks the BACnet stack drives it with. Of the stack
itself there is what one pass of `handler_cov_fsm` does: it asks `Object_COV` for every subscription,
calls `Object_COV_Clear` for those that are to be sent, and sends what it has a transaction for.
-/

namespace ModbusGateway

def RECOVERY_CAPACITY : Nat := GATEWAY_BACNET_MAX_POINTS + 8

/-- Type and instance of an object. -/
structure ObjectId where
  type : Nat
  instanceNumber : Nat
  deriving DecidableEq

/-- `recovery_t`. -/
structure RecoverySlot where
  used : Bool := false
  object : ObjectId := ⟨0, 0⟩
  due : Nat := 0

/-- A valid subscription of the stack. -/
structure CovSubscription where
  object : ObjectId
  sendRequested : Bool

/-- The state behind the callbacks: the clock, the flags of the objects, the recovery table with its
counters, and the subscriptions of the stack. -/
structure Cov where
  nowMs : Nat := 0
  valueChanged : ObjectId → Bool := fun _ => false
  csvQualityChanged : Nat → Bool := fun _ => true
  recovery : List RecoverySlot := List.replicate RECOVERY_CAPACITY {}
  covTimeouts : Nat := 0
  covRefreshes : Nat := 0
  covPending : Nat := 0
  subscriptions : List CovSubscription := []

/-- `recovery[i].used && recovery[i].type == type && recovery[i].instance == instance`. -/
def RecoverySlot.holds (slot : RecoverySlot) (object : ObjectId) : Bool :=
  slot.used && slot.object == object

/-- `retry_pending`. -/
def retryPending (s : Cov) (object : ObjectId) : Bool :=
  s.recovery.any fun slot => slot.holds object && slot.due ≤ s.nowMs

/-- One turn of the loop of `retry_clear`. -/
def clearSlot (object : ObjectId) (s : Cov) (slot : RecoverySlot) : Cov × RecoverySlot :=
  if slot.holds object then
    ({ s with
        covRefreshes := if slot.due ≤ s.nowMs then u32 (s.covRefreshes + 1) else s.covRefreshes
        covPending := u32 (s.covPending + UINT32_MAX) },
      { slot with used := false })
  else (s, slot)

/-- The loop of `retry_clear`. -/
def clearSlots (object : ObjectId) (s : Cov) : List RecoverySlot → Cov × List RecoverySlot
  | [] => (s, [])
  | slot :: slots =>
    let cleared := clearSlot object s slot
    let rest := clearSlots object cleared.1 slots
    (rest.1, cleared.2 :: rest.2)

/-- `retry_clear`. -/
def retryClear (s : Cov) (object : ObjectId) : Cov :=
  let cleared := clearSlots object s s.recovery
  { cleared.1 with recovery := cleared.2 }

/-- The object types that have the wrappers of `COV_WRAPPERS`. -/
def covTypes : List Nat := [OBJECT_ANALOG_INPUT, OBJECT_BINARY_INPUT, OBJECT_MULTI_STATE_INPUT]

/-- `Object_COV` of the object table: the wrappers of `COV_WRAPPERS`, or `csv_changed`; `catalog` is the
list of the CharacterString Value instances among the points. -/
def objectCov (catalog : List Nat) (s : Cov) (object : ObjectId) : Bool :=
  if object.type ∈ covTypes then s.valueChanged object || retryPending s object
  else if object.type = OBJECT_CHARACTERSTRING_VALUE then
    s.valueChanged object ||
      (object.instanceNumber ∈ catalog && s.csvQualityChanged object.instanceNumber) ||
      retryPending s object
  else false

/-- `Change_Of_Value_Clear` of an object. -/
def clearValue (s : Cov) (object : ObjectId) : Cov :=
  { s with valueChanged := Function.update s.valueChanged object false }

/-- `Object_COV_Clear` of the object table: a wrapper of `COV_WRAPPERS`, or `csv_clear`. -/
def objectCovClear (catalog : List Nat) (s : Cov) (object : ObjectId) : Cov :=
  if object.type ∈ covTypes then retryClear (clearValue s object) object
  else if object.type = OBJECT_CHARACTERSTRING_VALUE then
    let s := clearValue s object
    let s :=
      if object.instanceNumber ∈ catalog then
        { s with
          csvQualityChanged := Function.update s.csvQualityChanged object.instanceNumber false }
      else s
    retryClear s object
  else s

/-- The first unused slot takes the new entry. -/
def fillSlot (new : RecoverySlot) : List RecoverySlot → Option (List RecoverySlot)
  | [] => none
  | slot :: slots =>
    if slot.used then (fillSlot new slots).map fun slots => slot :: slots
    else some (new :: slots)

/-- `cov_timeout` for a notification about an object, and whether the object is in the table then. -/
def covTimeout (s : Cov) (object : ObjectId) : Cov × Bool :=
  let s := { s with covTimeouts := u32 (s.covTimeouts + 1) }
  if s.recovery.any fun slot => slot.holds object then (s, true)
  else
    match fillSlot { used := true, object, due := u64 (s.nowMs + 1000) } s.recovery with
    | some recovery => ({ s with recovery, covPending := u32 (s.covPending + 1) }, true)
    | none => (s, false)

/-! ## The stack -/

/-- The objects of valid subscriptions for which `Object_COV` is true. -/
def covSeen (catalog : List Nat) (s : Cov) : List ObjectId :=
  (s.subscriptions.map CovSubscription.object).filter (objectCov catalog s)

/-- The subscriptions of these objects are to be sent. -/
def covMark (catalog : List Nat) (s : Cov) : List CovSubscription :=
  s.subscriptions.map fun sub =>
    { sub with sendRequested := sub.sendRequested || objectCov catalog s sub.object }

/-- `Object_COV_Clear` for every subscription that is to be sent. -/
def covClear (catalog : List Nat) (s : Cov) : List CovSubscription → Cov
  | [] => s
  | sub :: subs => covClear catalog (if sub.sendRequested then objectCovClear catalog s sub.object else s) subs

/-- What is sent needs no sending any more; `sent` says for which of them there was a transaction. -/
def covSend (sent : Nat → Bool) (subs : List CovSubscription) : List CovSubscription :=
  subs.mapIdx fun i sub => { sub with sendRequested := sub.sendRequested && !sent i }

/-- One pass of `handler_cov_fsm`. -/
def covPass (catalog : List Nat) (s : Cov) (sent : Nat → Bool) : Cov :=
  let marked := covMark catalog s
  { covClear catalog s marked with subscriptions := covSend sent marked }

/-! ## All interleavings -/

inductive CovInput where
  | tick (timestamp : Nat)
  | change (object : ObjectId)
  | quality (instanceNumber : Nat)
  | subscribe (object : ObjectId)
  | timeout (object : ObjectId)
  | pass (sent : Nat → Bool)

inductive CovLabel where
  | quiet
  | timeout (object : ObjectId) (time : Nat) (recorded : Bool)
  | pass (start : Nat) (seen : List ObjectId)
  deriving DecidableEq

/-- `Object_COV` exists for the type. -/
def ObjectId.supportsCov (object : ObjectId) : Bool :=
  object.type ∈ covTypes || object.type = OBJECT_CHARACTERSTRING_VALUE

/-- A notification that times out was one of a valid subscription; only objects with `Object_COV` can be
subscribed to. -/
def covNext (catalog : List Nat) (s : Cov) : CovInput → Option (CovLabel × Cov)
  | .tick timestamp =>
    if s.nowMs ≤ timestamp ∧ timestamp < 2 ^ 64 then some (.quiet, { s with nowMs := timestamp })
    else none
  | .change object =>
    some (.quiet, { s with valueChanged := Function.update s.valueChanged object true })
  | .quality instanceNumber =>
    some (.quiet,
      { s with csvQualityChanged := Function.update s.csvQualityChanged instanceNumber true })
  | .subscribe object =>
    if object.supportsCov then
      some (.quiet, { s with subscriptions := s.subscriptions ++ [⟨object, true⟩] })
    else none
  | .timeout object =>
    if ∃ sub ∈ s.subscriptions, sub.object = object then
      some (.timeout object s.nowMs (covTimeout s object).2, (covTimeout s object).1)
    else none
  | .pass sent => some (.pass s.nowMs (covSeen catalog s), covPass catalog s sent)

def covSystem (catalog : List Nat) : StepSystem Cov CovLabel :=
  .ofFun {} (covNext catalog)

/-- History and state after a list of inputs. -/
def covAfter (catalog : List Nat) (inputs : List CovInput) : List CovLabel × Cov :=
  StepSystem.feed (covNext catalog) inputs ([], {})

theorem covSystem_run (catalog : List Nat) (inputs : List CovInput) :
    (covSystem catalog).Run (covAfter catalog inputs).1 (covAfter catalog inputs).2 :=
  StepSystem.Run.feed inputs (.init rfl)

end ModbusGateway
