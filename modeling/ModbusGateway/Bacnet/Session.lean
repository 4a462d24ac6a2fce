import ModbusGateway.Bacnet.Publish

/-!
# Sessions of the BACnet side

`gateway_bacnet_init` and `gateway_bacnet_shutdown` around the recovery table: a session has one
catalogue, and the table is empty before and after it. What the stack does with the callbacks inside a
session is one input for each call.
-/

namespace ModbusGateway

/-- The callbacks' state, and the catalogue while `stats.initialized`. -/
structure CovSession where
  cov : Cov := {}
  points : Option (List AtsPointDef) := none

/-- The diagnostic objects that `gateway_bacnet_init` creates. -/
def diagnosticObjects : List ObjectId :=
  [⟨OBJECT_ANALOG_INPUT, DIAGNOSTIC_BASE⟩, ⟨OBJECT_ANALOG_INPUT, DIAGNOSTIC_BASE + 1⟩,
    ⟨OBJECT_ANALOG_INPUT, DIAGNOSTIC_BASE + 2⟩, ⟨OBJECT_ANALOG_INPUT, DIAGNOSTIC_BASE + 3⟩,
    ⟨OBJECT_BINARY_INPUT, DIAGNOSTIC_BASE⟩, ⟨OBJECT_BINARY_INPUT, DIAGNOSTIC_BASE + 1⟩]

/-- The objects of the current catalogue and the gateway's own. -/
def CovSession.objects (s : CovSession) : List ObjectId :=
  (s.points.getD []).map AtsPointDef.object ++ diagnosticObjects

/-- The CharacterString Value instances of the current catalogue. -/
def CovSession.csvInstances (s : CovSession) : List Nat :=
  ((s.points.getD []).filter fun d => d.objectType = OBJECT_CHARACTERSTRING_VALUE).map
    AtsPointDef.instanceNumber

/-- `gateway_bacnet_shutdown`. -/
def gatewayBacnetShutdown (_ : CovSession) : CovSession where
  cov := { ({} : Cov) with csvQualityChanged := fun _ => false }
  points := none

/-- The catalogue `gateway_bacnet_init` takes. -/
def BacnetConfig.catalog (input : BacnetConfig) : List AtsPointDef :=
  match input.points with
  | some points => points.take input.pointCount
  | none => (List.ofFn atsPoints).take ATS_POINT_COUNT

/-- `gateway_bacnet_init`; `created` says whether the objects and the port can be set up. -/
def gatewayBacnetInit (stack : BacnetStack) (s : CovSession) (input : BacnetConfig)
    (timestamp : Nat) (created : Bool) : CovSession :=
  if ¬ bacnetInitChecks stack s.points.isSome input then s
  else
    let s : CovSession :=
      { cov := { ({} : Cov) with nowMs := timestamp }
        points := some input.catalog }
    if created then s else gatewayBacnetShutdown s

inductive SessionInput where
  | init (input : BacnetConfig) (timestamp : Nat) (created : Bool)
  | shutdown
  | tick (timestamp : Nat)
  | timeout (object : ObjectId)
  | clear (object : ObjectId)

/-- A notification that times out is about an object of the session. -/
def sessionNext (stack : BacnetStack) (s : CovSession) : SessionInput → Option (SessionInput × CovSession)
  | .init input timestamp created =>
    some (.init input timestamp created, gatewayBacnetInit stack s input timestamp created)
  | .shutdown => some (.shutdown, gatewayBacnetShutdown s)
  | .tick timestamp =>
    some (.tick timestamp,
      if s.points.isNone ∨ timestamp < s.cov.nowMs then s
      else { s with cov := { s.cov with nowMs := timestamp } })
  | .timeout object =>
    if object ∈ s.objects then
      some (.timeout object, { s with cov := (covTimeout s.cov object).1 })
    else none
  | .clear object =>
    some (.clear object, { s with cov := objectCovClear s.csvInstances s.cov object })

def sessionSystem (stack : BacnetStack) : StepSystem CovSession SessionInput :=
  .ofFun {} (sessionNext stack)

end ModbusGateway
