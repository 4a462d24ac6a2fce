import ModbusGateway.Ats.Model
import ModbusGateway.Bacnet.Recovery
import ModbusGateway.Custom.Value

/-!
# Publishing the values

`gateway_bacnet_update` and the quality flag of `csv_changed` and `csv_clear`, in `gateway_bacnet.c`. A
setter of the stack stores what it is given.
-/

namespace ModbusGateway

/-- The `BACNET_RELIABILITY` values that are used. -/
inductive Reliability where
  | noFaultDetected
  | communicationFailure
  | unreliableOther
  deriving DecidableEq, Repr

/-- The present value of an object. -/
inductive PresentValue where
  | real (x : Float32)
  | binary (active : Bool)
  | unsigned (n : UInt32)
  | characterString (text : List Char)

/-- The objects of the stack, and the statics behind `gateway_bacnet_update`. The two `csv` arrays are
indexed by the place of the point in the catalogue. -/
structure Publication where
  initialized : Bool := false
  presentValue : ObjectId → PresentValue
  reliability : ObjectId → Reliability
  csvReliability : Nat → Reliability
  csvQualityChanged : Nat → Bool
  goodPoints : Nat := 0
  faultPoints : Nat := 0

/-- The object of a point. -/
def AtsPointDef.object (d : AtsPointDef) : ObjectId := ⟨d.objectType, d.instanceNumber⟩

/-- The `Present_Value_Set` of an object. -/
def Publication.setPresentValue (s : Publication) (object : ObjectId) (value : PresentValue) :
    Publication :=
  { s with presentValue := Function.update s.presentValue object value }

/-- The `Reliability_Set` of an object. -/
def Publication.setReliability (s : Publication) (object : ObjectId) (quality : Reliability) :
    Publication :=
  { s with reliability := Function.update s.reliability object quality }

/-- What `gateway_bacnet_init` leaves; `stack` is what the stack creates its objects with. -/
def publicationInit (stack : ObjectId → PresentValue) (points : List AtsPointDef) : Publication where
  initialized := true
  presentValue := stack
  reliability := fun _ => .communicationFailure
  csvReliability := fun _ => .communicationFailure
  csvQualityChanged := fun _ => true
  faultPoints := points.length

/-! ## The update -/

/-- The characters of a text up to its end. -/
def boundedText (text : Nat → Char) (capacity : Nat) : List Char :=
  ((List.range capacity).map text).takeWhile (· ≠ '\x00')

/-- `strnlen`. -/
def strnlen (text : Nat → Char) (capacity : Nat) : Nat := (boundedText text capacity).length

/-- `representable` of `gateway_bacnet_update`. -/
def representable (d : AtsPointDef) (value : AtsValue) : Bool :=
  let r := if d.objectType ≠ OBJECT_CHARACTERSTRING_VALUE then
    value.numeric.isFinite && value.numeric.abs ≤ FLT_MAX else true
  let r := if d.objectType = OBJECT_BINARY_INPUT then
    r && (value.numeric == 0 || value.numeric == 1) else r
  let r := if d.objectType = OBJECT_MULTI_STATE_INPUT then
    r && 1 ≤ value.numeric && value.numeric ≤ d.stateCount.toFloat &&
      floatFloor value.numeric == value.numeric else r
  if d.objectType = OBJECT_CHARACTERSTRING_VALUE then
    strnlen value.text ATS_TEXT_CAPACITY < ATS_TEXT_CAPACITY else r

/-- `good`. -/
def goodValue (d : AtsPointDef) (value : AtsValue) : Bool :=
  value.quality = .good && representable d value

/-- `publish`. -/
def publishes (d : AtsPointDef) (value : AtsValue) : Bool :=
  representable d value &&
    (goodValue d value || (value.quality = .unverified && value.rawCount > 0))

/-- `quality`. -/
def reliabilityOf (d : AtsPointDef) (value : AtsValue) : Reliability :=
  if goodValue d value then .noFaultDetected
  else if value.quality = .comm then .communicationFailure
  else .unreliableOther

/-- The loop body for the point at place `i`. -/
def updatePoint (i : Nat) (d : AtsPointDef) (value : AtsValue) (s : Publication) : Publication :=
  let publish := publishes d value
  let quality := reliabilityOf d value
  let s := { s with goodPoints := u32 (s.goodPoints + (if goodValue d value then 1 else 0)) }
  if d.objectType = OBJECT_ANALOG_INPUT then
    let s := if publish then s.setPresentValue d.object (.real value.numeric.toFloat32) else s
    s.setReliability d.object quality
  else if d.objectType = OBJECT_BINARY_INPUT then
    let s := if publish then s.setPresentValue d.object (.binary (value.numeric != 0)) else s
    s.setReliability d.object quality
  else if d.objectType = OBJECT_MULTI_STATE_INPUT then
    let s := if publish then s.setPresentValue d.object (.unsigned value.numeric.toUInt32) else s
    s.setReliability d.object quality
  else if d.objectType = OBJECT_CHARACTERSTRING_VALUE then
    let s := if publish then
      s.setPresentValue d.object (.characterString (boundedText value.text ATS_TEXT_CAPACITY)) else s
    let s := if s.csvReliability i ≠ quality then
      { s with csvQualityChanged := Function.update s.csvQualityChanged i true } else s
    { s with csvReliability := Function.update s.csvReliability i quality }
  else s

/-- The loop from the point at place `i` on. -/
def updatePoints (values : Nat → AtsValue) : Nat → List AtsPointDef → Publication → Publication
  | _, [], s => s
  | i, d :: points, s => updatePoints values (i + 1) points (updatePoint i d (values i) s)

/-- `gateway_bacnet_update`; `legacy` is `legacy_catalog`, and `none` is `NULL`. -/
def gatewayBacnetUpdate (legacy : Bool) (points : List AtsPointDef) (s : Publication)
    (values : Option (Nat → AtsValue)) : Publication :=
  match values with
  | none => s
  | some values =>
    if ¬ s.initialized then s
    else
      let s := updatePoints values 0 points { s with goodPoints := 0 }
      let s := { s with faultPoints := u32 (points.length + 2 ^ 32 - s.goodPoints) }
      let healthy :=
        if legacy then (values 0).quality = .good && (values 0).numeric.isFinite
        else s.faultPoints = 0
      let s := s.setPresentValue ⟨OBJECT_ANALOG_INPUT, DIAGNOSTIC_BASE + 2⟩
        (.real s.goodPoints.toFloat32)
      let s := s.setPresentValue ⟨OBJECT_ANALOG_INPUT, DIAGNOSTIC_BASE + 3⟩
        (.real s.faultPoints.toFloat32)
      s.setPresentValue ⟨OBJECT_BINARY_INPUT, DIAGNOSTIC_BASE⟩ (.binary healthy)

/-! ## The quality flag -/

/-- `catalog_index`; `none` is -1. -/
def catalogIndex (points : List AtsPointDef) (instanceNumber : Nat) : Option Nat :=
  points.findIdx? fun d =>
    d.objectType = OBJECT_CHARACTERSTRING_VALUE && d.instanceNumber = instanceNumber

/-- `csv_changed`; the stack and `retry_pending` are asked for the object. -/
def csvChanged (points : List AtsPointDef) (s : Publication) (valueChanged pending : Bool)
    (instanceNumber : Nat) : Bool :=
  valueChanged || (catalogIndex points instanceNumber).any s.csvQualityChanged || pending

/-- `csv_clear`, what it does to the quality flag. -/
def csvClear (points : List AtsPointDef) (s : Publication) (instanceNumber : Nat) : Publication :=
  match catalogIndex points instanceNumber with
  | some i => { s with csvQualityChanged := Function.update s.csvQualityChanged i false }
  | none => s

/-! ## Runs -/

inductive PublishInput where
  | update (values : Option (Nat → AtsValue))
  | clear (instanceNumber : Nat)

inductive PublishLabel where
  | ignored
  | update (values : Nat → AtsValue)
  | clear (instanceNumber : Nat)

def publishNext (legacy : Bool) (points : List AtsPointDef) (s : Publication) :
    PublishInput → Option (PublishLabel × Publication)
  | .update values =>
    let label :=
      match values with
      | some values => if s.initialized then PublishLabel.update values else .ignored
      | none => .ignored
    some (label, gatewayBacnetUpdate legacy points s values)
  | .clear instanceNumber => some (.clear instanceNumber, csvClear points s instanceNumber)

/-- The updates, and the notifications that clear a quality flag, from the initialisation on. -/
def publishSystem (legacy : Bool) (stack : ObjectId → PresentValue) (points : List AtsPointDef) :
    StepSystem Publication PublishLabel :=
  .ofFun (publicationInit stack points) (publishNext legacy points)

end ModbusGateway
