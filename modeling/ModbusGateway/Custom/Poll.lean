import ModbusGateway.Custom.Value
import ModbusGateway.Poll.Gateway

/-!
# The poller of a custom map

The second half of `custom_map.c`: one request at most per call, the earliest due point first. The
transport is an input of the step, as it is for the ATS poller.
-/

namespace ModbusGateway

/-- `custom_poll_t`, for the points of a map. -/
structure CustomPoll (map : CustomMap) where
  values : Fin map.count → AtsValue
  nextDue : Fin map.count → Nat := fun _ => 0
  acquired : Fin map.count → Bool := fun _ => false
  nextRequestMs : Nat := 0
  lastSuccessMs : Nat := 0
  requests : Nat := 0
  successes : Nat := 0
  failures : Nat := 0
  consecutiveFailures : Nat := 0
  transactionId : Nat := 0
  lastOffset : Nat := 0
  lastQuantity : Nat := 0
  lastFunction : Nat := 0
  lastResult : MbResult := {}

/-- One request of the poller: the point it reads and what the transport left behind. -/
structure CustomRequest (map : CustomMap) where
  now : Nat
  point : Fin map.count
  reply : MbReply

namespace CustomRequest
variable (r : CustomRequest map)

/-- `completed`. -/
def completed : Nat := u64 (r.now + r.reply.result.elapsedMs)

/-- The words of the response as they are applied to a value. -/
def applyTo (value : AtsValue) : AtsValue × Bool :=
  customMapApply map r.point r.reply.words (map.defs r.point).wordCount r.completed value

/-- The read ended with an error and no exception code: the peer was not heard. -/
def transportFailed : Prop := r.reply.result.error ≠ .ok ∧ r.reply.result.exceptionCode = 0

end CustomRequest

variable {map : CustomMap}

def customPollInit (map : CustomMap) : CustomPoll map where
  values _ := .unacquired "Not acquired"

def customPollOffline (s : CustomPoll map) (_now : Nat) : CustomPoll map :=
  { s with
    values := fun i => (s.values i).grade .comm "Network unavailable or transport failed" }

/-- `custom_poll_snapshot`: a copy of the values in which what is too old is graded down. -/
def customPollSnapshot (s : CustomPoll map) (now : Nat) (i : Fin map.count) : AtsValue :=
  if s.acquired i ∧ (s.values i).lastGoodMs ≤ now ∧
      customMapStaleMs map i < now - (s.values i).lastGoodMs then
    (s.values i).grade .comm "Custom point is stale"
  else s.values i

/-- The bookkeeping around the read itself, up to `next_request_ms = completed + 250`. -/
def customIssueRequest (s : CustomPoll map) (r : CustomRequest map) : CustomPoll map :=
  { s with
    lastOffset := (map.defs r.point).offset
    lastQuantity := (map.defs r.point).wordCount
    lastFunction := (map.points r.point).function
    requests := u32 (s.requests + 1)
    transactionId := u16 (s.transactionId + 1)
    lastResult := r.reply.result
    nextRequestMs := u64 (r.completed + 250) }

/-- The success branch of a step. -/
def customRequestSucceeded (s : CustomPoll map) (r : CustomRequest map) : CustomPoll map :=
  let applied := r.applyTo (s.values r.point)
  { s with
    consecutiveFailures := 0
    successes := u32 (s.successes + 1)
    lastSuccessMs := r.completed
    values := Function.update s.values r.point applied.1
    acquired := if applied.2 then Function.update s.acquired r.point true else s.acquired
    nextDue := Function.update s.nextDue r.point (u64 (r.completed + (map.points r.point).pollMs)) }

/-- The failure branch of a step. -/
def customRequestFailed (s : CustomPoll map) (r : CustomRequest map) : CustomPoll map :=
  let s :=
    { s with
      failures := u32 (s.failures + 1)
      consecutiveFailures :=
        if s.consecutiveFailures < UINT32_MAX then s.consecutiveFailures + 1
        else s.consecutiveFailures
      values := Function.update s.values r.point
        ((s.values r.point).grade .comm "Modbus read failed")
      nextDue := Function.update s.nextDue r.point
        (u64 (r.completed + max (map.points r.point).pollMs 5000)) }
  let s := if r.reply.result.exceptionCode = 0 then customPollOffline s r.completed else s
  { s with nextRequestMs := u64 (r.completed + backoffMs s.consecutiveFailures) }

/-- `custom_poll_step`; a call that issues no request returns `none`. -/
def customPollStep (s : CustomPoll map) (now : Nat) (reply : MbReply) :
    CustomPoll map × Option (CustomRequest map) :=
  if now < s.nextRequestMs then (s, none)
  else
    match earliestDue s.nextDue now with
    | none => (s, none)
    | some point =>
      let r : CustomRequest map := { now, point, reply }
      let s := customIssueRequest s r
      if r.reply.result.error = .ok then (customRequestSucceeded s r, some r)
      else (customRequestFailed s r, some r)

/-! ## All calls of the poller -/

/-- A call of the poller as seen from outside. -/
inductive CustomLabel (map : CustomMap) where
  | idle (now : Nat)
  | request (r : CustomRequest map)
  | offline (now : Nat)

def customNext (s : CustomPoll map) : PollCall → Option (CustomLabel map × CustomPoll map)
  | .step now reply =>
    match customPollStep s now reply with
    | (s', none) => some (.idle now, s')
    | (s', some r) => some (.request r, s')
  | .offline now => some (.offline now, customPollOffline s now)

/-- Every sequence of `custom_poll_step` and `custom_poll_offline` after `custom_poll_init`. -/
def customSystem (map : CustomMap) : StepSystem (CustomPoll map) (CustomLabel map) :=
  .ofFun (customPollInit map) customNext

/-- History and state after a list of calls. -/
def customAfter (map : CustomMap) (calls : List PollCall) :
    List (CustomLabel map) × CustomPoll map :=
  StepSystem.feed customNext calls ([], customPollInit map)

theorem customSystem_run (map : CustomMap) (calls : List PollCall) :
    (customSystem map).Run (customAfter map calls).1 (customAfter map calls).2 :=
  StepSystem.Run.feed calls (.init rfl)

end ModbusGateway
