import ModbusGateway.Ats.Model
import ModbusGateway.Modbus.Frame
import ModbusGateway.Theory.Run

/-!
# The ATS poller

`gateway_poll.c`. The Modbus transport is an input of the step: `MbReply` is what `mb_read_holding`
leaves behind, its result and the word buffer, and the model puts no condition on either.
`pollSystem` is the system of all calls of `gateway_poll_step` and `gateway_poll_offline`; its
labels are the calls, with the request a step issued.
-/

namespace ModbusGateway

/-- The fields of `gateway_poll_config_t` that decide anything; the rest addresses the peer. -/
structure GatewayPollConfig where
  expectedFirmware : UInt16
  expectedMacFragment : UInt16

/-- What one Modbus read leaves in `last_result` and in the word buffer. -/
structure MbReply where
  result : MbResult
  words : Nat → UInt16

/-- A response of one word after 20 ms. -/
def wordReply (word : UInt16) : MbReply where
  result := { elapsedMs := 20 }
  words _ := word

/-- The exception an old map answers the probe of stage 2 with. -/
def oldMapReply : MbReply where
  result := { error := .exception, exceptionCode := 2, elapsedMs := 20 }
  words _ := 0

/-- One request of the poller: `block` is the scan block of a data request and `none` for an
identity check. -/
structure PollRequest where
  now : Nat
  offset : Nat
  quantity : Nat
  block : Option BlockIndex
  reply : MbReply

namespace PollRequest

def checking (r : PollRequest) : Bool := r.block.isNone

/-- `completed`. -/
def completed (r : PollRequest) : Nat := u64 (r.now + r.reply.result.elapsedMs)

/-- The read ended with an error and no exception code: the peer was not heard. -/
def transportFailed (r : PollRequest) : Prop :=
  r.reply.result.error ≠ .ok ∧ r.reply.result.exceptionCode = 0

end PollRequest

/-- `gateway_poll_t`. -/
structure GatewayPoll where
  model : AtsModel := atsModelInit
  nextDue : BlockIndex → Nat := fun _ => 0
  nextRequestMs : Nat := 0
  profileCheckMs : Nat := 0
  lastSuccessMs : Nat := 0
  requests : Nat := 0
  successes : Nat := 0
  failures : Nat := 0
  consecutiveFailures : Nat := 0
  transactionId : Nat := 0
  lastOffset : Nat := 0
  lastQuantity : Nat := 0
  profileStage : Nat := 0
  profileValid : Bool := false
  lastChecking : Bool := false
  lastResult : MbResult := {}
  profileStatus : String

def gatewayPollInit : GatewayPoll where
  profileStatus := "Awaiting controller identity"

/-- The loop of `gateway_poll_offline`: every scan block fails at `now`. -/
@[irreducible] def failAllBlocks (model : AtsModel) (now : Nat) : AtsModel :=
  (List.finRange 23).foldl
    (fun m b => atsModelFailBlock m (atsScanBlocks b).offset (atsScanBlocks b).count now) model

def gatewayPollOffline (s : GatewayPoll) (now : Nat) : GatewayPoll :=
  { s with
    model := failAllBlocks s.model now
    profileValid := false
    profileStage := 0
    profileStatus := "Network unavailable; identity check required" }

def rejectProfile (s : GatewayPoll) (now : Nat) (why : String) : GatewayPoll :=
  { gatewayPollOffline s now with
    profileStatus := why
    nextRequestMs := u64 (now + 30000) }

/-- The periodic recheck at the start of a step. -/
def recheckProfile (s : GatewayPoll) (now : Nat) : GatewayPoll :=
  if s.profileValid ∧ s.profileCheckMs ≤ now then
    { s with
      profileValid := false
      profileStage := 0
      profileStatus := "Rechecking controller identity" }
  else s

/-- Offset and quantity of the identity check of a stage. -/
def identityRequest : Nat → Nat × Nat
  | 0 => (9998, 1)
  | 1 => (1199, 1)
  | 2 => (1209, 3)
  | _ => (1201, 1)

/-- What the step asks for next: an identity check, the earliest due scan block, or nothing. -/
def chooseRequest (s : GatewayPoll) (now : Nat) : Option (Nat × Nat × Option BlockIndex) :=
  if s.profileValid then
    (earliestDue s.nextDue now).map fun b =>
      ((atsScanBlocks b).offset, (atsScanBlocks b).count, some b)
  else
    some ((identityRequest s.profileStage).1, (identityRequest s.profileStage).2, none)

/-- The bookkeeping around the read itself, up to `next_request_ms = completed + 250`. -/
def issueRequest (s : GatewayPoll) (r : PollRequest) : GatewayPoll :=
  { s with
    lastOffset := r.offset
    lastQuantity := r.quantity
    lastChecking := r.checking
    requests := u32 (s.requests + 1)
    transactionId := u16 (s.transactionId + 1)
    lastResult := r.reply.result
    nextRequestMs := u64 (r.completed + 250) }

/-- `expected_old_map`: exception 2 to the probe of stage 2 is the answer of an old map. -/
def expectedOldMap (s : GatewayPoll) (r : PollRequest) : Bool :=
  r.checking && s.profileStage == 2 && r.reply.result.error == .exception &&
    r.reply.result.exceptionCode == 2

/-- `consecutive_failures < 6 ? consecutive_failures * 5000 : 30000`. -/
def backoffMs (consecutiveFailures : Nat) : Nat :=
  if consecutiveFailures < 6 then consecutiveFailures * 5000 else 30000

/-- The failure branch of a step. -/
def requestFailed (s : GatewayPoll) (r : PollRequest) : GatewayPoll :=
  let s :=
    { s with
      failures := u32 (s.failures + 1)
      consecutiveFailures := u32 (s.consecutiveFailures + 1) }
  let s :=
    match r.block with
    | none => s
    | some b =>
      { s with
        model := atsModelFailBlock s.model r.offset r.quantity r.completed
        nextDue := Function.update s.nextDue b (u64 (r.completed + 5000)) }
  let s :=
    if r.reply.result.exceptionCode = 0 then gatewayPollOffline s r.completed
    else if r.checking then rejectProfile s r.completed "Identity read rejected"
    else s
  let wait := backoffMs s.consecutiveFailures
  { s with
    nextRequestMs :=
      if s.nextRequestMs < u64 (r.completed + wait) then u64 (r.completed + wait)
      else s.nextRequestMs }

/-- The answer to an identity check. -/
def identityAnswered (c : GatewayPollConfig) (s : GatewayPoll) (r : PollRequest)
    (expectedOldMap : Bool) : GatewayPoll :=
  let word := r.reply.words 0
  if s.profileStage = 0 ∧ word ≠ 23 then
    rejectProfile s r.completed "Wrong controller type: expected MPAC1500 ID23"
  else if s.profileStage = 1 ∧ word ≠ c.expectedFirmware then
    rejectProfile s r.completed "Firmware does not match commissioned old-map profile"
  else if s.profileStage = 2 ∧ ¬ expectedOldMap then
    rejectProfile s r.completed "Newer MPAC map detected; old map disabled"
  else if s.profileStage = 3 then
    if c.expectedMacFragment ≠ 0 ∧ word &&& 0x7fff ≠ c.expectedMacFragment then
      rejectProfile s r.completed "Controller MAC fingerprint mismatch"
    else
      { s with
        profileValid := true
        profileCheckMs := u64 (r.completed + 300000)
        profileStatus := "Old MPAC1500 profile verified" }
  else
    { s with profileStage := u8 (s.profileStage + 1) }

/-- A scan block was read. -/
def blockRead (s : GatewayPoll) (r : PollRequest) (b : BlockIndex) : GatewayPoll :=
  { s with
    model := atsModelApplyBlock s.model r.offset r.quantity r.reply.words r.completed
    nextDue := Function.update s.nextDue b (u64 (r.completed + (atsScanBlocks b).periodMs)) }

/-- The success branch of a step. -/
def requestSucceeded (c : GatewayPollConfig) (s : GatewayPoll) (r : PollRequest) : GatewayPoll :=
  let expected := expectedOldMap s r
  let s :=
    { s with
      successes := u32 (s.successes + 1)
      consecutiveFailures := 0
      lastSuccessMs := r.completed }
  match r.block with
  | none => identityAnswered c s r expected
  | some b => blockRead s r b

/-- `gateway_poll_step`; a call that issues no request returns `none`. -/
def gatewayPollStep (c : GatewayPollConfig) (s : GatewayPoll) (now : Nat) (reply : MbReply) :
    GatewayPoll × Option PollRequest :=
  if now < s.nextRequestMs then (s, none)
  else
    let s := recheckProfile s now
    match chooseRequest s now with
    | none => (s, none)
    | some (offset, quantity, block) =>
      let r : PollRequest := { now, offset, quantity, block, reply }
      let s := issueRequest s r
      if r.reply.result.error ≠ .ok ∧ ¬ expectedOldMap s r then (requestFailed s r, some r)
      else (requestSucceeded c s r, some r)

/-! ## All calls of the poller -/

/-- A call of the poller as seen from outside. -/
inductive PollLabel where
  | idle (now : Nat)
  | request (r : PollRequest)
  | offline (now : Nat)

def PollLabel.start : PollLabel → Nat
  | .idle now | .offline now => now
  | .request r => r.now

/-- The instant the call is over, on an unbounded clock. -/
def PollLabel.finish : PollLabel → Nat
  | .idle now | .offline now => now
  | .request r => r.now + r.reply.result.elapsedMs

/-- The inputs of the poller. -/
inductive PollCall where
  | step (now : Nat) (reply : MbReply)
  | offline (now : Nat)

def pollNext (c : GatewayPollConfig) (s : GatewayPoll) : PollCall → Option (PollLabel × GatewayPoll)
  | .step now reply =>
    match gatewayPollStep c s now reply with
    | (s', none) => some (.idle now, s')
    | (s', some r) => some (.request r, s')
  | .offline now => some (.offline now, gatewayPollOffline s now)

/-- Every sequence of `gateway_poll_step` and `gateway_poll_offline` after `gateway_poll_init`. -/
def pollSystem (c : GatewayPollConfig) : StepSystem GatewayPoll PollLabel :=
  .ofFun gatewayPollInit (pollNext c)

/-- History and state after a list of calls. -/
def pollAfter (c : GatewayPollConfig) (calls : List PollCall) : List PollLabel × GatewayPoll :=
  StepSystem.feed (pollNext c) calls ([], gatewayPollInit)

theorem pollSystem_run (c : GatewayPollConfig) (calls : List PollCall) :
    (pollSystem c).Run (pollAfter c calls).1 (pollAfter c calls).2 :=
  StepSystem.Run.feed calls (.init rfl)

end ModbusGateway
