import ModbusGateway.Verify.AppStep
import ModbusGateway.Verify.Backoff

/-!
# What is recorded of a failure

`poll_task` records a failure after the step that made it, from what the poller notes of its last
request. The notes of either poller are a `Ledger`, which takes one entry per request whatever else
the request does to the poller. `failures_recorded` compares the calls of `error_history_record` in a
run with the requests of the run that failed.
-/

namespace ModbusGateway

/-- A request of either poller as it was issued, and what came of it. -/
structure Exchange where
  function : Nat
  offset : Nat
  quantity : Nat
  checking : Bool
  result : MbResult
  failed : Bool

/-- The counters of either poller and its notes of the last request. -/
structure Ledger where
  requests : Nat
  successes : Nat
  failures : Nat
  transactionId : Nat
  function : Nat
  offset : Nat
  quantity : Nat
  checking : Bool
  result : MbResult

namespace Ledger

/-- The entry of one request. -/
def enter (l : Ledger) (e : Exchange) : Ledger where
  requests := u32 (l.requests + 1)
  successes := if e.failed then l.successes else u32 (l.successes + 1)
  failures := if e.failed then u32 (l.failures + 1) else l.failures
  transactionId := u16 (l.transactionId + 1)
  function := e.function
  offset := e.offset
  quantity := e.quantity
  checking := e.checking
  result := e.result

/-- The call of `record_failure` that the notes give. -/
def record (l : Ledger) : FailureRecord where
  function := l.function
  offset := l.offset
  quantity := l.quantity
  transactionId := l.transactionId
  phase := if l.checking then "identity" else "data"
  result := l.result

/-- The counters after these requests, newest first. -/
structure Tallies (l : Ledger) (es : List Exchange) : Prop where
  requests : l.requests = u32 es.length
  successes : l.successes = u32 (es.countP fun e => !e.failed)
  failures : l.failures = u32 (es.countP Exchange.failed)
  transactionId : l.transactionId = u16 es.length

theorem u32_succ (n : Nat) : u32 (u32 n + 1) = u32 (n + 1) := by
  unfold u32
  omega

theorem u16_succ (n : Nat) : u16 (u16 n + 1) = u16 (n + 1) := by
  unfold u16
  omega

theorem Tallies.enter {l : Ledger} (H : l.Tallies es) (e : Exchange) :
    (l.enter e).Tallies (e :: es) := by
  have hrequests : u32 (l.requests + 1) = u32 (es.length + 1) := by rw [H.requests, u32_succ]
  have hid : u16 (l.transactionId + 1) = u16 (es.length + 1) := by rw [H.transactionId, u16_succ]
  cases hfailed : e.failed with
  | true =>
    refine ⟨hrequests, ?_, ?_, hid⟩
    · simp [Ledger.enter, hfailed, H.successes]
    · simp [Ledger.enter, hfailed, H.failures, u32_succ]
  | false =>
    refine ⟨hrequests, ?_, ?_, hid⟩
    · simp [Ledger.enter, hfailed, H.successes, u32_succ]
    · simp [Ledger.enter, hfailed, H.failures]

/-- With fewer than 2^32 requests the counters are exact. -/
theorem Tallies.exact {l : Ledger} (H : l.Tallies es) (hcount : es.length < 2 ^ 32) :
    l.requests = es.length ∧ l.failures = es.countP Exchange.failed ∧
      l.requests = l.successes + l.failures := by
  have hsplit := List.length_eq_countP_add_countP Exchange.failed (l := es)
  have hnot : es.countP (fun e => decide ¬ e.failed = true) = es.countP fun e => !e.failed := by
    congr 1
    funext e
    cases e.failed <;> rfl
  rw [hnot] at hsplit
  have hfailures := H.failures
  have hsuccesses := H.successes
  have hrequests := H.requests
  rw [u32_of_lt (by omega)] at hfailures hsuccesses hrequests
  exact ⟨hrequests, hfailures, by omega⟩

/-- The counter of failures tells whether the last request failed. -/
theorem Tallies.failures_ne {l : Ledger} (H : l.Tallies es) (e : Exchange) :
    (l.enter e).failures ≠ l.failures ↔ e.failed = true := by
  have hfailures := H.failures
  cases hfailed : e.failed with
  | true =>
    have hentry : (l.enter e).failures = u32 (l.failures + 1) := by simp [Ledger.enter, hfailed]
    rw [hentry, hfailures]
    unfold u32
    exact iff_of_true (by omega) rfl
  | false =>
    have hentry : (l.enter e).failures = l.failures := by simp [Ledger.enter, hfailed]
    rw [hentry]
    exact iff_of_false (fun h => h rfl) Bool.false_ne_true

end Ledger

/-- The call that a request demands if `before` requests of its poller were issued before it. -/
def Exchange.failure (e : Exchange) (before : Nat) : Option FailureRecord :=
  if e.failed then
    some
      { function := e.function
        offset := e.offset
        quantity := e.quantity
        transactionId := u16 (before + 1)
        phase := if e.checking then "identity" else "data"
        result := e.result }
  else none

/-- What `poll_task` records is what the request demands. -/
theorem Ledger.Tallies.recorded {l : Ledger} (H : l.Tallies es) (e : Exchange) :
    (if (l.enter e).failures ≠ l.failures then some (l.enter e).record else none) =
      e.failure es.length := by
  have hid : u16 (l.transactionId + 1) = u16 (es.length + 1) := (H.enter e).transactionId
  unfold Exchange.failure
  by_cases hfailed : e.failed = true
  · rw [if_pos ((H.failures_ne e).mpr hfailed), if_pos hfailed, ← hid]
    rfl
  · rw [if_neg fun hne => hfailed ((H.failures_ne e).mp hne), if_neg hfailed]

/-! ## The notes of the ATS poller -/

def PollRequest.exchange (r : PollRequest) : Exchange where
  function := 3
  offset := r.offset
  quantity := r.quantity
  checking := r.checking
  result := r.reply.result
  failed := r.failed

def GatewayPoll.ledger (s : GatewayPoll) : Ledger where
  requests := s.requests
  successes := s.successes
  failures := s.failures
  transactionId := s.transactionId
  function := 3
  offset := s.lastOffset
  quantity := s.lastQuantity
  checking := s.lastChecking
  result := s.lastResult

theorem rejectProfile_ledger (s : GatewayPoll) (now : Nat) (why : String) :
    (rejectProfile s now why).ledger = s.ledger := rfl

theorem recheckProfile_ledger (s : GatewayPoll) (now : Nat) :
    (recheckProfile s now).ledger = s.ledger := by
  unfold recheckProfile
  split
  · rfl
  · rfl

/-- The failure branch may reset the profile, but not what is noted of the request. -/
theorem requestFailed_ledger (s : GatewayPoll) (r : PollRequest) :
    (requestFailed s r).ledger = { s.ledger with failures := u32 (s.failures + 1) } := by
  unfold requestFailed
  cases r.block with
  | none =>
    dsimp only
    split
    · rfl
    · split
      · rfl
      · rfl
  | some b =>
    dsimp only
    split
    · rfl
    · split
      · rfl
      · rfl

theorem identityAnswered_ledger (c : GatewayPollConfig) (s : GatewayPoll) (r : PollRequest)
    (expectedOldMap : Bool) : (identityAnswered c s r expectedOldMap).ledger = s.ledger := by
  unfold identityAnswered
  dsimp only
  split
  · exact rejectProfile_ledger s _ _
  split
  · exact rejectProfile_ledger s _ _
  split
  · exact rejectProfile_ledger s _ _
  split
  · split
    · exact rejectProfile_ledger s _ _
    · simp only [GatewayPoll.ledger]
  · simp only [GatewayPoll.ledger]

theorem requestSucceeded_ledger (c : GatewayPollConfig) (s : GatewayPoll) (r : PollRequest) :
    (requestSucceeded c s r).ledger = { s.ledger with successes := u32 (s.successes + 1) } := by
  unfold requestSucceeded
  dsimp only
  cases r.block with
  | none =>
    dsimp only
    rw [identityAnswered_ledger]
    rfl
  | some b => simp only [blockRead, GatewayPoll.ledger]

/-- The request a poller issues in the state `s`. The exception 2 to the probe of stage 2 is not a
failure. -/
structure Issues (s : GatewayPoll) (r : PollRequest) : Prop where
  chosen : chooseRequest s r.now = some (r.offset, r.quantity, r.block)
  failed : r.failed = true ↔ r.reply.result.error ≠ .ok ∧ ¬ expectedOldMap s r = true

theorem gatewayPollStep_issued (h : gatewayPollStep c s now reply = (s', some r)) :
    Issues (recheckProfile s r.now) r := by
  obtain ⟨-, rfl, -, hchoose, -⟩ := gatewayPollStep_request h
  refine ⟨hchoose, ?_⟩
  rw [expectedOldMap_eq hchoose]
  simp [PollRequest.failed]

theorem settle_ledger {s : GatewayPoll}
    (hfailed : r.failed = true ↔ r.reply.result.error ≠ .ok ∧ ¬ expectedOldMap s r = true) :
    (settle c (issueRequest s r) r).ledger = s.ledger.enter r.exchange := by
  have hsame : expectedOldMap (issueRequest s r) r = expectedOldMap s r := rfl
  have hissue : (issueRequest s r).ledger =
      { s.ledger.enter r.exchange with successes := s.successes, failures := s.failures } := rfl
  have hexchange : r.exchange.failed = r.failed := rfl
  have hsuccesses : (issueRequest s r).successes = s.successes := rfl
  have hfailures : (issueRequest s r).failures = s.failures := rfl
  unfold settle
  rw [hsame]
  by_cases hfail : r.failed = true
  · rw [if_pos (hfailed.mp hfail), requestFailed_ledger, hissue, hfailures]
    simp only [Ledger.enter, hexchange, if_pos hfail]
    rfl
  · rw [if_neg fun h => hfail (hfailed.mpr h), requestSucceeded_ledger, hissue, hsuccesses]
    simp only [Ledger.enter, hexchange, if_neg hfail]
    rfl

theorem gatewayPollStep_ledger (h : gatewayPollStep c s now reply = (s', some r)) :
    s'.ledger = s.ledger.enter r.exchange := by
  have hfailed := (gatewayPollStep_issued h).failed
  obtain ⟨-, rfl, -, -, rfl⟩ := gatewayPollStep_request h
  rw [settle_ledger hfailed, recheckProfile_ledger]

/-! ## The notes of the poller of a custom map -/

variable {map : CustomMap}

def CustomRequest.exchange (r : CustomRequest map) : Exchange where
  function := (map.points r.point).function
  offset := (map.defs r.point).offset
  quantity := (map.defs r.point).wordCount
  checking := false
  result := r.reply.result
  failed := r.failed

def CustomPoll.ledger (s : CustomPoll map) : Ledger where
  requests := s.requests
  successes := s.successes
  failures := s.failures
  transactionId := s.transactionId
  function := s.lastFunction
  offset := s.lastOffset
  quantity := s.lastQuantity
  checking := false
  result := s.lastResult

theorem customRequestFailed_ledger (s : CustomPoll map) (r : CustomRequest map) :
    (customRequestFailed s r).ledger = { s.ledger with failures := u32 (s.failures + 1) } := by
  unfold customRequestFailed
  dsimp only
  split
  · rfl
  · rfl

theorem customPollStep_ledger {s : CustomPoll map}
    (h : customPollStep s now reply = (s', some r)) : s'.ledger = s.ledger.enter r.exchange := by
  obtain ⟨-, rfl, -, -, rfl⟩ := customPollStep_request h
  have hissue : (customIssueRequest s r).ledger =
      { s.ledger.enter r.exchange with successes := s.successes, failures := s.failures } := rfl
  unfold customSettle
  by_cases hok : r.reply.result.error = .ok
  · have hfailed : r.exchange.failed = false := by
      simp [CustomRequest.exchange, CustomRequest.failed, hok]
    rw [if_pos hok]
    have hdone : (customRequestSucceeded (customIssueRequest s r) r).ledger =
      { (customIssueRequest s r).ledger with successes := u32 (s.successes + 1) } := rfl
    rw [hdone, hissue]
    simp only [Ledger.enter, hfailed]
    rfl
  · have hfailed : r.exchange.failed = true := by
      simp [CustomRequest.exchange, CustomRequest.failed, hok]
    rw [if_neg hok, customRequestFailed_ledger, hissue]
    simp only [Ledger.enter, hfailed]
    rfl

/-! ## The calls of `error_history_record` -/

variable {c : Boot}

/-- The requests of the ATS poller, newest first. -/
def atsRequests (h : List (AppLabel c)) : List Exchange :=
  h.filterMap fun
    | .read _ r _ => some r.exchange
    | _ => none

/-- The requests of the custom poller, newest first. -/
def customRequests (h : List (AppLabel c)) : List Exchange :=
  h.filterMap fun
    | .customRead _ r _ => some r.exchange
    | _ => none

/-- What a step recorded. -/
def AppLabel.recorded : AppLabel c → Option FailureRecord
  | .read _ _ recorded | .customRead _ _ recorded => recorded
  | _ => none

/-- What a step should record after the steps `older`. -/
def AppLabel.failure (older : List (AppLabel c)) : AppLabel c → Option FailureRecord
  | .read _ r _ => r.exchange.failure (atsRequests older).length
  | .customRead _ r _ => r.exchange.failure (customRequests older).length
  | _ => none

/-- One record for each failed request of the history, newest first. -/
def failureRecords : List (AppLabel c) → List FailureRecord
  | [] => []
  | l :: older => (l.failure older).toList ++ failureRecords older

/-- What `poll_task` records after a step of a poller. -/
theorem pollStep_recorded {s : App c} (h : pollStep s changed now reply = (l, s')) :
    (∃ r recorded, l = .read changed r recorded ∧ s'.custom = s.custom ∧
      gatewayPollStep c.pollConfig s.poller now reply = (s'.poller, some r) ∧
      recorded = if s'.poller.failures ≠ s.poller.failures then some s'.poller.ledger.record
        else none) ∨
    (∃ r recorded, l = .customRead changed r recorded ∧ s'.poller = s.poller ∧
      customPollStep s.custom now reply = (s'.custom, some r) ∧
      recorded = if s'.custom.failures ≠ s.custom.failures then some s'.custom.ledger.record
        else none) ∨
    l = .quiet ∧ s'.poller.ledger = s.poller.ledger ∧ s'.custom.ledger = s.custom.ledger := by
  unfold pollStep at h
  split at h
  · dsimp only at h
    split at h
    · next hidle =>
      cases h
      refine .inr (.inr ⟨rfl, rfl, ?_⟩)
      rw [customPollStep_idle hidle]
    · next r hstep =>
      cases h
      exact .inr (.inl ⟨r, _, rfl, rfl, hstep, rfl⟩)
  · dsimp only at h
    split at h
    · next hidle =>
      cases h
      refine .inr (.inr ⟨rfl, ?_, rfl⟩)
      rw [gatewayPollStep_idle hidle]
    · next r hstep =>
      cases h
      exact .inl ⟨r, _, rfl, rfl, hstep, rfl⟩

/-- The label of a step that issued a request. -/
def AppLabel.polled : AppLabel c → Bool
  | .read _ _ _ | .customRead _ _ _ => true
  | _ => false

/-- Requests are issued in the step of a poller and nowhere else. -/
theorem appNext_polled {s : App c} (h : appNext s i = some (l, s')) (hl : l.polled = true) :
    ∃ changed now reply s₁, pollStep s changed now reply = (l, s₁) ∧
      s'.poller = s₁.poller ∧ s'.custom = s₁.custom := by
  cases i with
  | finish reply =>
    simp only [appNext] at h
    split at h
    · next changed now hpc =>
      split at h
      · cases h
        exact ⟨changed, now, reply, _, rfl, rfl, rfl⟩
      · cases h
    · cases h
  | tick | network | sample | check | start | publish | enter | snapshot =>
    grind [appNext, AppLabel.polled]

/-- The ledgers and the records of a history. -/
structure Booked (h : List (AppLabel c)) (s : App c) : Prop where
  poller : s.poller.ledger.Tallies (atsRequests h)
  custom : s.custom.ledger.Tallies (customRequests h)
  recorded : h.filterMap AppLabel.recorded = failureRecords h

namespace Booked
variable {s s' : App c}

theorem init : Booked [] ({} : App c) :=
  ⟨⟨rfl, rfl, rfl, rfl⟩, ⟨rfl, rfl, rfl, rfl⟩, rfl⟩

/-- A step that issues no request. -/
theorem quiet (H : Booked h s) (hl : l.polled = false)
    (hpoller : s'.poller.ledger = s.poller.ledger) (hcustom : s'.custom.ledger = s.custom.ledger) :
    Booked (l :: h) s' := by
  obtain ⟨hp, hc, hr⟩ := H
  cases l with
  | read | customRead => cases hl
  | quiet | network | offline | publish | snapshot =>
    refine ⟨?_, ?_, hr⟩
    · rw [hpoller]
      exact hp
    · rw [hcustom]
      exact hc

theorem records (hl : l.recorded = l.failure h)
    (hr : h.filterMap AppLabel.recorded = failureRecords h) :
    (l :: h).filterMap AppLabel.recorded = failureRecords (l :: h) := by
  rw [failureRecords, ← hr, ← hl, List.filterMap_cons]
  cases l.recorded with
  | none => rfl
  | some record => rfl

theorem read {recorded : Option FailureRecord} (H : Booked h s) (hcustom : s'.custom = s.custom)
    (hstep : gatewayPollStep c.pollConfig s.poller now reply = (s'.poller, some r))
    (hrecorded : recorded = if s'.poller.failures ≠ s.poller.failures then
      some s'.poller.ledger.record else none) :
    Booked (.read changed r recorded :: h) s' := by
  have hledger := gatewayPollStep_ledger hstep
  refine ⟨?_, ?_, records ?_ H.recorded⟩
  · rw [hledger]
    exact H.poller.enter r.exchange
  · rw [hcustom]
    exact H.custom
  · have hdemanded := H.poller.recorded r.exchange
    rw [← hledger] at hdemanded
    rw [AppLabel.recorded, hrecorded]
    exact hdemanded

theorem customRead {recorded : Option FailureRecord} (H : Booked h s) (hpoller : s'.poller = s.poller)
    (hstep : customPollStep s.custom now reply = (s'.custom, some r))
    (hrecorded : recorded = if s'.custom.failures ≠ s.custom.failures then
      some s'.custom.ledger.record else none) :
    Booked (.customRead changed r recorded :: h) s' := by
  have hledger := customPollStep_ledger hstep
  refine ⟨?_, ?_, records ?_ H.recorded⟩
  · rw [hpoller]
    exact H.poller
  · rw [hledger]
    exact H.custom.enter r.exchange
  · have hdemanded := H.custom.recorded r.exchange
    rw [← hledger] at hdemanded
    rw [AppLabel.recorded, hrecorded]
    exact hdemanded

/-- The step of a poller. -/
theorem polled (H : Booked h s) (hstep : pollStep s changed now reply = (l, s₁))
    (hpoller : s'.poller = s₁.poller) (hcustom : s'.custom = s₁.custom) : Booked (l :: h) s' := by
  rcases pollStep_recorded hstep with ⟨r, recorded, rfl, hsame, hcall, hrecorded⟩ |
    ⟨r, recorded, rfl, hsame, hcall, hrecorded⟩ | ⟨rfl, hsame, hsame'⟩
  · rw [← hpoller] at hcall hrecorded
    exact H.read (hcustom.trans hsame) hcall hrecorded
  · rw [← hcustom] at hcall hrecorded
    exact H.customRead (hpoller.trans hsame) hcall hrecorded
  · rw [← hpoller] at hsame
    rw [← hcustom] at hsame'
    exact H.quiet rfl hsame hsame'

theorem step (H : Booked h s) (hnext : appNext s i = some (l, s')) : Booked (l :: h) s' := by
  by_cases hl : l.polled = true
  · obtain ⟨changed, now, reply, s₁, hstep, hpoller, hcustom⟩ := appNext_polled hnext hl
    exact H.polled hstep hpoller hcustom
  have hl : l.polled = false := Bool.eq_false_iff.mpr hl
  have hstep := AppStep.ofNext hnext
  cases hstep with
  | read | customRead => cases hl
  | tick | network | sample | checkOffline | check | start | skip | idle | publishOffline | publish
    | enter | snapshot => exact H.quiet hl rfl rfl

theorem ofRun (run : (appSystem c).Run h s) : Booked h s := by
  induction run with
  | init hinit =>
    cases hinit
    exact .init
  | step _ hstep ih =>
    obtain ⟨i, hnext⟩ := hstep
    exact ih.step hnext

end Booked

/-- The request of a `read` label is the one the poller chose in the state before. -/
theorem read_issued (run : (appSystem c).Run (newer ++ .read changed r recorded :: older) s) :
    ∃ s₀, (appSystem c).Run older s₀ ∧ Issues (recheckProfile s₀.poller r.now) r := by
  obtain ⟨s₀, s₁, hrun, i, hnext⟩ := run.step_of_append
  obtain ⟨_, now, reply, s₂, hstep, -, -⟩ := appNext_polled hnext rfl
  refine ⟨s₀, hrun, ?_⟩
  rcases pollStep_recorded hstep with ⟨r', recorded', hlabel, -, hcall, -⟩ |
    ⟨_, _, hlabel, -⟩ | ⟨hlabel, -⟩
  · cases hlabel
    exact gatewayPollStep_issued hcall
  · cases hlabel
  · cases hlabel

/-- Every failed request is recorded once, with its own data. The counters of both pollers are exact,
`failures` counts the failed requests, and the calls of `error_history_record` are those that the
failed requests demand, in order. -/
theorem failures_recorded (run : (appSystem c).Run h s)
    (hcount : (atsRequests h).length + (customRequests h).length < 2 ^ 32) :
    (s.poller.requests = s.poller.successes + s.poller.failures ∧
      s.poller.failures = (atsRequests h).countP Exchange.failed) ∧
    (s.custom.requests = s.custom.successes + s.custom.failures ∧
      s.custom.failures = (customRequests h).countP Exchange.failed) ∧
    h.filterMap AppLabel.recorded = failureRecords h ∧
    ∀ newer changed r recorded older, h = newer ++ .read changed r recorded :: older →
      ∃ s₀, (appSystem c).Run older s₀ ∧ Issues (recheckProfile s₀.poller r.now) r := by
  have H := Booked.ofRun run
  obtain ⟨-, hfailures, hsum⟩ := H.poller.exact (by omega)
  obtain ⟨-, hfailures', hsum'⟩ := H.custom.exact (by omega)
  refine ⟨⟨hsum, hfailures⟩, ⟨hsum', hfailures'⟩, H.recorded, ?_⟩
  rintro newer changed r recorded older rfl
  exact read_issued run

/-- A controller that rejects the first identity check and answers the second one. -/
def rejectedInputs : List AppInput :=
  [.network true, .sample, .check 0 0 0, .start, .tick 20, .finish oldMapReply, .publish 20 20 20,
    .tick 30000] ++ [.sample, .check 0 0 0, .start, .tick 20, .finish (wordReply 23)]

theorem failures_recorded_rejected :
    (appAfter defaultBoot rejectedInputs).2.poller.failures = 1 ∧
      ((appAfter defaultBoot rejectedInputs).1.filterMap AppLabel.recorded).map
        (fun f => (f.function, f.offset, f.transactionId, f.phase)) =
          [(3, 9998, 1, "identity")] := by
  have hcount : (atsRequests (appAfter defaultBoot rejectedInputs).1).length +
      (customRequests (appAfter defaultBoot rejectedInputs).1).length < 2 ^ 32 := by
    decide +kernel
  obtain ⟨⟨-, hfailures⟩, -, hrecorded, -⟩ :=
    failures_recorded (appSystem_run defaultBoot rejectedInputs) hcount
  rw [hfailures, hrecorded]
  decide +kernel

end ModbusGateway
