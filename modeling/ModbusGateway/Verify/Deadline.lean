import ModbusGateway.Verify.Streaming

/-!
# The deadline of a request

`mb_read_points` fixes its deadline once and takes what is left of it anew before each `select`. Here
the calls it makes are read back: each one is judged by the calls before it, and
`mbReadPoints_deadline` says that no outcome of `connect`, `select`, `send` and `recv` gets a call past
the deadline.
-/

namespace ModbusGateway

/-- The last call was a reading of the clock before the deadline. -/
def OnTime (deadline : Nat) (calls : List NetCall) : Prop :=
  ∃ now older, calls = .clock now :: older ∧ now < deadline

/-- The last calls were a `select` and a reading of the clock before the deadline. -/
def WaitedInTime (writing : Bool) (deadline : Nat) (calls : List NetCall) : Prop :=
  ∃ now sec usec older, calls = .clock now :: .select writing sec usec :: older ∧ now < deadline

/-- The last calls were a `recv` and a reading of the clock before the deadline. -/
def ReceivedInTime (deadline : Nat) (calls : List NetCall) : Prop :=
  ∃ now position length older,
    calls = .clock now :: .recv position length :: older ∧ now < deadline

/-- A call that respects the deadline, `older` being the calls before it. A `select` returns at the
deadline at the latest, and its timeout fits a `timeval` of 32 bits. -/
def NetCall.Respects (deadline : Nat) : NetCall → List NetCall → Prop
  | .clock _, _ => True
  | .select _ sec usec, older => ∃ now before, older = .clock now :: before ∧ now < deadline ∧
      sec < 2 ^ 31 ∧ usec < 1000000 ∧ now * 1000 + (sec * 1000000 + usec) ≤ deadline * 1000
  | .connect, older => OnTime deadline older
  | .send _ _, older => WaitedInTime true deadline older
  | .recv _ _, older => WaitedInTime false deadline older

def CallsRespect (deadline : Nat) (calls : List NetCall) : Prop :=
  ∀ newer call older, calls = newer ++ call :: older → call.Respects deadline older

/-- The errors by which a frame is judged. The others are those of the transport. -/
def MbError.ofFrame : MbError → Bool
  | .argument | .connect | .io | .timeout | .truncated => false
  | .ok | .transaction | .protocol | .unit | .length | .function | .byteCount | .exception => true

/-! ## Later deadlines and longer records -/

theorem NetCall.Respects.mono {call : NetCall} (H : call.Respects deadline older)
    (hle : deadline ≤ deadline') : call.Respects deadline' older := by
  cases call with
  | clock => trivial
  | select =>
    obtain ⟨now, before, hcalls, hlt, hsec, husec, hend⟩ := H
    have hscale : deadline * 1000 ≤ deadline' * 1000 := Nat.mul_le_mul_right 1000 hle
    exact ⟨now, before, hcalls, hlt.trans_le hle, hsec, husec, hend.trans hscale⟩
  | connect =>
    obtain ⟨now, before, hcalls, hlt⟩ := H
    exact ⟨now, before, hcalls, hlt.trans_le hle⟩
  | send | recv =>
    obtain ⟨now, sec, usec, before, hcalls, hlt⟩ := H
    exact ⟨now, sec, usec, before, hcalls, hlt.trans_le hle⟩

theorem CallsRespect.mono (H : CallsRespect deadline calls) (hle : deadline ≤ deadline') :
    CallsRespect deadline' calls :=
  fun newer call older hcalls => (H newer call older hcalls).mono hle

theorem CallsRespect.nil : CallsRespect deadline [] := by
  intro newer call older hcalls
  exact absurd hcalls.symm (List.append_ne_nil_of_right_ne_nil newer (List.cons_ne_nil call older))

theorem CallsRespect.cons {call : NetCall} (H : CallsRespect deadline calls)
    (hcall : call.Respects deadline calls) : CallsRespect deadline (call :: calls) := by
  intro newer call' older hcalls
  cases newer with
  | nil =>
    obtain ⟨rfl, rfl⟩ := List.cons_eq_cons.mp hcalls
    exact hcall
  | cons first newer =>
    obtain ⟨-, htail⟩ := List.cons_eq_cons.mp hcalls
    exact H newer call' older htail

/-- The clock may be read at any time. -/
theorem CallsRespect.clock (H : CallsRespect deadline calls) (now : Nat) :
    CallsRespect deadline (.clock now :: calls) := by
  have hcall : (NetCall.clock now).Respects deadline calls := trivial
  exact H.cons hcall

/-! ## Single calls -/

/-- What every step of the request keeps. The clock does not go back behind the start. -/
structure Net.Keeps (net : Net) (started deadline : Nat) : Prop where
  span : deadline < started + 2 ^ 32
  last : started ≤ net.last
  clock : ∀ t ∈ net.clock, started ≤ t
  calls : CallsRespect deadline net.calls

/-- A step that keeps `Net.Keeps`, fails for reasons of the transport only and, if it does not fail,
leaves the calls in `Q`. -/
structure StepKeeps (started deadline : Nat) (Q : List NetCall → Prop) (r : MbError × Net) :
    Prop where
  keeps : r.2.Keeps started deadline
  done : r.1.ofFrame → r.1 = .ok ∧ Q r.2.calls

theorem Net.now_calls (net : Net) : net.now.2.calls = .clock net.now.1 :: net.calls := by
  unfold Net.now
  split <;> rfl

section
variable {net : Net} {started deadline : Nat} {Q : List NetCall → Prop}

theorem Net.Keeps.log (H : net.Keeps started deadline) {call : NetCall}
    (hcall : call.Respects deadline net.calls) : (net.log call).Keeps started deadline :=
  ⟨H.span, H.last, H.clock, H.calls.cons hcall⟩

theorem Net.Keeps.withSelects (H : net.Keeps started deadline) (selects : List SelectOutcome) :
    { net with selects }.Keeps started deadline :=
  ⟨H.span, H.last, H.clock, H.calls⟩

theorem Net.Keeps.now (H : net.Keeps started deadline) :
    started ≤ net.now.1 ∧ net.now.2.Keeps started deadline := by
  unfold Net.now
  split
  · exact ⟨H.last, H.log trivial⟩
  · next t ts hclock =>
    have hmem (t' : Nat) (ht' : t' ∈ t :: ts) : started ≤ t' := H.clock t' (hclock ▸ ht')
    refine ⟨hmem t List.mem_cons_self, H.span, hmem t List.mem_cons_self, fun t' ht' => ?_, ?_⟩
    · exact hmem t' (List.mem_cons_of_mem t ht')
    · exact H.calls.clock t

theorem Net.Keeps.inTime (H : net.Keeps started deadline)
    (hnext : ∀ now < deadline, Q (.clock now :: net.calls)) :
    StepKeeps started deadline Q (net.inTime deadline) := by
  obtain ⟨-, hnow⟩ := H.now
  refine ⟨hnow, ?_⟩
  unfold Net.inTime
  dsimp only
  split
  · next hlt =>
    intro _
    rw [net.now_calls]
    exact ⟨rfl, hnext _ hlt⟩
  · intro hframe
    exact absurd hframe Bool.false_ne_true

theorem Net.Keeps.failed (H : net.Keeps started deadline) (herror : error.ofFrame = false) :
    StepKeeps started deadline Q (error, net) :=
  ⟨H, fun hframe => absurd (herror.symm.trans hframe) Bool.false_ne_true⟩

theorem Net.Keeps.fail (H : net.Keeps started deadline) (herror : error.ofFrame = false) (e : Errno) :
    StepKeeps started deadline Q (net.fail error e) :=
  ⟨⟨H.span, H.last, H.clock, H.calls⟩, fun hframe => absurd (herror.symm.trans hframe) Bool.false_ne_true⟩

/-! ## Waiting -/

/-- The timeout of a `select`, to the millisecond. -/
theorem Net.Keeps.logSelect {now : Nat} (H : net.Keeps started deadline) (writing : Bool)
    (hcalls : net.calls = .clock now :: before) (hstarted : started ≤ now) (hlt : now < deadline) :
    (net.log (.select writing ((deadline - now) / 1000)
      ((deadline - now) % 1000 * 1000))).Keeps started deadline := by
  have hspan := H.span
  refine H.log ⟨now, before, hcalls, hlt, ?_, ?_, ?_⟩
  · omega
  · omega
  · omega

theorem waitReadyLoop_keeps (H : net.Keeps started deadline) :
    StepKeeps started deadline (WaitedInTime writing deadline)
      (waitReadyLoop writing deadline selects net) := by
  induction selects generalizing net with
  | nil =>
    obtain ⟨hstarted, hnow⟩ := (H.withSelects []).now
    have hcalls := Net.now_calls { net with selects := [] }
    unfold waitReadyLoop
    dsimp only
    split
    · exact hnow.failed rfl
    next hlt =>
    have hwait := hnow.logSelect writing hcalls hstarted (Nat.not_le.mp hlt)
    exact hwait.inTime fun now' hlt' => ⟨now', _, _, _, rfl, hlt'⟩
  | cons s selects ih =>
    obtain ⟨hstarted, hnow⟩ := (H.withSelects (s :: selects)).now
    have hcalls := Net.now_calls { net with selects := s :: selects }
    unfold waitReadyLoop
    dsimp only
    split
    · exact hnow.failed rfl
    next hlt =>
    have hwait := hnow.logSelect writing hcalls hstarted (Nat.not_le.mp hlt)
    have hrest := hwait.withSelects selects
    cases s with
    | ready =>
      refine hrest.inTime ?_
      exact fun now' hlt' => ⟨now', _, _, _, rfl, hlt'⟩
    | timeout => exact hrest.failed rfl
    | failed e =>
      dsimp only
      split
      · exact ih hwait
      · exact hrest.fail rfl e

theorem waitReady_keeps (H : net.Keeps started deadline) (writing : Bool) :
    StepKeeps started deadline (WaitedInTime writing deadline) (waitReady writing deadline net) :=
  waitReadyLoop_keeps H

theorem StepKeeps.ok {net' : Net} (H : StepKeeps started deadline Q r) (hr : r = (.ok, net')) :
    net'.Keeps started deadline ∧ Q net'.calls := by
  subst hr
  exact ⟨H.keeps, (H.done rfl).2⟩

/-- What stops a step stops what follows it. -/
theorem StepKeeps.stop {P : List NetCall → Prop} {net' : Net} (H : StepKeeps started deadline Q r)
    (hr : r = (error, net')) (hstop : error ≠ .ok) :
    StepKeeps started deadline P (error, net') := by
  subst hr
  exact ⟨H.keeps, fun hframe => absurd (H.done hframe).1 hstop⟩

/-! ## The transfers -/

theorem sendExact_keeps (H : net.Keeps started deadline) (length position : Nat) :
    StepKeeps started deadline (fun _ => True)
      (sendExact deadline length sends position net) := by
  induction sends generalizing position net with
  | nil =>
    unfold sendExact
    split
    · exact H.inTime fun _ _ => trivial
    have hwait := waitReady_keeps H true
    split
    · next heq =>
      obtain ⟨hready, hwaited⟩ := hwait.ok heq
      have hsend : (NetCall.send position (length - position)).Respects deadline _ := hwaited
      exact (hready.log hsend).inTime fun _ _ => trivial
    · next hne heq => exact hwait.stop heq hne
  | cons s sends ih =>
    unfold sendExact
    split
    · exact H.inTime fun _ _ => trivial
    have hwait := waitReady_keeps H true
    split
    · next heq =>
      obtain ⟨hready, hwaited⟩ := hwait.ok heq
      have hsend : (NetCall.send position (length - position)).Respects deadline _ := hwaited
      have hlog := hready.log hsend
      cases s with
      | sent n => exact ih hlog _
      | zero => exact hlog.failed rfl
      | failed e =>
        dsimp only
        split
        · exact ih hlog position
        · exact hlog.fail rfl e
    · next hne heq => exact hwait.stop heq hne

/-- The last call was a `recv`. -/
def EndsInRecv (calls : List NetCall) : Prop :=
  ∃ position length before, calls = .recv position length :: before

theorem Net.log_recv (net : Net) (position length : Nat) :
    EndsInRecv (net.log (.recv position length)).calls :=
  ⟨position, length, net.calls, rfl⟩

theorem Net.Keeps.received (H : net.Keeps started deadline) (hrecv : EndsInRecv net.calls)
    (bytes : List UInt8) (recvs : List RecvOutcome) :
    StepKeeps started deadline (ReceivedInTime deadline)
      ((ModbusGateway.received bytes recvs (net.inTime deadline)).error,
        (ModbusGateway.received bytes recvs (net.inTime deadline)).net) := by
  obtain ⟨position, length, before, hcalls⟩ := hrecv
  exact H.inTime fun now hlt => ⟨now, position, length, before, by rw [hcalls], hlt⟩

theorem receiveExact_keeps (H : net.Keeps started deadline) (base length : Nat)
    (hfull : length ≤ bytes.length → EndsInRecv net.calls) :
    StepKeeps started deadline (ReceivedInTime deadline)
      ((receiveExact deadline base length recvs bytes net).error,
        (receiveExact deadline base length recvs bytes net).net) := by
  induction recvs generalizing bytes net with
  | nil =>
    unfold receiveExact
    split
    · next hlen => exact H.received (hfull hlen) bytes []
    have hwait := waitReady_keeps H false
    split
    · next heq =>
      obtain ⟨hready, hwaited⟩ := hwait.ok heq
      have hrecv : (NetCall.recv (base + bytes.length) (length - bytes.length)).Respects
        deadline _ := hwaited
      exact (hready.log hrecv).failed rfl
    · next hne heq => exact hwait.stop heq hne
  | cons r recvs ih =>
    unfold receiveExact
    split
    · next hlen => exact H.received (hfull hlen) bytes (r :: recvs)
    have hwait := waitReady_keeps H false
    split
    · next heq =>
      obtain ⟨hready, hwaited⟩ := hwait.ok heq
      have hrecv : (NetCall.recv (base + bytes.length) (length - bytes.length)).Respects
        deadline _ := hwaited
      have hlog := hready.log hrecv
      cases r with
      | data b bs =>
        dsimp only
        split
        · exact ih hlog fun _ => Net.log_recv _ _ _
        · exact hlog.received (Net.log_recv _ _ _) _ _
      | failed e =>
        dsimp only
        split
        · exact ih hlog fun _ => Net.log_recv _ _ _
        · exact hlog.fail rfl e
    · next hne heq => exact hwait.stop heq hne

/-- A `receive_exact` that succeeds has filled its buffer. -/
theorem receiveExact_full (deadline base length : Nat) (recvs : List RecvOutcome)
    (bytes : List UInt8) (net : Net) :
    (receiveExact deadline base length recvs bytes net).error = .ok →
      length ≤ (receiveExact deadline base length recvs bytes net).bytes.length := by
  induction recvs generalizing bytes net with
  | nil =>
    unfold receiveExact
    split
    · next hlen => exact fun _ => hlen
    split
    · exact fun h => (by cases h)
    · next hne _ => exact fun h => absurd h hne
  | cons r recvs ih =>
    unfold receiveExact
    split
    · next hlen => exact fun _ => hlen
    split
    · cases r with
      | data b bs =>
        dsimp only
        split
        · exact ih _ _
        · next hsome =>
          intro _
          have hasked : length - bytes.length < (b :: bs).length := by
            refine Nat.lt_of_not_le fun hle => ?_
            rw [List.drop_eq_nil_of_le hle] at hsome
            cases hsome
          simp only [received, List.length_append, List.length_take]
          omega
      | failed e =>
        dsimp only
        split
        · exact ih _ _
        · exact fun h => (by cases h)
    · next hne _ => exact fun h => absurd h hne

theorem connectSocket_keeps (H : net.Keeps started deadline) (env : ReadEnv)
    (htime : OnTime deadline net.calls) :
    StepKeeps started deadline (fun _ => True) (connectSocket env deadline net) := by
  have hlog : (net.log .connect).Keeps started deadline := H.log htime
  unfold connectSocket
  split
  · exact ⟨hlog, fun _ => ⟨rfl, trivial⟩⟩
  dsimp only
  split
  · exact hlog.fail rfl _
  have hwait := waitReady_keeps hlog true
  split
  · next heq =>
    obtain ⟨hready, -⟩ := hwait.ok heq
    split
    · exact hready.fail rfl _
    · exact hready.fail rfl _
    · exact ⟨hready, fun _ => ⟨rfl, trivial⟩⟩
  · next hne heq => exact hwait.stop heq hne

theorem openConnection_keeps (H : net.Keeps started deadline) (env : ReadEnv) :
    StepKeeps started deadline (fun _ => True) (openConnection env deadline net) := by
  unfold openConnection
  split
  · exact H.fail rfl _
  split
  · exact H.fail rfl _
  have htime : StepKeeps started deadline (OnTime deadline) (net.inTime deadline) :=
    H.inTime fun now hlt => ⟨now, net.calls, rfl, hlt⟩
  split
  · next heq =>
    obtain ⟨hopen, hnow⟩ := htime.ok heq
    exact connectSocket_keeps hopen env hnow
  · next hne heq => exact htime.stop heq hne

/-! ## The errors of a frame -/

theorem checkHeader_judges (h : checkHeader frame tid unit = some error) :
    error.ofFrame ∧ (error = .ok → ∃ r, readBe16 frame 4 = some r ∧ 3 ≤ r.toNat) := by
  simp only [checkHeader, Option.bind_eq_bind, Option.bind_eq_some_iff] at h
  obtain ⟨remaining, hremaining, t, -, h⟩ := h
  split at h
  · cases h
    exact ⟨rfl, fun h => (by cases h)⟩
  obtain ⟨p, -, h⟩ := Option.bind_eq_some_iff.mp h
  split at h
  · cases h
    exact ⟨rfl, fun h => (by cases h)⟩
  obtain ⟨u, -, h⟩ := Option.bind_eq_some_iff.mp h
  split at h
  · cases h
    exact ⟨rfl, fun h => (by cases h)⟩
  split at h
  · cases h
    exact ⟨rfl, fun h => (by cases h)⟩
  next hlength =>
  cases h
  refine ⟨rfl, fun _ => ⟨remaining, hremaining, ?_⟩⟩
  have hthree := Nat.le_of_not_lt fun hlt => hlength (.inl (UInt16.lt_iff_toNat_lt.mpr hlt))
  exact hthree

/-- The decoder judges the response to a valid request by nothing but the frame. -/
theorem mbDecodeReadResponse_judges
    (hrequest : mbBuildReadRequest tid unit function offset qty ≠ none)
    (h : mbDecodeReadResponse frame tid unit function qty out = some (result, out')) :
    result.error.ofFrame = true := by
  obtain ⟨hf₁, hf₄, hq⟩ := mbBuildReadRequest_valid hrequest
  have hvalid : ¬ (function < 1 ∨ function > 4 ∨ ¬ validQuantity qty = true) := by
    rintro (h | h | h)
    · exact UInt8.not_lt.mpr hf₁ h
    · exact UInt8.not_lt.mpr hf₄ h
    · exact h hq
  unfold mbDecodeReadResponse at h
  rw [if_neg hvalid] at h
  split at h
  · cases h
    rfl
  obtain ⟨error, hcheck, h⟩ := Option.bind_eq_some_iff.mp h
  split at h
  · cases h
    exact (checkHeader_judges hcheck).1
  obtain ⟨remaining, -, h⟩ := Option.bind_eq_some_iff.mp h
  split at h
  · cases h
    rfl
  obtain ⟨f, -, h⟩ := Option.bind_eq_some_iff.mp h
  split at h
  · obtain ⟨code, -, h⟩ := Option.bind_eq_some_iff.mp h
    split at h
    · cases h
      rfl
    · cases h
      rfl
  obtain ⟨f', -, h⟩ := Option.bind_eq_some_iff.mp h
  split at h
  · cases h
    rfl
  obtain ⟨count, -, h⟩ := Option.bind_eq_some_iff.mp h
  split at h
  · cases h
    rfl
  split at h
  · cases h
    rfl
  obtain ⟨decoded, -, h⟩ := Option.bind_eq_some_iff.mp h
  cases h
  rfl

/-! ## The whole request -/

/-- The calls of a whole read: all of them respect the deadline, and after the last `recv` of one that
is judged by its frame the clock was before the deadline. The last call of all reads the elapsed
time. -/
structure RequestKeeps (deadline : Nat) (o : ReadOutcome) : Prop where
  calls : CallsRespect deadline o.net.calls
  judged : o.result.error.ofFrame →
    ∃ ended older, o.net.calls = .clock ended :: older ∧ ReceivedInTime deadline older

theorem Net.Keeps.finishRead (H : net.Keeps started deadline) (result : MbResult)
    (out : List UInt16) (recvs : List RecvOutcome)
    (hjudged : result.error.ofFrame → ReceivedInTime deadline net.calls) :
    RequestKeeps deadline (ModbusGateway.finishRead started result out recvs net) := by
  refine ⟨H.now.2.calls, fun hframe => ?_⟩
  exact ⟨net.now.1, net.calls, net.now_calls, hjudged hframe⟩

theorem StepKeeps.readFailed {net' : Net} (H : StepKeeps started deadline Q (error, net'))
    (hne : error ≠ .ok) (out : List UInt16) (recvs : List RecvOutcome) :
    RequestKeeps deadline (ModbusGateway.readFailed started error out recvs net') := by
  refine H.keeps.finishRead _ out recvs fun hframe => ?_
  have hok : error = .ok := (H.done hframe).1
  exact absurd hok hne

theorem readResponse_keeps (H : net.Keeps started deadline) {call : ReadCall}
    (hrequest : mbBuildReadRequest call.tid call.unit call.function call.offset call.qty ≠ none)
    (recvs : List RecvOutcome) (out : List UInt16) :
    ∃ o, readResponse call started deadline recvs out net = some o ∧ RequestKeeps deadline o := by
  obtain ⟨hf₁, hf₄, hq⟩ := mbBuildReadRequest_valid hrequest
  have hheader := @receiveExact_keeps net started deadline recvs [] H 0 7 nofun
  have hseven := receiveExact_full deadline 0 7 recvs [] net
  unfold readResponse
  generalize receiveExact deadline 0 7 recvs [] net = header at hheader hseven ⊢
  dsimp only
  split
  · next hne => exact ⟨_, rfl, hheader.readFailed hne out _⟩
  next hok =>
  have hok : header.error = .ok := Decidable.not_not.mp hok
  obtain ⟨hready, hreceived⟩ := hheader.ok (Prod.ext hok rfl)
  obtain ⟨error, hcheck⟩ : ∃ error, checkHeader header.bytes call.tid call.unit = some error := by
    rcases checkHeader_cases call.tid call.unit (hseven hok) with ⟨h, -⟩ | ⟨error, h, -⟩
    · exact ⟨_, h⟩
    · exact ⟨error, h⟩
  simp only [hcheck, Option.bind_eq_bind, Option.bind_some]
  split
  · exact ⟨_, rfl, hready.finishRead _ out _ fun _ => hreceived⟩
  next hokay =>
  obtain ⟨declared, hdeclared, hthree⟩ :=
    (checkHeader_judges hcheck).2 (Decidable.not_not.mp hokay)
  have hrest := @receiveExact_keeps _ started deadline header.recvs [] hready 7
    (6 + declared.toNat - 7) fun hfull => by rw [List.length_nil] at hfull; omega
  simp only [hdeclared, Option.bind_some]
  generalize receiveExact deadline 7 (6 + declared.toNat - 7) header.recvs [] header.net = rest
    at hrest ⊢
  split
  · next hne => exact ⟨_, rfl, hrest.readFailed hne out _⟩
  next hok =>
  have hok : rest.error = .ok := Decidable.not_not.mp hok
  obtain ⟨hdone, hreceived⟩ := hrest.ok (Prod.ext hok rfl)
  obtain ⟨result, out', hdecode, -⟩ := mbDecodeReadResponse_verdict (header.bytes ++ rest.bytes)
    call.tid call.unit out hf₁ hf₄ hq
  simp only [hdecode, Option.bind_some]
  exact ⟨_, rfl, hdone.finishRead result out' _ fun _ => hreceived⟩

end

/-- The clock does not go back behind its first reading. -/
theorem Net.started_le_clock {net : Net} (hclock : net.clock.Pairwise (· ≤ ·)) :
    net.now.1 ≤ net.now.2.last ∧ ∀ t ∈ net.now.2.clock, net.now.1 ≤ t := by
  unfold Net.now
  split
  · next hnil => exact ⟨le_rfl, fun t ht => by rw [Net.log, hnil] at ht; cases ht⟩
  · next t ts hcons =>
    rw [hcons] at hclock
    exact ⟨le_rfl, fun t' ht' => List.rel_of_pairwise_cons hclock ht'⟩

theorem RequestKeeps.mono (H : RequestKeeps deadline o) (hle : deadline ≤ deadline') :
    RequestKeeps deadline' o := by
  refine ⟨H.calls.mono hle, fun hframe => ?_⟩
  obtain ⟨ended, older, hcalls, now, position, length, before, holder, hlt⟩ := H.judged hframe
  exact ⟨ended, older, hcalls, now, position, length, before, holder, hlt.trans_le hle⟩

/-- No outcome of the calls takes a request past its deadline: what is asked of `select` ends there,
nothing is sent or received but after a reading of the clock before it, and a response is judged only
if the clock was before it after the last byte. -/
theorem mbReadPoints_deadline {call : ReadCall} {env : ReadEnv} (hfirst : env.net.calls = [])
    (hclock : env.net.clock.Pairwise (· ≤ ·))
    (inetPton : CString → Option UInt32) (out : List UInt16) :
    (∃ o, mbReadPoints inetPton call env out = some o ∧
      RequestKeeps (env.net.now.1 + call.timeoutMs.toNat) o) ∧
    ∀ frame result out', mbBuildReadRequest call.tid call.unit call.function call.offset
        call.qty ≠ none →
      mbDecodeReadResponse frame call.tid call.unit call.function call.qty out =
        some (result, out') → result.error.ofFrame = true := by
  refine ⟨?_, fun frame result out' hrequest => mbDecodeReadResponse_judges hrequest⟩
  have hle : u64 (env.net.now.1 + call.timeoutMs.toNat) ≤ env.net.now.1 + call.timeoutMs.toNat :=
    u64_le
  have htimeout : call.timeoutMs.toNat < 2 ^ 32 := call.timeoutMs.toNat_lt
  obtain ⟨hlast, hlater⟩ := Net.started_le_clock hclock
  have hkeeps : env.net.now.2.Keeps env.net.now.1
      (u64 (env.net.now.1 + call.timeoutMs.toNat)) := by
    refine ⟨by omega, hlast, hlater, ?_⟩
    rw [Net.now_calls, hfirst]
    exact CallsRespect.nil.clock env.net.now.1
  suffices ∃ o, mbReadPoints inetPton call env out = some o ∧
      RequestKeeps (u64 (env.net.now.1 + call.timeoutMs.toNat)) o by
    obtain ⟨o, hread, H⟩ := this
    exact ⟨o, hread, H.mono hle⟩
  unfold mbReadPoints
  dsimp only
  split
  · exact ⟨_, rfl, hkeeps.finishRead _ out _ nofun⟩
  next hvalid =>
  have hrequest : mbBuildReadRequest call.tid call.unit call.function call.offset call.qty ≠ none :=
    fun h => hvalid (.inr (.inr (.inl h)))
  have hopen := openConnection_keeps hkeeps env
  split
  · next heq =>
    obtain ⟨hopened, -⟩ := hopen.ok heq
    have hsend := @sendExact_keeps _ _ _ env.sends hopened MB_FC03_REQUEST_SIZE 0
    split
    · next heq' => exact readResponse_keeps (hsend.ok heq').1 hrequest env.recvs out
    · next hne heq' =>
      have hstop := hsend.stop (P := fun _ => True) heq' hne
      exact ⟨_, rfl, hstop.readFailed hne out env.recvs⟩
  · next hne heq =>
    have hstop := hopen.stop (P := fun _ => True) heq hne
    exact ⟨_, rfl, hstop.readFailed hne out env.recvs⟩

/-- The read that begins at 100 ms ends, and nothing is waited for past 1300 ms. -/
theorem mbReadPoints_deadline_coils : ∃ o,
    mbReadPoints coilsPton coilsCall coilsEnv [9, 9, 9] = some o ∧ RequestKeeps 1300 o := by
  have hclock : coilsEnv.net.clock.Pairwise (· ≤ ·) := by decide
  exact (mbReadPoints_deadline rfl hclock coilsPton [9, 9, 9]).1

end ModbusGateway
