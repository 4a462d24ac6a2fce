import ModbusGateway.Modbus.Socket
import ModbusGateway.Verify.ResponseFrame

/-!
# Reading from a stream

As long as the deadline is not reached, `receive_exact` depends on the bytes the peer sends and not on
how they arrive: `receiveExact_early` says so for any fragmentation. `mb_read_points` is therefore the
decoder on the first bytes of the stream, which `streamedRead` spells out.
-/

namespace ModbusGateway

/-- The bytes still to be received. -/
def pendingBytes : List RecvOutcome → List UInt8
  | [] => []
  | .data b bs :: recvs => b :: bs ++ pendingBytes recvs
  | .failed _ :: recvs => pendingBytes recvs

/-- Receiving fails only to be tried again. -/
def RecvsRetry (recvs : List RecvOutcome) : Prop :=
  ∀ e, .failed e ∈ recvs → e.retry = true

/-- Sending makes progress or fails only to be tried again. -/
def SendsRetry (sends : List SendOutcome) : Prop :=
  .zero ∉ sends ∧ ∀ e, .failed e ∈ sends → e.retry = true

/-- All readings of the clock are before the deadline, and `select` waits until the socket is ready. -/
structure Net.Early (net : Net) (deadline : Nat) : Prop where
  last : net.last < deadline
  clock : ∀ t ∈ net.clock, t < deadline
  selects : ∀ s ∈ net.selects, s = .ready ∨ s = .failed .intr

/-- `r` holds the first `length` bytes of the stream, or all of it if it is shorter. -/
structure Delivers (deadline length : Nat) (stream : List UInt8) (r : Received) : Prop where
  error : r.error = if length ≤ stream.length then .ok else .truncated
  bytes : r.bytes = stream.take length
  early : r.net.Early deadline
  retry : RecvsRetry r.recvs
  rest : pendingBytes r.recvs = stream.drop length

/-! ## Before the deadline -/

section
variable {net : Net} {deadline : Nat}

theorem Net.Early.log (H : net.Early deadline) (call : NetCall) : (net.log call).Early deadline :=
  ⟨H.last, H.clock, H.selects⟩

theorem Net.Early.withSelects (H : net.Early deadline) {selects : List SelectOutcome}
    (hselects : ∀ s ∈ selects, s = .ready ∨ s = .failed .intr) :
    { net with selects }.Early deadline :=
  ⟨H.last, H.clock, hselects⟩

theorem Net.Early.now (H : net.Early deadline) :
    net.now.1 < deadline ∧ net.now.2.Early deadline := by
  unfold Net.now
  split
  · exact ⟨H.last, H.log _⟩
  · next t ts hclock =>
    have hmem (t' : Nat) (ht' : t' ∈ t :: ts) : t' < deadline := H.clock t' (hclock ▸ ht')
    refine ⟨hmem t List.mem_cons_self, hmem t List.mem_cons_self, fun t' ht' => ?_, H.selects⟩
    exact hmem t' (List.mem_cons_of_mem t ht')

theorem Net.Early.inTime (H : net.Early deadline) :
    ∃ net', net.inTime deadline = (.ok, net') ∧ net'.Early deadline := by
  obtain ⟨hlt, hearly⟩ := H.now
  exact ⟨net.now.2, by simp only [Net.inTime, if_pos hlt], hearly⟩

theorem waitReadyLoop_early (H : net.Early deadline)
    (hselects : ∀ s ∈ selects, s = .ready ∨ s = .failed .intr) :
    ∃ net', waitReadyLoop writing deadline selects net = (.ok, net') ∧
      net'.Early deadline := by
  induction selects generalizing net with
  | nil =>
    obtain ⟨hlt, hearly⟩ := (H.withSelects hselects).now
    unfold waitReadyLoop
    simp only [if_neg (Nat.not_le.mpr hlt)]
    exact (hearly.log _).inTime
  | cons s selects ih =>
    obtain ⟨hlt, hearly⟩ := (H.withSelects hselects).now
    have hrest : ∀ s ∈ selects, s = .ready ∨ s = .failed .intr := fun s' hs' =>
      hselects s' (List.mem_cons_of_mem s hs')
    unfold waitReadyLoop
    simp only [if_neg (Nat.not_le.mpr hlt)]
    rcases hselects s List.mem_cons_self with rfl | rfl
    · exact ((hearly.log _).withSelects hrest).inTime
    · simp only [if_true]
      exact ih (hearly.log _) hrest

theorem waitReady_early (H : net.Early deadline) (writing : Bool) :
    ∃ net', waitReady writing deadline net = (.ok, net') ∧ net'.Early deadline :=
  waitReadyLoop_early H H.selects

theorem sendExact_early (H : net.Early deadline) (hsends : SendsRetry sends)
    (length position : Nat) :
    ∃ net', sendExact deadline length sends position net = (.ok, net') ∧
      net'.Early deadline := by
  induction sends generalizing position net with
  | nil =>
    unfold sendExact
    split
    · exact H.inTime
    · obtain ⟨net', hwait, hearly⟩ := waitReady_early H true
      simp only [hwait]
      exact (hearly.log _).inTime
  | cons s sends ih =>
    have hrest : SendsRetry sends := ⟨fun hzero => hsends.1 (List.mem_cons_of_mem s hzero),
      fun e he => hsends.2 e (List.mem_cons_of_mem s he)⟩
    unfold sendExact
    split
    · exact H.inTime
    · obtain ⟨net', hwait, hearly⟩ := waitReady_early H true
      simp only [hwait]
      cases s with
      | sent n => exact ih (hearly.log _) hrest _
      | zero => exact absurd List.mem_cons_self hsends.1
      | failed e =>
        simp only [hsends.2 e List.mem_cons_self, if_true]
        exact ih (hearly.log _) hrest _

theorem delivers_inTime (H : net.Early deadline) (hretry : RecvsRetry recvs)
    (hbytes : bytes.length = length) (hstream : stream = bytes ++ pendingBytes recvs) :
    Delivers deadline length stream (received bytes recvs (net.inTime deadline)) := by
  obtain ⟨net', htime, hearly⟩ := H.inTime
  subst hstream hbytes
  simp only [htime, received]
  refine ⟨?_, ?_, hearly, hretry, ?_⟩ <;> simp

/-- Before the deadline, the bytes received are the first bytes of the stream, and the rest of the
stream stays. -/
theorem receiveExact_early (H : net.Early deadline) (hretry : RecvsRetry recvs)
    (hbytes : bytes.length ≤ length) : Delivers deadline length (bytes ++ pendingBytes recvs)
      (receiveExact deadline base length recvs bytes net) := by
  induction recvs generalizing bytes net with
  | nil =>
    unfold receiveExact
    split
    · exact delivers_inTime H hretry (by omega) rfl
    · next hopen =>
      obtain ⟨net', hwait, hearly⟩ := waitReady_early H false
      simp only [hwait]
      refine ⟨?_, ?_, hearly.log _, hretry, ?_⟩
      · simp [pendingBytes, hopen]
      · simp [pendingBytes, List.take_of_length_le hbytes]
      · simp [pendingBytes, List.drop_of_length_le hbytes]
  | cons r recvs ih =>
    have hrest : RecvsRetry recvs := fun e he => hretry e (List.mem_cons_of_mem r he)
    unfold receiveExact
    split
    · exact delivers_inTime H hretry (by omega) rfl
    · next hopen =>
      obtain ⟨net', hwait, hearly⟩ := waitReady_early H false
      simp only [hwait]
      cases r with
      | failed e =>
        simp only [hretry e List.mem_cons_self, if_true]
        exact ih (hearly.log _) hrest hbytes
      | data b bs =>
        have hsplit := List.take_append_drop (length - bytes.length) (b :: bs)
        dsimp only
        split
        · next hall =>
          have hlen : (b :: bs).length ≤ length - bytes.length := List.drop_eq_nil_iff.mp hall
          rw [List.take_of_length_le hlen]
          have hnext : (bytes ++ b :: bs).length ≤ length := by
            rw [List.length_append]
            omega
          have hdelivers := ih (hearly.log (.recv (base + bytes.length) (length - bytes.length)))
            hrest hnext
          rw [List.append_assoc] at hdelivers
          exact hdelivers
        · next b' bs' hsome =>
          have hlen : length - bytes.length < (b :: bs).length := by
            refine Nat.lt_of_not_le fun hle => ?_
            rw [List.drop_eq_nil_of_le hle] at hsome
            cases hsome
          refine delivers_inTime (hearly.log _) (fun e he => ?_) ?_ ?_
          · rcases List.mem_cons.mp he with h | he
            · cases h
            · exact hrest e he
          · rw [List.length_append, List.length_take, Nat.min_eq_left (by omega)]
            omega
          · have hbs : pendingBytes (.data b bs :: recvs) = (b :: bs) ++ pendingBytes recvs := rfl
            have hbs' : pendingBytes (.data b' bs' :: recvs) = (b' :: bs') ++ pendingBytes recvs :=
              rfl
            rw [hbs, hbs', ← hsome, List.append_assoc bytes, ← List.append_assoc (List.take _ _),
              hsplit]

end

/-! ## The receive buffer -/

/-- Every `recv` so far was given space inside the receive buffer. -/
def Net.Within (net : Net) : Prop :=
  ∀ position length, .recv position length ∈ net.calls →
    position + length ≤ MB_MAX_RESPONSE_SIZE

section
variable {net : Net}

theorem Net.Within.log (H : net.Within) (call : NetCall)
    (hcall : ∀ position length, call = .recv position length →
      position + length ≤ MB_MAX_RESPONSE_SIZE) : (net.log call).Within := by
  intro position length hmem
  rcases List.mem_cons.mp hmem with heq | hmem
  · exact hcall position length heq.symm
  · exact H position length hmem

theorem Net.Within.now (H : net.Within) : net.now.2.Within := by
  unfold Net.now
  split
  · exact H.log _ fun _ _ h => by cases h
  · next t ts hclock =>
    have hread : Net.Within { net with last := t, clock := ts } := H
    exact hread.log _ fun _ _ h => by cases h

theorem Net.Within.inTime (H : net.Within) (deadline : Nat) : (net.inTime deadline).2.Within := H.now

theorem waitReadyLoop_within (H : net.Within) :
    (waitReadyLoop writing deadline selects net).2.Within := by
  induction selects generalizing net with
  | nil =>
    have hstart : Net.Within { net with selects := [] } := H
    have hnow := hstart.now
    unfold waitReadyLoop
    dsimp only
    split
    · exact hnow
    · exact (hnow.log _ fun _ _ h => by cases h).inTime _
  | cons s selects ih =>
    have hstart : Net.Within { net with selects := s :: selects } := H
    have hnow := hstart.now
    have hlog (sec usec : Nat) := hnow.log (.select writing sec usec) fun _ _ h => by cases h
    unfold waitReadyLoop
    dsimp only
    split
    · exact hnow
    · cases s with
      | ready =>
        refine Net.Within.inTime ?_ deadline
        exact hlog _ _
      | timeout => exact hlog _ _
      | failed e =>
        dsimp only
        split
        · exact ih (hlog _ _)
        · exact hlog _ _

theorem waitReady_within (H : net.Within) (writing : Bool) (deadline : Nat) :
    (waitReady writing deadline net).2.Within :=
  waitReadyLoop_within H

theorem sendExact_within (H : net.Within) (deadline length : Nat) (sends : List SendOutcome)
    (position : Nat) : (sendExact deadline length sends position net).2.Within := by
  induction sends generalizing position net with
  | nil =>
    unfold sendExact
    split
    · exact H.inTime _
    · have hwait := waitReady_within H true deadline
      split
      · next net' heq =>
        rw [heq] at hwait
        exact (hwait.log _ fun _ _ h => by cases h).inTime _
      · next heq => rw [heq] at hwait; exact hwait
  | cons s sends ih =>
    unfold sendExact
    split
    · exact H.inTime _
    · have hwait := waitReady_within H true deadline
      split
      · next net' heq =>
        rw [heq] at hwait
        have hlog (p l : Nat) := hwait.log (.send p l) fun _ _ h => by cases h
        cases s with
        | sent n => exact ih (hlog _ _) _
        | zero => exact hlog _ _
        | failed e =>
          dsimp only
          split
          · exact ih (hlog _ _) _
          · exact hlog _ _
      · next heq => rw [heq] at hwait; exact hwait

/-- A transfer of `length` bytes to `base` stays in the buffer if its end does. -/
theorem receiveExact_within (H : net.Within) (hfits : base + length ≤ MB_MAX_RESPONSE_SIZE) :
    (receiveExact deadline base length recvs bytes net).net.Within := by
  induction recvs generalizing bytes net with
  | nil =>
    unfold receiveExact
    split
    · exact H.inTime deadline
    · have hwait := waitReady_within H false deadline
      split
      · next net' heq =>
        rw [heq] at hwait
        exact hwait.log _ fun _ _ h => by cases h; omega
      · next heq => rw [heq] at hwait; exact hwait
  | cons r recvs ih =>
    unfold receiveExact
    split
    · exact H.inTime deadline
    · have hwait := waitReady_within H false deadline
      split
      · next net' heq =>
        rw [heq] at hwait
        have hlog := hwait.log (.recv (base + bytes.length) (length - bytes.length))
          fun _ _ h => by cases h; omega
        cases r with
        | data b bs =>
          dsimp only
          split
          · exact ih hlog
          · exact hlog.inTime deadline
        | failed e =>
          dsimp only
          split
          · exact ih hlog
          · exact hlog
      · next heq => rw [heq] at hwait; exact hwait

theorem connectSocket_within (H : net.Within) : (connectSocket env deadline net).2.Within := by
  have hlog := H.log .connect fun _ _ h => by cases h
  unfold connectSocket
  split
  · exact hlog
  · dsimp only
    split
    · exact hlog
    · have hwait := waitReady_within hlog true deadline
      split
      · next net' heq =>
        rw [heq] at hwait
        split <;> exact hwait
      · next heq => rw [heq] at hwait; exact hwait

theorem openConnection_within (H : net.Within) (env : ReadEnv) (deadline : Nat) :
    (openConnection env deadline net).2.Within := by
  unfold openConnection
  split
  · exact H
  · split
    · exact H
    · have htime := H.inTime deadline
      split
      · next net' heq => rw [heq] at htime; exact connectSocket_within htime
      · next heq => rw [heq] at htime; exact htime

end

/-! ## The whole read -/

/-- A valid call whose connection is made and whose request is sent. -/
structure ReadEnv.Connects (env : ReadEnv) (inetPton : CString → Option UInt32) (call : ReadCall) :
    Prop where
  port : call.port ≠ 0
  timeout : call.timeoutMs ≠ 0
  request : mbBuildReadRequest call.tid call.unit call.function call.offset call.qty ≠ none
  host : inetPton call.host ≠ none
  socket : env.socket = none
  fcntl : env.fcntl = none
  connect : ∀ e, env.connect = some e → e = .inProgress ∨ e = .already ∨ e.retry = true
  soError : env.connect ≠ none → env.soError = .ok none
  sends : SendsRetry env.sends

/-- The deadline is not reached: it is after every reading of the clock. -/
def ReadEnv.Timely (env : ReadEnv) (call : ReadCall) : Prop :=
  env.net.Early (u64 (env.net.now.1 + call.timeoutMs.toNat))

/-- The length of the frame a stream declares. -/
def declaredLength (stream : List UInt8) : Nat :=
  6 + ((readBe16 stream 4).getD 0).toNat

/-- `mb_read_points` as a function of the stream: the error, the exception code and the caller's
array. -/
def streamedRead (stream : List UInt8) (call : ReadCall) (out : List UInt16) :
    Option (MbError × Nat × List UInt16) := do
  if stream.length < 7 then return (.truncated, 0, out)
  else
    let error ← checkHeader (stream.take 7) call.tid call.unit
    if error ≠ .ok then return (error, 0, out)
    else if stream.length < declaredLength stream then return (.truncated, 0, out)
    else
      let (result, out) ← mbDecodeReadResponse (stream.take (declaredLength stream)) call.tid
        call.unit call.function call.qty out
      return (result.error, result.exceptionCode, out)

/-- The part of an outcome that the stream determines. -/
def ReadOutcome.verdict (o : ReadOutcome) : MbError × Nat × List UInt16 :=
  (o.result.error, o.result.exceptionCode, o.out)

theorem connectSocket_early (H : net.Early deadline) (hconnects : env.Connects inetPton call) :
    ∃ net', connectSocket env deadline net = (.ok, net') ∧ net'.Early deadline := by
  unfold connectSocket
  split
  · exact ⟨_, rfl, H.log _⟩
  · next pending hpending =>
    have hretry : ¬ (pending ≠ .inProgress ∧ pending ≠ .already ∧ ¬ pending.retry = true) := by
      rintro ⟨hne, hne', hnot⟩
      rcases hconnects.connect pending hpending with h | h | h
      · exact hne h
      · exact hne' h
      · exact hnot h
    obtain ⟨net', hwait, hearly⟩ := waitReady_early (H.log .connect) true
    have hso : env.soError = .ok none := hconnects.soError (by simp [hpending])
    simp only [if_neg hretry, hwait, hso]
    exact ⟨net', rfl, hearly⟩

theorem openConnection_early (H : net.Early deadline) (hconnects : env.Connects inetPton call) :
    ∃ net', openConnection env deadline net = (.ok, net') ∧ net'.Early deadline := by
  obtain ⟨net', htime, hearly⟩ := H.inTime
  simp only [openConnection, hconnects.socket, hconnects.fcntl, htime]
  exact connectSocket_early hearly hconnects

theorem readBe16_take (hi : i + 1 < n) (l : List UInt8) :
    readBe16 (l.take n) i = readBe16 l i := by
  simp only [readBe16, List.getElem?_take_of_lt (Nat.lt_of_succ_lt hi), List.getElem?_take_of_lt hi]

theorem mbBuildReadRequest_valid
    (h : mbBuildReadRequest tid unit function offset qty ≠ none) :
    1 ≤ function ∧ function ≤ 4 ∧ validQuantity qty = true := by
  unfold mbBuildReadRequest at h
  split at h
  · exact absurd rfl h
  · next hvalid =>
    simp only [not_or, UInt8.not_lt, Decidable.not_not] at hvalid
    exact ⟨hvalid.1, hvalid.2.1, hvalid.2.2.1⟩

/-- A result that leaves the caller's array alone unless it is `MB_OK`. -/
theorem DecodeVerdict.unchanged (H : DecodeVerdict frame tid unit function qty out result out')
    (hne : result.error ≠ .ok) : out' = out := by
  cases H with
  | ok => exact absurd rfl hne
  | _ => rfl

/-- How an outcome relates to the stream it was read from. -/
structure Streams (env : ReadEnv) (call : ReadCall) (out : List UInt16) (o : ReadOutcome) :
    Prop where
  verdict : streamedRead (pendingBytes env.recvs) call out = some o.verdict
  within : env.net.Within → o.net.Within
  consumed : ∃ n ≤ max 7 (declaredLength (pendingBytes env.recvs)),
    pendingBytes o.recvs = (pendingBytes env.recvs).drop n
  unchanged : o.result.error ≠ .ok → o.out = out

/-- Once the request is sent, the read is determined by the stream. -/
theorem readResponse_streams {env : ReadEnv} {call : ReadCall} {net : Net}
    (hconnects : env.Connects inetPton call) (hretry : RecvsRetry env.recvs)
    (hearly : net.Early deadline) (hwithin : env.net.Within → net.Within) :
    ∃ o, readResponse call started deadline env.recvs out net = some o ∧
      Streams env call out o := by
  have hsize : MB_MAX_RESPONSE_SIZE = 109 := rfl
  have hmax : MB_MAX_REGISTERS = 50 := rfl
  obtain ⟨hf₁, hf₄, hq⟩ := mbBuildReadRequest_valid hconnects.request
  unfold readResponse
  have hheader : Delivers deadline 7 ([] ++ pendingBytes env.recvs)
      (receiveExact deadline 0 7 env.recvs [] net) :=
    receiveExact_early hearly hretry (Nat.zero_le 7)
  have hwithin₁ (hw : env.net.Within) :
      (receiveExact deadline 0 7 env.recvs [] net).net.Within :=
    receiveExact_within (hwithin hw) (by omega)
  generalize receiveExact deadline 0 7 env.recvs [] net = header at hheader hwithin₁ ⊢
  rw [List.nil_append] at hheader
  generalize hstream : pendingBytes env.recvs = stream at hheader
  simp only [hheader.error, hheader.bytes]
  by_cases hshort : stream.length < 7
  · have hnot : ¬ 7 ≤ stream.length := by omega
    simp only [if_neg hnot]
    refine ⟨_, rfl, ?_, fun hw => (hwithin₁ hw).now, ⟨7, by omega, ?_⟩, fun _ => rfl⟩
    · rw [hstream, streamedRead, if_pos hshort]
      rfl
    · rw [hstream]
      exact hheader.rest
  have hlong : 7 ≤ stream.length := by omega
  have hread := readBe16_take (by decide : 4 + 1 < 7) stream
  simp only [if_pos hlong, hread]
  rcases checkHeader_cases call.tid call.unit (by simp [hlong] : 7 ≤ (stream.take 7).length) with
    ⟨hcheck, hok⟩ | ⟨error, hcheck, hne, -, -⟩
  · obtain ⟨r, hr, hlo, hhi⟩ := hok.remaining_eq
    rw [hread] at hr
    have hdeclared : declaredLength stream = 6 + r.toNat := by
      rw [declaredLength, hr]
      rfl
    simp only [hcheck, hr, Option.bind_eq_bind, Option.bind_some, ne_eq, not_true, if_false]
    have hrest : Delivers deadline (6 + r.toNat - 7) ([] ++ pendingBytes header.recvs)
        (receiveExact deadline 7 (6 + r.toNat - 7) header.recvs [] header.net) :=
      receiveExact_early hheader.early hheader.retry (Nat.zero_le _)
    have hwithin₂ (hw : env.net.Within) :
        (receiveExact deadline 7 (6 + r.toNat - 7) header.recvs [] header.net).net.Within :=
      receiveExact_within (hwithin₁ hw) (by omega)
    generalize receiveExact deadline 7 (6 + r.toNat - 7) header.recvs [] header.net = rest
      at hrest hwithin₂ ⊢
    rw [List.nil_append, hheader.rest] at hrest
    have hconsumed : pendingBytes rest.recvs = stream.drop (declaredLength stream) := by
      rw [hrest.rest, List.drop_drop, hdeclared]
      congr 1
      omega
    have hle : declaredLength stream ≤ max 7 (declaredLength (pendingBytes env.recvs)) := by
      rw [hstream]
      exact Nat.le_max_right _ _
    have hframe : stream.take 7 ++ rest.bytes = stream.take (declaredLength stream) := by
      rw [hrest.bytes, ← List.take_add, hdeclared]
      congr 1
      omega
    by_cases hcut : stream.length < declaredLength stream
    · have hnot : ¬ 6 + r.toNat - 7 ≤ (stream.drop 7).length := by
        rw [List.length_drop]
        omega
      simp only [hrest.error, if_neg hnot]
      refine ⟨_, rfl, ?_, fun hw => (hwithin₂ hw).now, ⟨_, hle, ?_⟩,
        fun _ => rfl⟩
      · rw [hstream, streamedRead, if_neg hshort, hcheck]
        simp [hcut, readFailed, finishRead, ReadOutcome.verdict]
      · rw [hstream]
        exact hconsumed
    · have hall : 6 + r.toNat - 7 ≤ (stream.drop 7).length := by
        rw [List.length_drop]
        omega
      obtain ⟨result, out', hdecode, hverdict⟩ := mbDecodeReadResponse_verdict
        (stream.take (declaredLength stream)) call.tid call.unit out hf₁ hf₄ hq
      simp only [hrest.error, if_pos hall, not_true, if_false, hframe, hdecode, Option.bind_some]
      refine ⟨_, rfl, ?_, fun hw => (hwithin₂ hw).now, ⟨_, hle, ?_⟩,
        hverdict.unchanged⟩
      · rw [hstream, streamedRead, if_neg hshort, hcheck]
        simp [hcut, hdecode, finishRead, ReadOutcome.verdict]
      · rw [hstream]
        exact hconsumed
  · refine ⟨readFailed started error out header.recvs header.net, by simp [hcheck, hne], ?_,
      fun hw => (hwithin₁ hw).now, ⟨7, by omega, ?_⟩, fun _ => rfl⟩
    · rw [hstream, streamedRead, if_neg hshort, hcheck]
      simp [hne, readFailed, finishRead, ReadOutcome.verdict]
    · rw [hstream]
      exact hheader.rest

/-- Reading from a stream agrees with decoding its first frame, however the stream arrives. The
receive buffer is never overrun, what the peer sent after the frame stays unread (the seven header
bytes are read even if the length in them is 0), and only `MB_OK` changes the caller's array. -/
theorem mbReadPoints_streams {call : ReadCall} {env : ReadEnv} (out : List UInt16)
    (hconnects : env.Connects inetPton call) (htimely : env.Timely call)
    (hretry : RecvsRetry env.recvs) :
    ∃ o, mbReadPoints inetPton call env out = some o ∧
      streamedRead (pendingBytes env.recvs) call out = some o.verdict ∧
      (env.net.Within → o.net.Within) ∧
      (∃ n ≤ max 7 (declaredLength (pendingBytes env.recvs)),
        pendingBytes o.recvs = (pendingBytes env.recvs).drop n) ∧
      (o.result.error ≠ .ok → o.out = out) := by
  obtain ⟨-, hstart⟩ := htimely.now
  have hvalid : ¬ (call.port = 0 ∨ call.timeoutMs = 0 ∨
      mbBuildReadRequest call.tid call.unit call.function call.offset call.qty = none ∨
      inetPton call.host = none) := by
    rintro (h | h | h | h)
    · exact hconnects.port h
    · exact hconnects.timeout h
    · exact hconnects.request h
    · exact hconnects.host h
  obtain ⟨net₁, hopen, hearly₁⟩ := openConnection_early hstart hconnects
  obtain ⟨net₂, hsend, hearly₂⟩ := sendExact_early hearly₁ hconnects.sends MB_FC03_REQUEST_SIZE 0
  have hwithin (hw : env.net.Within) : net₂.Within := by
    have hopened := openConnection_within hw.now env (u64 (env.net.now.1 + call.timeoutMs.toNat))
    rw [hopen] at hopened
    have hsent := sendExact_within hopened (u64 (env.net.now.1 + call.timeoutMs.toNat))
      MB_FC03_REQUEST_SIZE env.sends 0
    rw [hsend] at hsent
    exact hsent
  obtain ⟨o, hread, H⟩ := readResponse_streams hconnects hretry hearly₂ hwithin
  refine ⟨o, ?_, H.verdict, H.within, H.consumed, H.unchanged⟩
  unfold mbReadPoints
  simp only [if_neg hvalid, hopen, hsend]
  exact hread

/-- Two coils of the controller at 192.0.2.81. -/
def coilsCall : ReadCall where
  host := "192.0.2.81".toList
  port := 502
  unit := 17
  function := 1
  offset := 0
  qty := 2
  tid := 7
  timeoutMs := 1200

/-- The address of that host, and no other. -/
def coilsPton (host : CString) : Option UInt32 :=
  if host = coilsCall.host then some 0xC0000251 else none

/-- The response in three pieces, interrupted twice, with two bytes of something else behind it. -/
def coilsEnv : ReadEnv where
  sends := [.sent 4, .failed .again]
  recvs := [.data 0 [7, 0], .failed .intr, .data 0 [0, 4, 17, 1], .failed .again, .data 1 [0x02, 5, 6]]
  net := { last := 0, clock := [100, 101, 102, 300, 310], selects := [.failed .intr, .ready] }

/-- The response of the same call cut down to a header that declares no further byte. -/
def emptyEnv : ReadEnv where
  recvs := [.data 0 [7, 0, 0, 0, 0, 17]]
  net := { last := 0 }

theorem coilsCall_connects (hsends : SendsRetry sends) :
    ReadEnv.Connects { sends, recvs, net } coilsPton coilsCall where
  port := by decide
  timeout := by decide
  request := by decide
  host := by decide
  socket := rfl
  fcntl := rfl
  connect _ h := by cases h
  soError _ := rfl
  sends := hsends

theorem mbReadPoints_streams_coils : ∃ o,
    mbReadPoints coilsPton coilsCall coilsEnv [9, 9, 9] = some o ∧
      o.verdict = (.ok, 0, [0, 1, 9]) := by
  have hconnects : coilsEnv.Connects coilsPton coilsCall :=
    coilsCall_connects ⟨by simp, by simp [Errno.retry]⟩
  have hstream : streamedRead (pendingBytes coilsEnv.recvs) coilsCall [9, 9, 9] =
      some (.ok, 0, [0, 1, 9]) := by decide +kernel
  obtain ⟨o, hread, hverdict, -⟩ := mbReadPoints_streams [9, 9, 9] hconnects
    ⟨by decide, by decide, by simp [coilsEnv]⟩ (by simp [RecvsRetry, coilsEnv, Errno.retry])
  exact ⟨o, hread, Option.some.inj (hverdict.symm.trans hstream)⟩

/-- A header that declares a length of 0 is read although it is longer than the frame it declares. -/
theorem mbReadPoints_readsHeader : ¬ ∀ inetPton call env out o,
    ReadEnv.Connects env inetPton call → env.Timely call → RecvsRetry env.recvs →
    mbReadPoints inetPton call env out = some o →
    ∃ n ≤ declaredLength (pendingBytes env.recvs),
      pendingBytes o.recvs = (pendingBytes env.recvs).drop n := by
  intro hclaim
  have hconnects : emptyEnv.Connects coilsPton coilsCall :=
    coilsCall_connects ⟨by simp, by simp⟩
  have hrun : (mbReadPoints coilsPton coilsCall emptyEnv []).map
      (fun o => pendingBytes o.recvs) = some [] := by decide +kernel
  obtain ⟨o, hread, hpending⟩ := Option.map_eq_some_iff.mp hrun
  obtain ⟨n, hn, hdrop⟩ := hclaim coilsPton coilsCall emptyEnv [] o hconnects
    ⟨by decide, by simp [emptyEnv], by simp [emptyEnv]⟩ (by simp [RecvsRetry, emptyEnv]) hread
  have hlen := congrArg List.length (hpending.symm.trans hdrop)
  have hdeclared : declaredLength (pendingBytes emptyEnv.recvs) = 6 := by decide
  have htotal : (pendingBytes emptyEnv.recvs).length = 7 := rfl
  rw [List.length_drop, htotal, List.length_nil] at hlen
  omega

end ModbusGateway
