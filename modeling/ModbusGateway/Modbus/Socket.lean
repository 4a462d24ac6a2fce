import ModbusGateway.Modbus.Frame
import ModbusGateway.Basic

/-!
# Reading points over a socket

The rest of `modbus_tcp.c`, as compiled for the gateway: one connection, one request, one response,
all under one deadline. What the system calls return is data. The readings of the clock and the
results of `select`, `send` and `recv` are lists, consumed call by call. After the end of its list the
clock stands still, `select` finds the socket ready, `send` takes what it is given and `recv`
reports that the peer has closed. A loop of the source therefore ends with the list it consumes,
and every run that ends has such lists. `Net.calls` records the calls, newest first.
-/

namespace ModbusGateway

/-- The values of `errno` that the code tells apart; `EAGAIN` and `EWOULDBLOCK` are one. -/
inductive Errno where
  | intr
  | again
  | inProgress
  | already
  | other (code : Nat)
  deriving DecidableEq

def Errno.code : Errno → Int
  | .intr => 4
  | .again => 11
  | .inProgress => 119
  | .already => 120
  | .other code => code

/-- `errno == EINTR || would_block(errno)`. -/
def Errno.retry (e : Errno) : Bool := e == .intr || e == .again

inductive SelectOutcome where
  | ready
  | timeout
  | failed (e : Errno)

/-- `sent n`: up to `n + 1` bytes are taken. -/
inductive SendOutcome where
  | sent (n : Nat)
  | zero
  | failed (e : Errno)

/-- `data b bs`: these bytes have arrived. A call takes at most what it asks for and leaves the rest
to the next one. -/
inductive RecvOutcome where
  | data (b : UInt8) (bs : List UInt8)
  | failed (e : Errno)

inductive NetCall where
  | clock (now : Nat)
  | select (writing : Bool) (sec usec : Nat)
  | connect
  | send (position length : Nat)
  | recv (position length : Nat)
  deriving DecidableEq

/-- The clock, the outcomes of `select`, `result->system_error` and the calls so far. -/
structure Net where
  last : Nat
  clock : List Nat := []
  selects : List SelectOutcome := []
  systemError : Int := 0
  calls : List NetCall := []

namespace Net

def log (net : Net) (call : NetCall) : Net := { net with calls := call :: net.calls }

/-- `mb_monotonic_ms`. -/
def now (net : Net) : Nat × Net :=
  match net.clock with
  | [] => (net.last, net.log (.clock net.last))
  | t :: ts => (t, { net with last := t, clock := ts }.log (.clock t))

/-- `mb_monotonic_ms() < deadline ? MB_OK : MB_ERR_TIMEOUT`. -/
def inTime (net : Net) (deadline : Nat) : MbError × Net :=
  let (now, net) := net.now
  (if now < deadline then .ok else .timeout, net)

def fail (net : Net) (error : MbError) (e : Errno) : MbError × Net :=
  (error, { net with systemError := e.code })

end Net

/-- The loop of `wait_ready`. -/
def waitReadyLoop (writing : Bool) (deadline : Nat) :
    List SelectOutcome → Net → MbError × Net
  | selects, net =>
    let (now, net) := { net with selects }.now
    if now ≥ deadline then (.timeout, net)
    else
      let remaining := deadline - now
      let net := net.log (.select writing (remaining / 1000) (remaining % 1000 * 1000))
      match selects with
      | [] => net.inTime deadline
      | .ready :: selects => { net with selects }.inTime deadline
      | .timeout :: selects => (.timeout, { net with selects })
      | .failed e :: selects =>
        if e = .intr then waitReadyLoop writing deadline selects net
        else { net with selects }.fail .io e

/-- `wait_ready`. -/
def waitReady (writing : Bool) (deadline : Nat) (net : Net) : MbError × Net :=
  waitReadyLoop writing deadline net.selects net

/-- `send_exact`, `position` bytes of `length` being sent. -/
def sendExact (deadline length : Nat) : List SendOutcome → Nat → Net → MbError × Net
  | sends, position, net =>
    if length ≤ position then net.inTime deadline
    else
      match waitReady true deadline net with
      | (.ok, net) =>
        let net := net.log (.send position (length - position))
        match sends with
        | [] => net.inTime deadline
        | .sent n :: sends =>
          sendExact deadline length sends (position + min (n + 1) (length - position)) net
        | .zero :: _ => (.io, net)
        | .failed e :: sends =>
          if e.retry then sendExact deadline length sends position net else net.fail .io e
      | (error, net) => (error, net)

/-- What a call of `receive_exact` leaves: the bytes it stored and what is still to arrive. -/
structure Received where
  error : MbError
  bytes : List UInt8
  recvs : List RecvOutcome
  net : Net

def received (bytes : List UInt8) (recvs : List RecvOutcome) : MbError × Net → Received
  | (error, net) => ⟨error, bytes, recvs, net⟩

/-- `receive_exact` into the buffer at `base`, with `bytes` of `length` being there. -/
def receiveExact (deadline base length : Nat) :
    List RecvOutcome → List UInt8 → Net → Received
  | recvs, bytes, net =>
    if length ≤ bytes.length then received bytes recvs (net.inTime deadline)
    else
      match waitReady false deadline net with
      | (.ok, net) =>
        let asked := length - bytes.length
        let net := net.log (.recv (base + bytes.length) asked)
        match recvs with
        | [] => ⟨.truncated, bytes, [], net⟩
        | .data b bs :: recvs =>
          let bytes := bytes ++ (b :: bs).take asked
          match (b :: bs).drop asked with
          | [] => receiveExact deadline base length recvs bytes net
          -- `recv` has filled the request, so that the loop is over.
          | b :: bs => received bytes (.data b bs :: recvs) (net.inTime deadline)
        | .failed e :: recvs =>
          if e.retry then receiveExact deadline base length recvs bytes net
          else received bytes recvs (net.fail .io e)
      | (error, net) => ⟨error, bytes, recvs, net⟩

/-- The arguments of `mb_read_points`. -/
structure ReadCall where
  host : CString
  port : UInt16
  unit : UInt8
  function : UInt8
  offset : UInt16
  qty : UInt16
  tid : UInt16
  timeoutMs : UInt32

/-- What the calls of `mb_read_points` return. `soError` is the failure of `getsockopt` or the pending
error it reports. -/
structure ReadEnv where
  socket : Option Errno := none
  fcntl : Option Errno := none
  connect : Option Errno := none
  soError : Except Errno (Option Errno) := .ok none
  sends : List SendOutcome := []
  recvs : List RecvOutcome := []
  net : Net

/-- What `mb_read_points` leaves: the result, the caller's array, what the peer has still to send
and the calls made. -/
structure ReadOutcome where
  result : MbResult
  out : List UInt16
  recvs : List RecvOutcome
  net : Net

/-- `connect` and what follows it until the socket is connected. -/
def connectSocket (env : ReadEnv) (deadline : Nat) (net : Net) : MbError × Net :=
  match env.connect with
  | none => (.ok, net.log .connect)
  | some pending =>
    let net := net.log .connect
    if pending ≠ .inProgress ∧ pending ≠ .already ∧ ¬ pending.retry then
      net.fail .connect pending
    else
      match waitReady true deadline net with
      | (.ok, net) =>
        match env.soError with
        | .error e => net.fail .connect e
        | .ok (some e) => net.fail .connect e
        | .ok none => (.ok, net)
      | (error, net) => (error, net)

/-- From the socket to the connection: everything before the request is sent. -/
def openConnection (env : ReadEnv) (deadline : Nat) (net : Net) : MbError × Net :=
  match env.socket with
  | some e => net.fail .connect e
  | none =>
    match env.fcntl with
    | some e => net.fail .io e
    | none =>
      match net.inTime deadline with
      | (.ok, net) => connectSocket env deadline net
      | (error, net) => (error, net)

/-- The code at `done`. -/
def finishRead (started : Nat) (result : MbResult) (out : List UInt16) (recvs : List RecvOutcome)
    (net : Net) : ReadOutcome :=
  let (now, net) := net.now
  { result := { result with elapsedMs := min (u64 (now + (2 ^ 64 - started))) UINT32_MAX }
    out, recvs, net }

/-- A failure before the decoder: nothing but the error and `system_error` is set. -/
def readFailed (started : Nat) (error : MbError) (out : List UInt16) (recvs : List RecvOutcome)
    (net : Net) : ReadOutcome :=
  finishRead started { error, systemError := net.systemError } out recvs net

/-- `mb_read_points` from the first `receive_exact` on. -/
def readResponse (call : ReadCall) (started deadline : Nat) (recvs : List RecvOutcome)
    (out : List UInt16) (net : Net) : Option ReadOutcome := do
  let header := receiveExact deadline 0 7 recvs [] net
  if header.error ≠ .ok then
    return readFailed started header.error out header.recvs header.net
  else
    let error ← checkHeader header.bytes call.tid call.unit
    if error ≠ .ok then return readFailed started error out header.recvs header.net
    else
      let length := 6 + (← readBe16 header.bytes 4).toNat
      let rest := receiveExact deadline 7 (length - 7) header.recvs [] header.net
      if rest.error ≠ .ok then return readFailed started rest.error out rest.recvs rest.net
      else
        let (result, out) ← mbDecodeReadResponse (header.bytes ++ rest.bytes) call.tid call.unit
          call.function call.qty out
        return finishRead started result out rest.recvs rest.net

/-- `mb_read_points`; the value is `none` if a byte is read that was not received. -/
def mbReadPoints (inetPton : CString → Option UInt32) (call : ReadCall) (env : ReadEnv)
    (out : List UInt16) : Option ReadOutcome :=
  let (started, net) := env.net.now
  let deadline := u64 (started + call.timeoutMs.toNat)
  let request := mbBuildReadRequest call.tid call.unit call.function call.offset call.qty
  if call.port = 0 ∨ call.timeoutMs = 0 ∨ request = none ∨ inetPton call.host = none then
    some (readFailed started .argument out env.recvs net)
  else
    match openConnection env deadline net with
    | (.ok, net) =>
      match sendExact deadline MB_FC03_REQUEST_SIZE env.sends 0 net with
      | (.ok, net) => readResponse call started deadline env.recvs out net
      | (error, net) => some (readFailed started error out env.recvs net)
    | (error, net) => some (readFailed started error out env.recvs net)

end ModbusGateway
