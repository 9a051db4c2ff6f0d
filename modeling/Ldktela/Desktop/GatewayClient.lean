import Ldktela.Gateway.Serve

/-!
# The gateway client at the end of a connection

`desktop/src/gateway/client.ts`: the state of `GatewayClient`, and `handleClose`,
which reads the close code of the socket and decides what becomes of the session.

`handleClose_running` is what it does for every code.  `no_decided_code_is_seen`
puts it behind the server's loop: the codes the loop decides do not cross the wire,
so the client takes the same action whatever was decided.
-/

namespace Ldktela
namespace Desktop

open Protocol

inductive GatewayStatus where
  | idle
  | connecting
  | identifying
  | resuming
  | ready
  | reconnecting
  | closed
deriving DecidableEq

/-- Reasons the client stops on its own instead of reconnecting. -/
inductive GatewayFatal where
  | auth
  | outdatedClient
deriving DecidableEq

def sessionStableMs : Nat := 60000

/-- The timers are kept as what they will do: a retry by its delay. -/
structure GatewayClient where
  status : GatewayStatus
  socket : Option Nat
  sessionId : Option Uuid
  lastSeq : Nat
  attempt : Nat
  stopped : Bool
  missedAcks : Nat
  heartbeatIntervalMs : Nat
  readyAt : Option Nat
  /-- The server asked for a reconnect, so skip the backoff once. -/
  reconnectNow : Bool
  heartbeatTimer : Bool
  retryTimer : Option Nat
  /-- Calls of `onStatus`. -/
  statuses : List GatewayStatus
  /-- Calls of `onFatal`. -/
  fatals : List GatewayFatal
deriving DecidableEq

namespace GatewayClient

/-- The listener hears of changes only. -/
def setStatus (status : GatewayStatus) (c : GatewayClient) : GatewayClient :=
  if c.status = status then c else { c with status := status, statuses := c.statuses ++ [status] }

def onFatal (reason : GatewayFatal) (c : GatewayClient) : GatewayClient :=
  { c with fatals := c.fatals ++ [reason] }

/-- The codes after which the session is not resumed. -/
def clearsSession (code : UInt16) : Bool :=
  code = CloseCode.decodeError || code = CloseCode.notAuthenticated ||
    code = CloseCode.sessionAlreadyActive

def clearSession (c : GatewayClient) : GatewayClient :=
  { c with sessionId := none, lastSeq := 0 }

/-- The end of `handleClose`: the next connection, now or after the backoff.
`backoffDelayMs` is the jittered delay of an attempt. -/
def scheduleRetry (now : Nat) (backoffDelayMs : Nat → Nat) (c : GatewayClient) : GatewayClient :=
  let stable :=
    match c.readyAt with
    | some readyAt => decide (sessionStableMs < now - readyAt)
    | none => false
  let c := { c with attempt := if stable then 0 else c.attempt, readyAt := none }
  if c.reconnectNow then
    { setStatus .reconnecting { c with reconnectNow := false } with retryTimer := some 0 }
  else
    { setStatus .reconnecting { c with attempt := c.attempt + 1 } with
      retryTimer := some (backoffDelayMs c.attempt) }

def handleClose (now : Nat) (backoffDelayMs : Nat → Nat) (code : UInt16) (c : GatewayClient) :
    GatewayClient :=
  let c := { c with heartbeatTimer := false, socket := none }
  if c.stopped then
    setStatus .closed c
  else if code = CloseCode.versionTooOld then
    onFatal .outdatedClient (setStatus .closed { c with stopped := true })
  else if code = CloseCode.authenticationFailed then
    -- the caller decides whether a token refresh can save the session
    onFatal .auth (setStatus .closed (clearSession { c with stopped := true }))
  else if clearsSession code then
    scheduleRetry now backoffDelayMs (clearSession c)
  else
    scheduleRetry now backoffDelayMs c

/-- A client that was never started. -/
def idle : GatewayClient where
  status := .idle
  socket := none
  sessionId := none
  lastSeq := 0
  attempt := 0
  stopped := true
  missedAcks := 0
  heartbeatIntervalMs := 30000
  readyAt := none
  reconnectNow := false
  heartbeatTimer := false
  retryTimer := none
  statuses := []
  fatals := []

/-- `open`; `token` is what `getAccessToken` gives, `socket` the name of the new socket. -/
def openSocket (token : Option Uuid) (socket : Nat) (c : GatewayClient) : GatewayClient :=
  match token with
  | none => onFatal .auth (setStatus .closed { c with stopped := true })
  | some _ => { setStatus .connecting { c with missedAcks := 0 } with socket := some socket }

def start (token : Option Uuid) (socket : Nat) (c : GatewayClient) : GatewayClient :=
  if c.stopped then openSocket token socket { c with stopped := false, attempt := 0 } else c

def stop (c : GatewayClient) : GatewayClient :=
  setStatus .closed { c with
    stopped := true
    heartbeatTimer := false
    retryTimer := none
    sessionId := none
    lastSeq := 0
    readyAt := none
    socket := none }

/-- The retry timer fires. -/
def retry (token : Option Uuid) (socket : Nat) (c : GatewayClient) : GatewayClient :=
  match c.retryTimer with
  | none => c
  | some _ =>
      if c.stopped then { c with retryTimer := none }
      else openSocket token socket { c with retryTimer := none }

/-- `handleDispatch`, of `READY`. -/
def ready (seq : Nat) (sessionId : Uuid) (heartbeatIntervalMs now : Nat) (c : GatewayClient) :
    GatewayClient :=
  setStatus .ready { c with
    lastSeq := seq
    sessionId := some sessionId
    heartbeatIntervalMs := heartbeatIntervalMs
    readyAt := some now }

variable {now : Nat} {backoffDelayMs : Nat → Nat} {code : UInt16} {c : GatewayClient}

/-- Changing the status changes nothing that decides about connections. -/
@[simp]
theorem setStatus_socket (status : GatewayStatus) : (c.setStatus status).socket = c.socket := by
  unfold setStatus
  split
  · rfl
  · rfl

@[simp]
theorem setStatus_retryTimer (status : GatewayStatus) :
    (c.setStatus status).retryTimer = c.retryTimer := by
  unfold setStatus
  split
  · rfl
  · rfl

@[simp]
theorem setStatus_sessionId (status : GatewayStatus) :
    (c.setStatus status).sessionId = c.sessionId := by
  unfold setStatus
  split
  · rfl
  · rfl

@[simp]
theorem setStatus_stopped (status : GatewayStatus) : (c.setStatus status).stopped = c.stopped := by
  unfold setStatus
  split
  · rfl
  · rfl

@[simp]
theorem setStatus_fatals (status : GatewayStatus) : (c.setStatus status).fatals = c.fatals := by
  unfold setStatus
  split
  · rfl
  · rfl

@[simp]
theorem setStatus_lastSeq (status : GatewayStatus) :
    (c.setStatus status).lastSeq = c.lastSeq := by
  unfold setStatus
  split
  · rfl
  · rfl

@[simp]
theorem setStatus_attempt (status : GatewayStatus) :
    (c.setStatus status).attempt = c.attempt := by
  unfold setStatus
  split
  · rfl
  · rfl

@[simp]
theorem setStatus_readyAt (status : GatewayStatus) :
    (c.setStatus status).readyAt = c.readyAt := by
  unfold setStatus
  split
  · rfl
  · rfl

@[simp]
theorem setStatus_reconnectNow (status : GatewayStatus) :
    (c.setStatus status).reconnectNow = c.reconnectNow := by
  unfold setStatus
  split
  · rfl
  · rfl

@[simp]
theorem setStatus_heartbeatTimer (status : GatewayStatus) :
    (c.setStatus status).heartbeatTimer = c.heartbeatTimer := by
  unfold setStatus
  split
  · rfl
  · rfl

@[simp]
theorem setStatus_heartbeatIntervalMs (status : GatewayStatus) :
    (c.setStatus status).heartbeatIntervalMs = c.heartbeatIntervalMs := by
  unfold setStatus
  split
  · rfl
  · rfl

@[simp]
theorem setStatus_missedAcks (status : GatewayStatus) :
    (c.setStatus status).missedAcks = c.missedAcks := by
  unfold setStatus
  split
  · rfl
  · rfl

/-! ## Starting and stopping -/

/-- Without an access token there is no connection. -/
theorem openSocket_none (socket : Nat) :
    (openSocket none socket c).fatals = c.fatals ++ [.auth] ∧
      (openSocket none socket c).stopped = true ∧
      (openSocket none socket c).socket = c.socket ∧
      (openSocket none socket c).retryTimer = c.retryTimer := by
  simp [openSocket, onFatal]

theorem openSocket_some (token : Uuid) (socket : Nat) :
    (openSocket (some token) socket c).fatals = c.fatals ∧
      (openSocket (some token) socket c).stopped = c.stopped := by
  simp [openSocket]

@[simp]
theorem openSocket_retryTimer (token : Option Uuid) (socket : Nat) :
    (openSocket token socket c).retryTimer = c.retryTimer := by
  cases token with
  | none => simp [openSocket, onFatal]
  | some token => simp [openSocket]

@[simp]
theorem openSocket_heartbeatTimer (token : Option Uuid) (socket : Nat) :
    (openSocket token socket c).heartbeatTimer = c.heartbeatTimer := by
  cases token with
  | none => simp [openSocket, onFatal]
  | some token => simp [openSocket]

@[simp]
theorem openSocket_sessionId (token : Option Uuid) (socket : Nat) :
    (openSocket token socket c).sessionId = c.sessionId := by
  cases token with
  | none => simp [openSocket, onFatal]
  | some token => simp [openSocket]

@[simp]
theorem openSocket_lastSeq (token : Option Uuid) (socket : Nat) :
    (openSocket token socket c).lastSeq = c.lastSeq := by
  cases token with
  | none => simp [openSocket, onFatal]
  | some token => simp [openSocket]

@[simp]
theorem openSocket_attempt (token : Option Uuid) (socket : Nat) :
    (openSocket token socket c).attempt = c.attempt := by
  cases token with
  | none => simp [openSocket, onFatal]
  | some token => simp [openSocket]

@[simp]
theorem openSocket_readyAt (token : Option Uuid) (socket : Nat) :
    (openSocket token socket c).readyAt = c.readyAt := by
  cases token with
  | none => simp [openSocket, onFatal]
  | some token => simp [openSocket]

@[simp]
theorem openSocket_reconnectNow (token : Option Uuid) (socket : Nat) :
    (openSocket token socket c).reconnectNow = c.reconnectNow := by
  cases token with
  | none => simp [openSocket, onFatal]
  | some token => simp [openSocket]

@[simp]
theorem openSocket_some_socket (token : Uuid) (socket : Nat) :
    (openSocket (some token) socket c).socket = some socket := rfl

/-- A client that runs is left alone. -/
theorem start_of_running (token : Option Uuid) (socket : Nat) (h : c.stopped = false) :
    start token socket c = c := by
  rw [start, h]
  rfl

theorem start_of_stopped (token : Option Uuid) (socket : Nat) (h : c.stopped = true) :
    start token socket c = openSocket token socket { c with stopped := false, attempt := 0 } := by
  rw [start, h]
  rfl

@[simp]
theorem stop_stopped : c.stop.stopped = true := by
  simp [stop]

@[simp]
theorem stop_socket : c.stop.socket = none := by
  simp [stop]

@[simp]
theorem stop_retryTimer : c.stop.retryTimer = none := by
  simp [stop]

@[simp]
theorem ready_stopped {seq heartbeatIntervalMs : Nat} {sessionId : Uuid} :
    (c.ready seq sessionId heartbeatIntervalMs now).stopped = c.stopped := by
  simp [ready]

@[simp]
theorem ready_fatals {seq heartbeatIntervalMs : Nat} {sessionId : Uuid} :
    (c.ready seq sessionId heartbeatIntervalMs now).fatals = c.fatals := by
  simp [ready]

/-- The timer of a client that was stopped, or that has a token, opens a socket at most. -/
theorem retry_of_token {token : Option Uuid} (socket : Nat)
    (h : c.stopped = false → token ≠ none) :
    (c.retry token socket).fatals = c.fatals ∧ (c.retry token socket).stopped = c.stopped := by
  unfold retry
  split
  · exact ⟨rfl, rfl⟩
  · split
    · exact ⟨rfl, rfl⟩
    · next hrunning =>
        obtain ⟨token, rfl⟩ := Option.ne_none_iff_exists'.mp (h (by simpa using hrunning))
        exact openSocket_some token socket

/-! ## Closing -/

/-- A client that was stopped has nothing more to close. -/
theorem handleClose_stopped (h : c.stopped = true) :
    (handleClose now backoffDelayMs code c).fatals = c.fatals ∧
      (handleClose now backoffDelayMs code c).stopped = true := by
  simp [handleClose, h]

/-- A retry leaves the session as it is, and tells nobody that it is over. -/
@[simp]
theorem scheduleRetry_sessionId :
    (scheduleRetry now backoffDelayMs c).sessionId = c.sessionId := by
  unfold scheduleRetry
  dsimp only
  split
  · simp
  · simp

@[simp]
theorem scheduleRetry_stopped :
    (scheduleRetry now backoffDelayMs c).stopped = c.stopped := by
  unfold scheduleRetry
  dsimp only
  split
  · simp
  · simp

@[simp]
theorem scheduleRetry_fatals :
    (scheduleRetry now backoffDelayMs c).fatals = c.fatals := by
  unfold scheduleRetry
  dsimp only
  split
  · simp
  · simp

@[simp]
theorem scheduleRetry_socket :
    (scheduleRetry now backoffDelayMs c).socket = c.socket := by
  unfold scheduleRetry
  dsimp only
  split
  · simp
  · simp

@[simp]
theorem scheduleRetry_heartbeatTimer :
    (scheduleRetry now backoffDelayMs c).heartbeatTimer = c.heartbeatTimer := by
  unfold scheduleRetry
  dsimp only
  split
  · simp
  · simp

@[simp]
theorem scheduleRetry_lastSeq :
    (scheduleRetry now backoffDelayMs c).lastSeq = c.lastSeq := by
  unfold scheduleRetry
  dsimp only
  split
  · simp
  · simp

/-- A session that is kept is kept at its sequence. -/
theorem handleClose_lastSeq (hrunning : c.stopped = false)
    (hkept : ¬ (code = CloseCode.authenticationFailed ∨ clearsSession code = true)) :
    (handleClose now backoffDelayMs code c).lastSeq = c.lastSeq := by
  push Not at hkept
  unfold handleClose
  dsimp only
  rw [if_neg (by simp [hrunning]), if_neg hkept.1, if_neg hkept.2]
  split
  · simp [onFatal]
  · exact scheduleRetry_lastSeq

/-- Whatever the code, the socket and its heartbeat are over. -/
theorem handleClose_over :
    (handleClose now backoffDelayMs code c).socket = none ∧
      (handleClose now backoffDelayMs code c).heartbeatTimer = false := by
  unfold handleClose
  dsimp only
  split
  · simp
  · split
    · simp [onFatal]
    · split
      · simp [onFatal, clearSession]
      · split
        · simp [clearSession]
        · simp

/-- A client that is stopped afterwards has no retry it had not before. -/
theorem handleClose_retryTimer
    (hstopped : (handleClose now backoffDelayMs code c).stopped = true) :
    (handleClose now backoffDelayMs code c).retryTimer = c.retryTimer := by
  revert hstopped
  unfold handleClose
  dsimp only
  split
  · simp
  · next hrunning =>
      split
      · simp [onFatal]
      · split
        · simp [onFatal, clearSession]
        · split
          · simp [clearSession, hrunning]
          · simp [hrunning]

/-- The action each close code is documented to take, on a client that runs. -/
theorem handleClose_running (hrunning : c.stopped = false) :
    (handleClose now backoffDelayMs code c).stopped =
        (code == CloseCode.versionTooOld || code == CloseCode.authenticationFailed) ∧
      (handleClose now backoffDelayMs code c).fatals = c.fatals ++
        (if code = CloseCode.versionTooOld then [.outdatedClient]
          else if code = CloseCode.authenticationFailed then [.auth] else []) ∧
      (handleClose now backoffDelayMs code c).sessionId =
        if code = CloseCode.authenticationFailed ∨ clearsSession code = true then none
        else c.sessionId := by
  by_cases hversion : code = CloseCode.versionTooOld
  · subst hversion
    have hclears : clearsSession CloseCode.versionTooOld = false := by decide
    have hne : CloseCode.versionTooOld ≠ CloseCode.authenticationFailed := by decide
    simp [handleClose, hrunning, onFatal, hclears, hne]
  · by_cases hauth : code = CloseCode.authenticationFailed
    · subst hauth
      simp [handleClose, hrunning, onFatal, hversion, clearSession]
    · by_cases hclears : clearsSession code = true
      · simp [handleClose, hrunning, hversion, hauth, hclears, clearSession]
      · simp [handleClose, hrunning, hversion, hauth, hclears]

/-! ## Behind the server -/

/-- The code of the close event a browser raises: 1005 when the last frame is a
close without a code, and 1006 when there is none. -/
def seenCode (sent : List Gateway.Serve.WireFrame) : UInt16 :=
  match sent.getLast? with
  | some (.close (some (code, _))) => code
  | some (.close none) => 1005
  | _ => 1006

/-- Whatever the loop has decided, the client keeps its session, reports nothing
fatal and goes on to reconnect. -/
theorem no_decided_code_is_seen {codec : Gateway.Serve.Codec} {sink : Gateway.Serve.SinkClose}
    {config : Gateway.GatewayConfig} {socket : Gateway.Serve.Socket}
    {rounds : List (Timestamp × Gateway.Serve.Wake)} {served : Gateway.Serve.Served}
    (hserved : Gateway.Serve.serve codec sink config socket rounds = some served)
    (hdecided : served.closeReason.isSome = true) (hrunning : c.stopped = false) :
    (handleClose now backoffDelayMs (seenCode served.sent) c).sessionId = c.sessionId ∧
      (handleClose now backoffDelayMs (seenCode served.sent) c).fatals = c.fatals ∧
      (handleClose now backoffDelayMs (seenCode served.sent) c).stopped = false := by
  have hseen : seenCode served.sent = 1005 ∨ seenCode served.sent = 1006 := by
    have hcodeless := Gateway.Serve.sent_codeless hserved hdecided
    unfold seenCode
    split
    · next code reason hlast =>
        exact absurd (List.mem_of_getLast? hlast) (hcodeless (code, reason))
    · exact .inl rfl
    · exact .inr rfl
  obtain ⟨hstopped, hfatals, hsession⟩ :=
    @handleClose_running now backoffDelayMs (seenCode served.sent) c hrunning
  rw [hstopped, hfatals, hsession]
  rcases hseen with hseen | hseen
  · rw [hseen]
    exact ⟨if_neg (by decide), by simp [CloseCode.versionTooOld, CloseCode.authenticationFailed],
      by decide⟩
  · rw [hseen]
    exact ⟨if_neg (by decide), by simp [CloseCode.versionTooOld, CloseCode.authenticationFailed],
      by decide⟩

end GatewayClient
end Desktop
end Ldktela
