import Ldktela.Desktop.Backoff
import Ldktela.Desktop.GatewayClient

/-!
# The frames and timers of the gateway client

`desktop/src/gateway/client.ts` besides `handleClose`: the handlers of a frame and of the
heartbeat timer, and a client with its sockets, among which `open` attaches the handlers
and `detach` takes them off.

A handler gives the client it leaves and what it asks of the socket and the clock, in
order.  `onFatal` is the last thing a handler calls, so a `stop` it calls on the spot is a
`stop` after the handler.
-/

namespace Ldktela
namespace Desktop

open Protocol

/-- A frame as `parseServerFrame` reads it. -/
inductive ServerFrame where
  | hello (hello : Hello)
  | dispatch (seq : Nat) (event : DispatchEvent)
  | heartbeatAck
  | invalidSession (resumable : Bool)
  | reconnect
deriving DecidableEq

/-- What the client writes. -/
inductive ClientFrame where
  | identify (token : Uuid) (client : ClientInfo)
  | resume (token sessionId : Uuid) (lastSeq : Nat)
  | heartbeat
deriving DecidableEq

/-- What a handler does besides changing the client. -/
inductive Output where
  | send (socket : Nat) (frame : ClientFrame)
  | close (socket : Nat) (code : UInt16) (reason : String)
  /-- The heartbeat timer is set. -/
  | heartbeatIn (delayMs : Nat)
  | event (event : DispatchEvent)
deriving DecidableEq

/-- Two unanswered heartbeats in a row means the connection is a zombie. -/
def maxMissedAcks : Nat := 2

namespace GatewayClient

def send (frame : ClientFrame) (c : GatewayClient) : List Output :=
  match c.socket with
  | none => []
  | some socket => [.send socket frame]

def closeSocket (code : UInt16) (reason : String) (c : GatewayClient) : List Output :=
  match c.socket with
  | none => []
  | some socket => [.close socket code reason]

/-- `token` is what `getAccessToken` gives. -/
def sendIdentify (info : ClientInfo) (token : Option Uuid) (c : GatewayClient) :
    GatewayClient × List Output :=
  match token with
  | none => (c, c.closeSocket 1000 "no access token")
  | some token => (c.setStatus .identifying, c.send (.identify token info))

def scheduleHeartbeat (random : Random) (c : GatewayClient) : GatewayClient × List Output :=
  ({ c with heartbeatTimer := true },
    [.heartbeatIn (heartbeatDelayMs c.heartbeatIntervalMs random)])

def handleHello (info : ClientInfo) (token : Option Uuid) (random : Random) (intervalMs : Nat)
    (c : GatewayClient) : GatewayClient × List Output :=
  let c := { c with heartbeatIntervalMs := intervalMs, missedAcks := 0 }
  let greeted :=
    match c.sessionId with
    | some sessionId =>
        match token with
        | some token => (c.setStatus .resuming, c.send (.resume token sessionId c.lastSeq))
        | none => (c, [])
    | none => sendIdentify info token c
  let scheduled := scheduleHeartbeat random greeted.1
  (scheduled.1, greeted.2 ++ scheduled.2)

def handleDispatch (now seq : Nat) (event : DispatchEvent) (c : GatewayClient) :
    GatewayClient × List Output :=
  let c :=
    match event with
    | .ready d => c.ready seq d.sessionId d.heartbeatIntervalMs now
    | .resumed _ => setStatus .ready { c with lastSeq := seq, readyAt := some now }
    | _ => { c with lastSeq := seq }
  (c, [.event event])

/-- `none` is a frame that cannot be read. -/
def handleFrame (info : ClientInfo) (now : Nat) (token : Option Uuid) (random : Random)
    (c : GatewayClient) : Option ServerFrame → GatewayClient × List Output
  | none => (c, [])
  | some (.hello hello) => handleHello info token random hello.heartbeatIntervalMs c
  | some (.dispatch seq event) => handleDispatch now seq event c
  | some .heartbeatAck => ({ c with missedAcks := 0 }, [])
  | some (.invalidSession _) => sendIdentify info token (clearSession c)
  | some .reconnect =>
      ({ c with reconnectNow := true }, c.closeSocket 1000 "server requested reconnect")

/-- The heartbeat timer fires. -/
def beat (random : Random) (c : GatewayClient) : GatewayClient × List Output :=
  let c := { c with heartbeatTimer := false }
  match c.socket with
  | none => (c, [])
  | some _ =>
      if maxMissedAcks ≤ c.missedAcks then
        (c, c.closeSocket CloseCode.zombied "no heartbeat ack")
      else
        let c := { c with missedAcks := c.missedAcks + 1 }
        let scheduled := scheduleHeartbeat random c
        (scheduled.1, c.send .heartbeat ++ scheduled.2)

/-- What no frame and no heartbeat changes. -/
structure SameConnection (c c' : GatewayClient) : Prop where
  socket : c'.socket = c.socket
  stopped : c'.stopped = c.stopped
  retryTimer : c'.retryTimer = c.retryTimer
  attempt : c'.attempt = c.attempt
  fatals : c'.fatals = c.fatals

variable {c : GatewayClient} {info : ClientInfo} {token : Option Uuid} {random : Random}
  {now : Nat}

/-- A client without a socket sends nothing. -/
theorem mem_send {frame : ClientFrame} {out : Output} :
    out ∈ c.send frame ↔ ∃ socket, c.socket = some socket ∧ out = .send socket frame := by
  unfold send
  cases c.socket with
  | none => simp
  | some socket => simp

theorem mem_closeSocket {code : UInt16} {reason : String} {out : Output} :
    out ∈ c.closeSocket code reason ↔
      ∃ socket, c.socket = some socket ∧ out = .close socket code reason := by
  unfold closeSocket
  cases c.socket with
  | none => simp
  | some socket => simp

theorem sendIdentify_same : SameConnection c (c.sendIdentify info token).1 := by
  cases token with
  | none => exact ⟨rfl, rfl, rfl, rfl, rfl⟩
  | some token => exact ⟨by simp [sendIdentify], by simp [sendIdentify], by simp [sendIdentify],
      by simp [sendIdentify], by simp [sendIdentify]⟩

/-- Identifying is no matter of the session. -/
theorem sendIdentify_session :
    (c.sendIdentify info token).1.sessionId = c.sessionId ∧
      (c.sendIdentify info token).1.lastSeq = c.lastSeq := by
  cases token with
  | none => exact ⟨rfl, rfl⟩
  | some token => exact ⟨setStatus_sessionId _, setStatus_lastSeq _⟩

theorem handleHello_same (intervalMs : Nat) :
    SameConnection c (c.handleHello info token random intervalMs).1 := by
  unfold handleHello
  dsimp only
  split
  · split
    · exact ⟨by simp [scheduleHeartbeat], by simp [scheduleHeartbeat],
        by simp [scheduleHeartbeat], by simp [scheduleHeartbeat], by simp [scheduleHeartbeat]⟩
    · exact ⟨rfl, rfl, rfl, rfl, rfl⟩
  · have h := @sendIdentify_same { c with heartbeatIntervalMs := intervalMs, missedAcks := 0 }
      info token
    exact ⟨h.socket, h.stopped, h.retryTimer, h.attempt, h.fatals⟩

/-- Nor is a `RESUME`. -/
theorem handleHello_session (intervalMs : Nat) :
    (c.handleHello info token random intervalMs).1.sessionId = c.sessionId ∧
      (c.handleHello info token random intervalMs).1.lastSeq = c.lastSeq := by
  unfold handleHello
  dsimp only
  split
  · split
    · simp [scheduleHeartbeat]
    · exact ⟨rfl, rfl⟩
  · exact @sendIdentify_session { c with heartbeatIntervalMs := intervalMs, missedAcks := 0 }
      info token

theorem handleDispatch_same (seq : Nat) (event : DispatchEvent) :
    SameConnection c (c.handleDispatch now seq event).1 := by
  cases event with
  | ready d => exact ⟨by simp [handleDispatch, ready], by simp [handleDispatch],
      by simp [handleDispatch, ready], by simp [handleDispatch, ready], by simp [handleDispatch]⟩
  | resumed d => exact ⟨by simp [handleDispatch], by simp [handleDispatch],
      by simp [handleDispatch], by simp [handleDispatch], by simp [handleDispatch]⟩
  | _ => exact ⟨rfl, rfl, rfl, rfl, rfl⟩

theorem handleFrame_same (frame : Option ServerFrame) :
    SameConnection c (c.handleFrame info now token random frame).1 := by
  match frame with
  | none => exact ⟨rfl, rfl, rfl, rfl, rfl⟩
  | some (.hello hello) => exact handleHello_same hello.heartbeatIntervalMs
  | some (.dispatch seq event) => exact handleDispatch_same seq event
  | some .heartbeatAck => exact ⟨rfl, rfl, rfl, rfl, rfl⟩
  | some (.invalidSession _) =>
      have h := @sendIdentify_same c.clearSession info token
      exact ⟨h.socket, h.stopped, h.retryTimer, h.attempt, h.fatals⟩
  | some .reconnect => exact ⟨rfl, rfl, rfl, rfl, rfl⟩

theorem beat_same : SameConnection c (c.beat random).1 := by
  unfold beat
  dsimp only
  split
  · exact ⟨rfl, rfl, rfl, rfl, rfl⟩
  · split
    · exact ⟨rfl, rfl, rfl, rfl, rfl⟩
    · exact ⟨rfl, rfl, rfl, rfl, rfl⟩

end GatewayClient

/-- A client and the sockets it has created, which are numbered. -/
structure Wired where
  info : ClientInfo
  client : GatewayClient
  /-- The sockets that call our handlers. -/
  attached : List Nat
  /-- Sockets created so far. -/
  opened : Nat

namespace Wired

/-- What can happen.  `stops` says that `onFatal`, if it is called, calls `stop`. -/
inductive Act where
  | start (token : Option Uuid) (stops : Bool)
  | stop
  | frame (socket : Nat) (frame : Option ServerFrame) (now : Nat) (token : Option Uuid)
      (random : Random)
  | close (socket : Nat) (code : UInt16) (now : Nat) (random : Random) (stops : Bool)
  /-- The heartbeat timer fires. -/
  | heartbeat (random : Random)
  /-- The retry timer fires. -/
  | retry (token : Option Uuid) (stops : Bool)

def Act.onFatalStops : Act → Bool
  | .start _ stops => stops
  | .close _ _ _ _ stops => stops
  | .retry _ stops => stops
  | _ => false

/-- The handlers of the client's socket are taken off. -/
def detach (w : Wired) : List Nat :=
  match w.client.socket with
  | none => w.attached
  | some socket => w.attached.filter (· ≠ socket)

def stop (w : Wired) : Wired :=
  { w with client := w.client.stop, attached := w.detach }

/-- `open`. -/
def openSocket (token : Option Uuid) (w : Wired) : Wired :=
  match token with
  | none => { w with client := w.client.openSocket none w.opened }
  | some token =>
      { w with
        client := w.client.openSocket (some token) w.opened
        attached := w.attached ++ [w.opened]
        opened := w.opened + 1 }

/-- `onFatal` was called in between. -/
def Reported (w w' : Wired) : Prop := w.client.fatals.length < w'.client.fatals.length

instance (w w' : Wired) : Decidable (w.Reported w') :=
  inferInstanceAs (Decidable (_ < _))

def start (token : Option Uuid) (w : Wired) : Wired :=
  if w.client.stopped then
    openSocket token { w with client := { w.client with stopped := false, attempt := 0 } }
  else
    w

def retry (token : Option Uuid) (w : Wired) : Wired :=
  match w.client.retryTimer with
  | none => w
  | some _ =>
      let w' := { w with client := { w.client with retryTimer := none } }
      if w.client.stopped then w' else openSocket token w'

def handleClose (now : Nat) (random : Random) (code : UInt16) (w : Wired) : Wired :=
  { w with
    client := w.client.handleClose now (backoffDelayMs · random) code
    attached := w.detach }

/-- What happens before `stop` is called, if it is. -/
def handle (w : Wired) : Act → Wired × List Output
  | .start token _ => (w.start token, [])
  | .stop => (w, [])
  | .frame socket frame now token random =>
      if socket ∈ w.attached then
        let handled := w.client.handleFrame w.info now token random frame
        ({ w with client := handled.1 }, handled.2)
      else
        (w, [])
  | .close socket code now random _ =>
      if socket ∈ w.attached then (w.handleClose now random code, []) else (w, [])
  | .heartbeat random =>
      if w.client.heartbeatTimer then
        let beaten := w.client.beat random
        ({ w with client := beaten.1 }, beaten.2)
      else
        (w, [])
  | .retry token _ => (w.retry token, [])

/-- `stop` is called, or `onFatal` is and calls it. -/
def stopCalled (w : Wired) : Act → Bool
  | .stop => true
  | act => act.onFatalStops && decide (w.Reported (w.handle act).1)

def step (w : Wired) (act : Act) : Wired × List Output :=
  let handled := w.handle act
  (if w.stopCalled act then handled.1.stop else handled.1, handled.2)

/-- A client that was never started. -/
def idle (info : ClientInfo) : Wired := ⟨info, .idle, [], 0⟩

/-! ## The socket and the timers -/

/-- The handlers are on the client's socket, which a stopped client and one that waits for a
retry do not have. -/
structure Inv (w : Wired) : Prop where
  attached_eq : w.attached = w.client.socket.toList
  socket_of_stopped : w.client.stopped = true → w.client.socket = none
  retry_of_stopped : w.client.stopped = true → w.client.retryTimer = none
  socket_of_retry : w.client.retryTimer ≠ none → w.client.socket = none
  socket_of_heartbeat : w.client.heartbeatTimer = true → w.client.socket ≠ none

variable {w : Wired}

theorem detach_eq_nil (h : w.attached = w.client.socket.toList) : w.detach = [] := by
  unfold detach
  cases hsocket : w.client.socket with
  | none => simpa [hsocket] using h
  | some socket => simp [h, hsocket]

theorem inv_idle (info : ClientInfo) : Inv (idle info) where
  attached_eq := rfl
  socket_of_stopped _ := rfl
  retry_of_stopped _ := rfl
  socket_of_retry _ := rfl
  socket_of_heartbeat h := by cases h

theorem Inv.stop (h : Inv w) : Inv w.stop where
  attached_eq := by
    rw [Wired.stop, GatewayClient.stop_socket]
    exact detach_eq_nil h.attached_eq
  socket_of_stopped _ := GatewayClient.stop_socket
  retry_of_stopped _ := GatewayClient.stop_retryTimer
  socket_of_retry _ := GatewayClient.stop_socket
  socket_of_heartbeat hbeat := by simp [Wired.stop, GatewayClient.stop] at hbeat

theorem inv_openSocket (token : Option Uuid) (hrunning : w.client.stopped = false)
    (hattached : w.attached = []) (hsocket : w.client.socket = none)
    (hretry : w.client.retryTimer = none) (hbeat : w.client.heartbeatTimer = false) :
    Inv (w.openSocket token) := by
  cases token with
  | none =>
      obtain ⟨-, -, hnone, htimer⟩ := @GatewayClient.openSocket_none w.client w.opened
      refine ⟨?_, fun _ => hnone.trans hsocket, fun _ => htimer.trans hretry,
        fun _ => hnone.trans hsocket, fun h => ?_⟩
      · rw [show (w.openSocket none).client.socket = none from hnone.trans hsocket]
        exact hattached
      · simp [openSocket, hbeat] at h
  | some token =>
      obtain ⟨-, hstays⟩ := @GatewayClient.openSocket_some w.client token w.opened
      have hstopped : (w.openSocket (some token)).client.stopped = false := hstays.trans hrunning
      refine ⟨by simp [openSocket, hattached], fun h => ?_, fun _ => ?_, fun h => ?_, fun _ => ?_⟩
      · rw [hstopped] at h
        cases h
      · simp [openSocket, hretry]
      · simp [openSocket, hretry] at h
      · simp [openSocket]

theorem Inv.attached_nil (h : Inv w) (hsocket : w.client.socket = none) : w.attached = [] := by
  rw [h.attached_eq, hsocket]
  rfl

theorem Inv.heartbeat_off (h : Inv w) (hsocket : w.client.socket = none) :
    w.client.heartbeatTimer = false := by
  by_contra hbeat
  exact h.socket_of_heartbeat (by simpa using hbeat) hsocket

theorem running_of_attached (h : Inv w) {socket : Nat} (hsocket : socket ∈ w.attached) :
    w.client.stopped = false := by
  by_contra hstopped
  rw [h.attached_nil (h.socket_of_stopped (by simpa using hstopped))] at hsocket
  cases hsocket

theorem Inv.start (h : Inv w) (token : Option Uuid) : Inv (w.start token) := by
  unfold Wired.start
  split
  · next hstopped =>
      have hsocket := h.socket_of_stopped hstopped
      exact inv_openSocket token rfl (h.attached_nil hsocket) hsocket (h.retry_of_stopped hstopped)
        (h.heartbeat_off hsocket)
  · exact h

theorem Inv.retry (h : Inv w) (token : Option Uuid) : Inv (w.retry token) := by
  unfold Wired.retry
  split
  · exact h
  · next hretry =>
      have hsocket := h.socket_of_retry (by rw [hretry]; exact Option.some_ne_none _)
      have hrunning : w.client.stopped = false := by
        by_contra hstopped
        have hnone := h.retry_of_stopped (by simpa using hstopped)
        rw [hretry] at hnone
        cases hnone
      dsimp only
      rw [if_neg (by simp [hrunning])]
      exact inv_openSocket token hrunning (h.attached_nil hsocket) hsocket rfl
        (h.heartbeat_off hsocket)

theorem Inv.handleClose (h : Inv w) {socket : Nat} (hsocket : socket ∈ w.attached) (now : Nat)
    (random : Random) (code : UInt16) : Inv (w.handleClose now random code) := by
  obtain ⟨hnone, hbeat⟩ :=
    @GatewayClient.handleClose_over now (backoffDelayMs · random) code w.client
  have hretry : w.client.retryTimer = none := by
    by_contra hretry
    rw [h.attached_nil (h.socket_of_retry hretry)] at hsocket
    cases hsocket
  refine ⟨?_, fun _ => hnone, fun hstopped => ?_, fun _ => hnone, fun hon => ?_⟩
  · rw [show (w.handleClose now random code).client.socket = none from hnone]
    exact detach_eq_nil h.attached_eq
  · exact (GatewayClient.handleClose_retryTimer hstopped).trans hretry
  · rw [show (w.handleClose now random code).client.heartbeatTimer = false from hbeat] at hon
    cases hon

/-- Frames and heartbeats of a socket that is there. -/
theorem Inv.same (h : Inv w) {c : GatewayClient} (hsame : w.client.SameConnection c)
    (hsocket : w.client.socket ≠ none) : Inv { w with client := c } where
  attached_eq := by
    rw [hsame.socket]
    exact h.attached_eq
  socket_of_stopped hstopped :=
    hsame.socket.trans (h.socket_of_stopped (hsame.stopped.symm.trans hstopped))
  retry_of_stopped hstopped :=
    hsame.retryTimer.trans (h.retry_of_stopped (hsame.stopped.symm.trans hstopped))
  socket_of_retry hretry :=
    absurd (h.socket_of_retry fun hnone => hretry (hsame.retryTimer.trans hnone)) hsocket
  socket_of_heartbeat _ hnone := hsocket (hsame.socket.symm.trans hnone)

theorem Inv.handle (h : Inv w) (act : Act) : Inv (w.handle act).1 := by
  cases act with
  | start token stops => exact h.start token
  | stop => exact h
  | frame socket frame now token random =>
      unfold Wired.handle
      dsimp only
      split
      · next hsocket =>
          refine h.same (GatewayClient.handleFrame_same frame) fun hnone => ?_
          rw [h.attached_nil hnone] at hsocket
          cases hsocket
      · exact h
  | close socket code now random stops =>
      unfold Wired.handle
      dsimp only
      split
      · next hsocket => exact h.handleClose hsocket now random code
      · exact h
  | heartbeat random =>
      unfold Wired.handle
      dsimp only
      split
      · next hbeat => exact h.same GatewayClient.beat_same (h.socket_of_heartbeat hbeat)
      · exact h
  | retry token stops => exact h.retry token

theorem Inv.step (h : Inv w) (act : Act) : Inv (w.step act).1 := by
  unfold Wired.step
  dsimp only
  split
  · exact (h.handle act).stop
  · exact h.handle act

/-! ## What is fatal -/

theorem openSocket_reports (token : Option Uuid) :
    (w.openSocket token).client.stopped = true ∨
      (w.openSocket token).client.fatals = w.client.fatals := by
  cases token with
  | none => exact .inl (@GatewayClient.openSocket_none w.client w.opened).2.1
  | some token => exact .inr (@GatewayClient.openSocket_some w.client token w.opened).1

theorem handleClose_reports (hrunning : w.client.stopped = false) (now : Nat) (random : Random)
    (code : UInt16) :
    (code = CloseCode.versionTooOld ∨ code = CloseCode.authenticationFailed) ∧
        (w.handleClose now random code).client.stopped = true ∨
      ¬ (code = CloseCode.versionTooOld ∨ code = CloseCode.authenticationFailed) ∧
        (w.handleClose now random code).client.fatals = w.client.fatals := by
  obtain ⟨hstopped, hfatals, -⟩ :=
    @GatewayClient.handleClose_running now (backoffDelayMs · random) code w.client hrunning
  by_cases hcode : code = CloseCode.versionTooOld ∨ code = CloseCode.authenticationFailed
  · exact .inl ⟨hcode, hstopped.trans (by simpa using hcode)⟩
  · push Not at hcode
    refine .inr ⟨by simp [hcode.1, hcode.2], hfatals.trans ?_⟩
    rw [if_neg hcode.1, if_neg hcode.2, List.append_nil]

theorem handle_reports (h : w.Inv) (act : Act) :
    (w.handle act).1.client.stopped = true ∨
      (w.handle act).1.client.fatals = w.client.fatals := by
  cases act with
  | start token stops =>
      simp only [handle, start]
      split
      · exact openSocket_reports token
      · exact .inr rfl
  | stop => exact .inr rfl
  | frame socket frame now token random =>
      simp only [handle]
      split
      · exact .inr (GatewayClient.handleFrame_same frame).fatals
      · exact .inr rfl
  | close socket code now random stops =>
      simp only [handle]
      split
      · next hsocket =>
          exact (handleClose_reports (running_of_attached h hsocket) now random code).imp
            And.right And.right
      · exact .inr rfl
  | heartbeat random =>
      simp only [handle]
      split
      · exact .inr GatewayClient.beat_same.fatals
      · exact .inr rfl
  | retry token stops =>
      simp only [handle, retry]
      split
      · exact .inr rfl
      · split
        · exact .inr rfl
        · exact openSocket_reports token

/-- `onFatal` is called by a client that has stopped. -/
theorem stopped_of_reported (h : w.Inv) {act : Act} (hreported : w.Reported (w.handle act).1) :
    (w.handle act).1.client.stopped = true := by
  refine (handle_reports h act).resolve_right fun hsame => ?_
  rw [Reported, hsame] at hreported
  exact lt_irrefl _ hreported

end Wired

end Desktop
end Ldktela
