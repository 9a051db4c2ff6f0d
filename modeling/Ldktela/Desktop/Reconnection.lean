import Ldktela.Desktop.GatewayFrames
import Ldktela.Lib.Runs

/-!
# When the gateway client reconnects

The delay of every retry `handleClose` schedules, beside a record of what each connection
was asked and how long it lasted.  The request to reconnect at once is a flag of the client,
not of the connection: `right_iff` says that the delays are right exactly as long as no
connection closes on the request of an earlier one.
-/

namespace Ldktela
namespace Desktop

open Protocol
open Runs

/-- A retry, and what it is for. -/
structure Retry where
  delay : Nat
  /-- The connection that closed had received opcode 7. -/
  requested : Bool
  /-- Earlier closes without a request. -/
  closes : Nat
  random : Random

/-- At once if the server asked for it, after the backoff otherwise. -/
structure Retry.Right (retry : Retry) : Prop where
  at_once : retry.delay = 0 ↔ retry.requested = true
  backoff : retry.requested = false → retry.delay = backoffDelayMs retry.closes retry.random

/-- Ready for longer than `sessionStableMs`. -/
def stable (now : Nat) (since : Option Nat) : Bool :=
  match since with
  | some since => decide (sessionStableMs < now - since)
  | none => false

structure Retrying where
  wired : Wired
  /-- The connection has received opcode 7. -/
  requested : Bool
  /-- The last `READY` or `RESUMED` of the connection. -/
  readySince : Option Nat
  /-- Closes without a request since the client was started and since its last stable
  session. -/
  closes : Nat
  retries : List Retry

namespace Retrying

def heard (now : Nat) (w : Retrying) : Option ServerFrame → Retrying
  | some .reconnect => { w with requested := true }
  | some (.dispatch _ (.ready _)) => { w with readySince := some now }
  | some (.dispatch _ (.resumed _)) => { w with readySince := some now }
  | _ => w

/-- The connection is over; `retryTimer` is the retry it leaves. -/
def closed (now : Nat) (random : Random) (retryTimer : Option Nat) (w : Retrying) : Retrying :=
  let closed := { w with requested := false, readySince := none }
  match retryTimer with
  | none => closed
  | some delay =>
      let closes := if stable now w.readySince then 0 else w.closes
      { closed with
        closes := if w.requested then closes else closes + 1
        retries := w.retries ++ [⟨delay, w.requested, closes, random⟩] }

def record (w : Retrying) (client : GatewayClient) : Wired.Act → Retrying
  | .start _ _ => if w.wired.client.stopped then { w with closes := 0 } else w
  | .frame socket frame now _ _ => if socket ∈ w.wired.attached then w.heard now frame else w
  | .close socket _ now random _ =>
      if socket ∈ w.wired.attached then w.closed now random client.retryTimer else w
  | _ => w

def step (w : Retrying) (act : Wired.Act) : Retrying :=
  let wired := (w.wired.step act).1
  let recorded := w.record wired.client act
  if wired.opened = w.wired.opened then
    { recorded with wired := wired }
  else
    -- a new connection
    { recorded with wired := wired, requested := false, readySince := none }

def start (info : ClientInfo) : Retrying := ⟨.idle info, false, none, 0, []⟩

/-- Every delay so far is the right one. -/
def Right (w : Retrying) : Prop := ∀ retry ∈ w.retries, retry.Right

/-- A connection that closes, and is to be retried, does not close on the request an
earlier connection received. -/
def Fresh (w : Retrying) : Wired.Act → Prop
  | .close socket code _ _ _ => socket ∈ w.wired.attached →
      code ≠ CloseCode.versionTooOld → code ≠ CloseCode.authenticationFailed →
      w.wired.client.reconnectNow = true → w.requested = true
  | _ => True

end Retrying

/-! ## The client -/

namespace GatewayClient

variable {c : GatewayClient} {now : Nat} {code : UInt16}

/-- The attempt that a retry counts as. -/
def nextAttempt (now : Nat) (c : GatewayClient) : Nat :=
  if stable now c.readyAt then 0 else c.attempt

/-- What `scheduleRetry` leaves. -/
theorem scheduleRetry_fields (backoffDelayMs : Nat → Nat) :
    (scheduleRetry now backoffDelayMs c).retryTimer =
        some (if c.reconnectNow then 0 else backoffDelayMs (c.nextAttempt now)) ∧
      (scheduleRetry now backoffDelayMs c).attempt =
        (if c.reconnectNow then c.nextAttempt now else c.nextAttempt now + 1) ∧
      (scheduleRetry now backoffDelayMs c).readyAt = none := by
  unfold scheduleRetry nextAttempt
  cases hready : c.readyAt with
  | none => cases hnow : c.reconnectNow with
    | true => simp [stable]
    | false => simp [stable]
  | some since => cases hnow : c.reconnectNow with
    | true => simp [stable]
    | false => simp [stable]

/-- A client that goes on after a close goes on to a retry. -/
theorem handleClose_retries (hrunning : c.stopped = false)
    (hversion : code ≠ CloseCode.versionTooOld) (hauth : code ≠ CloseCode.authenticationFailed)
    (backoffDelayMs : Nat → Nat) :
    (handleClose now backoffDelayMs code c).retryTimer =
        some (if c.reconnectNow then 0 else backoffDelayMs (c.nextAttempt now)) ∧
      (handleClose now backoffDelayMs code c).attempt =
        (if c.reconnectNow then c.nextAttempt now else c.nextAttempt now + 1) ∧
      (handleClose now backoffDelayMs code c).readyAt = none := by
  unfold handleClose
  dsimp only
  rw [if_neg (by simp [hrunning]), if_neg hversion, if_neg hauth]
  split
  · exact scheduleRetry_fields backoffDelayMs
  · exact scheduleRetry_fields backoffDelayMs

/-- Whether the connection is ready, and what it was asked. -/
structure SameReadiness (c c' : GatewayClient) : Prop where
  readyAt : c'.readyAt = c.readyAt
  reconnectNow : c'.reconnectNow = c.reconnectNow

theorem sendIdentify_readiness {info : ClientInfo} {token : Option Uuid} :
    SameReadiness c (c.sendIdentify info token).1 := by
  cases token with
  | none => exact ⟨rfl, rfl⟩
  | some token => exact ⟨setStatus_readyAt _, setStatus_reconnectNow _⟩

theorem handleHello_readiness {info : ClientInfo} {token : Option Uuid} {random : Random}
    (intervalMs : Nat) : SameReadiness c (c.handleHello info token random intervalMs).1 := by
  unfold handleHello
  dsimp only
  split
  · split
    · exact ⟨by simp [scheduleHeartbeat], by simp [scheduleHeartbeat]⟩
    · exact ⟨rfl, rfl⟩
  · have h := @sendIdentify_readiness { c with heartbeatIntervalMs := intervalMs, missedAcks := 0 }
      info token
    exact ⟨h.readyAt, h.reconnectNow⟩

theorem beat_readiness {random : Random} : SameReadiness c (c.beat random).1 := by
  unfold beat
  dsimp only
  split
  · exact ⟨rfl, rfl⟩
  · split
    · exact ⟨rfl, rfl⟩
    · exact ⟨rfl, rfl⟩

end GatewayClient

theorem Wired.openSocket_reconnectNow {w : Wired} (token : Option Uuid) :
    (w.openSocket token).client.reconnectNow = w.client.reconnectNow := by
  cases token with
  | none => exact GatewayClient.openSocket_reconnectNow none w.opened
  | some token => exact GatewayClient.openSocket_reconnectNow (some token) w.opened

/-! ## The record -/

namespace Retrying

/-- The client counts as the record does. -/
structure Counts (closes : Nat) (readySince : Option Nat) (c : GatewayClient) : Prop where
  attempt : c.attempt = closes
  /-- What an earlier connection left of its readiness, it left to a count of zero. -/
  readyAt : c.readyAt = readySince ∨ readySince = none ∧ closes = 0
  waiting : c.socket = none → readySince = none

/-- The attempt of the next retry. -/
theorem Counts.nextAttempt {closes : Nat} {readySince : Option Nat} {c : GatewayClient}
    (h : Counts closes readySince c) (now : Nat) :
    c.nextAttempt now = if stable now readySince then 0 else closes := by
  unfold GatewayClient.nextAttempt
  rw [h.attempt]
  rcases h.readyAt with hready | ⟨-, hcloses⟩
  · rw [hready]
  · rw [hcloses, ite_self, ite_self]

/-- The client knows at least of the requests of the connection. -/
structure Inv (w : Retrying) : Prop where
  wired : w.wired.Inv
  counts : w.wired.client.stopped = false → Counts w.closes w.readySince w.wired.client
  requested : w.requested = true → w.wired.client.reconnectNow = true

variable {w : Retrying}

theorem inv_start (info : ClientInfo) : Inv (start info) where
  wired := Wired.inv_idle info
  counts h := by cases h
  requested h := by cases h

theorem requested_frame (h : w.requested = true → w.wired.client.reconnectNow = true)
    (info : ClientInfo) (now : Nat) (token : Option Uuid) (random : Random)
    (frame : Option ServerFrame) (hrequested : (w.heard now frame).requested = true) :
    (w.wired.client.handleFrame info now token random frame).1.reconnectNow = true := by
  match frame with
  | none => exact h hrequested
  | some (.hello hello) =>
      exact (GatewayClient.handleHello_readiness hello.heartbeatIntervalMs).reconnectNow.trans
        (h hrequested)
  | some (.dispatch seq event) =>
      have hnow : w.wired.client.reconnectNow = true := by
        refine h ?_
        cases event with
        | _ => exact hrequested
      cases event with
      | ready d =>
          simpa [GatewayClient.handleFrame, GatewayClient.handleDispatch, GatewayClient.ready]
            using hnow
      | resumed d =>
          simpa [GatewayClient.handleFrame, GatewayClient.handleDispatch] using hnow
      | _ => exact hnow
  | some .heartbeatAck => exact h hrequested
  | some (.invalidSession _) =>
      exact GatewayClient.sendIdentify_readiness.reconnectNow.trans (h hrequested)
  | some .reconnect => rfl

/-- What the record has of requests the client knows. -/
theorem requested_handle (h : Inv w) (client : GatewayClient) (act : Wired.Act)
    (hrequested : (w.record client act).requested = true) :
    (w.wired.handle act).1.client.reconnectNow = true := by
  cases act with
  | start token stops =>
      have hrequested : w.requested = true := by
        unfold record at hrequested
        dsimp only at hrequested
        split at hrequested
        · exact hrequested
        · exact hrequested
      simp only [Wired.handle, Wired.start]
      split
      · rw [Wired.openSocket_reconnectNow]
        exact h.requested hrequested
      · exact h.requested hrequested
  | stop => exact h.requested hrequested
  | frame socket frame now token random =>
      by_cases hsocket : socket ∈ w.wired.attached
      · simp only [record, hsocket, if_true] at hrequested
        simp only [Wired.handle, hsocket, if_true]
        exact requested_frame h.requested w.wired.info now token random frame hrequested
      · simp only [record, hsocket, if_false] at hrequested
        simp only [Wired.handle, hsocket, if_false]
        exact h.requested hrequested
  | close socket code now random stops =>
      by_cases hsocket : socket ∈ w.wired.attached
      · simp only [record, hsocket, if_true, closed] at hrequested
        split at hrequested
        · cases hrequested
        · cases hrequested
      · simp only [record, hsocket, if_false] at hrequested
        simp only [Wired.handle, hsocket, if_false]
        exact h.requested hrequested
  | heartbeat random =>
      simp only [Wired.handle]
      split
      · exact GatewayClient.beat_readiness.reconnectNow.trans (h.requested hrequested)
      · exact h.requested hrequested
  | retry token stops =>
      simp only [Wired.handle, Wired.retry]
      split
      · exact h.requested hrequested
      · split
        · exact h.requested hrequested
        · rw [Wired.openSocket_reconnectNow]
          exact h.requested hrequested

theorem counts_frame (h : Counts w.closes w.readySince w.wired.client)
    (info : ClientInfo) (now : Nat) (token : Option Uuid) (random : Random)
    (frame : Option ServerFrame) (hsocket : w.wired.client.socket ≠ none) :
    Counts (w.heard now frame).closes (w.heard now frame).readySince
      (w.wired.client.handleFrame info now token random frame).1 := by
  have hsame := @GatewayClient.handleFrame_same w.wired.client info token random now frame
  have hclosed : ∀ readySince : Option Nat,
      (w.wired.client.handleFrame info now token random frame).1.socket = none →
        readySince = none := by
    intro readySince hnone
    exact absurd (hsame.socket.symm.trans hnone) hsocket
  have hquiet : (w.wired.client.handleFrame info now token random frame).1.readyAt =
      w.wired.client.readyAt → Counts w.closes w.readySince
        (w.wired.client.handleFrame info now token random frame).1 := by
    intro hready
    exact ⟨hsame.attempt.trans h.attempt, by rw [hready]; exact h.readyAt, hclosed _⟩
  have hready : (w.wired.client.handleFrame info now token random frame).1.readyAt = some now →
      Counts w.closes (some now) (w.wired.client.handleFrame info now token random frame).1 :=
    fun hready => ⟨hsame.attempt.trans h.attempt, .inl hready, hclosed _⟩
  match frame with
  | none => exact hquiet rfl
  | some (.hello hello) =>
      exact hquiet (GatewayClient.handleHello_readiness hello.heartbeatIntervalMs).readyAt
  | some (.dispatch seq event) =>
      cases event with
      | ready d =>
          exact hready (by
            simp [GatewayClient.handleFrame, GatewayClient.handleDispatch, GatewayClient.ready])
      | resumed d =>
          exact hready (by simp [GatewayClient.handleFrame, GatewayClient.handleDispatch])
      | _ => exact hquiet rfl
  | some .heartbeatAck => exact hquiet rfl
  | some (.invalidSession _) => exact hquiet GatewayClient.sendIdentify_readiness.readyAt
  | some .reconnect => exact hquiet rfl

/-- A close that goes on to a retry. -/
theorem closed_retry (h : Inv w) {socket : Nat} (hsocket : socket ∈ w.wired.attached)
    (now : Nat) (random : Random) {code : UInt16} (hversion : code ≠ CloseCode.versionTooOld)
    (hauth : code ≠ CloseCode.authenticationFailed) :
    ∃ delay, (w.wired.handleClose now random code).client.retryTimer = some delay ∧
      delay = (if w.wired.client.reconnectNow then 0
        else backoffDelayMs (if stable now w.readySince then 0 else w.closes) random) ∧
      (w.wired.client.reconnectNow = w.requested →
        Counts (w.closed now random (some delay)).closes none
          (w.wired.handleClose now random code).client) := by
  have hrunning := Wired.running_of_attached h.wired hsocket
  have hnext := (h.counts hrunning).nextAttempt now
  obtain ⟨hretry, hattempt, hready⟩ := @GatewayClient.handleClose_retries _ now code
    hrunning hversion hauth (backoffDelayMs · random)
  rw [hnext] at hretry hattempt
  refine ⟨_, hretry, rfl, fun hrequested => ⟨?_, .inl hready, fun _ => rfl⟩⟩
  rw [show (w.wired.handleClose now random code).client.attempt = _ from hattempt, hrequested]
  rfl

/-- The retry of a connection has the right delay exactly if the request it is scheduled on
is its own. -/
theorem right_retry_iff (hrequested : w.requested = true → w.wired.client.reconnectNow = true)
    (closes : Nat) (random : Random) :
    Retry.Right ⟨if w.wired.client.reconnectNow then 0 else backoffDelayMs closes random,
        w.requested, closes, random⟩ ↔
      (w.wired.client.reconnectNow = true → w.requested = true) := by
  have hpos := backoffDelayMs_pos closes random
  cases hnow : w.wired.client.reconnectNow with
  | true => exact ⟨fun h _ => h.at_once.mp rfl,
      fun h => ⟨⟨fun _ => h rfl, fun _ => rfl⟩, fun hnot => by rw [h rfl] at hnot; cases hnot⟩⟩
  | false =>
      have hnot : w.requested = false := by
        by_contra hasked
        have hset := hrequested (by simpa using hasked)
        rw [hnow] at hset
        cases hset
      rw [hnot]
      refine ⟨fun _ h => (by cases h), fun _ =>
        ⟨⟨fun h => ?_, fun h => (by cases h)⟩, fun _ => rfl⟩⟩
      exact absurd h hpos.ne'

/-- A close ends the client, or it goes on to a retry. -/
theorem close_cases (h : w.wired.Inv) {socket : Nat} (hsocket : socket ∈ w.wired.attached)
    (code : UInt16) (now : Nat) (random : Random) (stops : Bool) :
    (code = CloseCode.versionTooOld ∨ code = CloseCode.authenticationFailed) ∧
        (w.wired.step (.close socket code now random stops)).1.client.stopped = true ∧
        (w.wired.step (.close socket code now random stops)).1.client.retryTimer = none ∨
      (code ≠ CloseCode.versionTooOld ∧ code ≠ CloseCode.authenticationFailed) ∧
        (w.wired.step (.close socket code now random stops)).1 =
          w.wired.handleClose now random code := by
  have hhandle : (w.wired.handle (.close socket code now random stops)).1 =
      w.wired.handleClose now random code := by
    simp only [Wired.handle, hsocket, if_true]
  rcases Wired.handleClose_reports (Wired.running_of_attached h hsocket) now random code with
    ⟨hcode, hstopped⟩ | ⟨hcode, hfatals⟩
  · have hinv := h.step (.close socket code now random stops)
    have hafter : (w.wired.step (.close socket code now random stops)).1.client.stopped = true := by
      unfold Wired.step
      dsimp only
      split
      · exact GatewayClient.stop_stopped
      · rw [hhandle]
        exact hstopped
    exact .inl ⟨hcode, hafter, hinv.retry_of_stopped hafter⟩
  · refine .inr ⟨by simpa using hcode, ?_⟩
    have hstop : w.wired.stopCalled (.close socket code now random stops) = false := by
      simp only [Wired.stopCalled, hhandle]
      simp [Wired.Reported, hfatals]
    unfold Wired.step
    dsimp only
    rw [hstop, hhandle]
    rfl

theorem retries_step (w : Retrying) (act : Wired.Act) :
    (w.step act).retries = (w.record (w.wired.step act).1.client act).retries := by
  unfold step
  dsimp only
  split
  · rfl
  · rfl

theorem retries_heard (w : Retrying) (now : Nat) (frame : Option ServerFrame) :
    (w.heard now frame).retries = w.retries := by
  match frame with
  | none => rfl
  | some (.hello _) => rfl
  | some (.dispatch seq event) =>
      cases event with
      | _ => rfl
  | some .heartbeatAck => rfl
  | some (.invalidSession _) => rfl
  | some .reconnect => rfl

theorem retries_kept (w : Retrying) (act : Wired.Act) {retry : Retry} (h : retry ∈ w.retries) :
    retry ∈ (w.step act).retries := by
  rw [retries_step]
  cases act with
  | start token stops =>
      unfold record
      dsimp only
      split
      · exact h
      · exact h
  | stop => exact h
  | frame socket frame now token random =>
      unfold record
      dsimp only
      split
      · rw [retries_heard]
        exact h
      · exact h
  | close socket code now random stops =>
      unfold record closed
      dsimp only
      split
      · split
        · exact h
        · exact List.mem_append_left _ h
      · exact h
  | heartbeat random => exact h
  | retry token stops => exact h

theorem right_congr {w' : Retrying} (h : w'.retries = w.retries) : Right w' ↔ Right w := by
  rw [Right, Right, h]

/-- Only a close on an outdated request schedules a wrong retry. -/
theorem right_step_iff (h : Inv w) (act : Wired.Act) :
    Right (w.step act) ↔ Right w ∧ w.Fresh act := by
  -- steps that plan no retry
  have hquiet : (w.record (w.wired.step act).1.client act).retries = w.retries →
      w.Fresh act → (Right (w.step act) ↔ Right w ∧ w.Fresh act) := by
    intro hsame hfresh
    rw [right_congr ((retries_step w act).trans hsame)]
    exact ⟨fun hright => ⟨hright, hfresh⟩, And.left⟩
  cases act with
  | start token stops =>
      refine hquiet ?_ trivial
      unfold record
      dsimp only
      split
      · rfl
      · rfl
  | stop => exact hquiet rfl trivial
  | frame socket frame now token random =>
      refine hquiet ?_ trivial
      unfold record
      dsimp only
      split
      · exact retries_heard w now frame
      · rfl
  | close socket code now random stops =>
      by_cases hsocket : socket ∈ w.wired.attached
      · rcases close_cases h.wired hsocket code now random stops with
          ⟨hcode, -, hnone⟩ | ⟨⟨hversion, hauth⟩, hclosed⟩
        · refine hquiet ?_ fun _ hversion hauth => ?_
          · simp only [record, hsocket, if_true, hnone, closed]
          · exact absurd hcode (not_or.mpr ⟨hversion, hauth⟩)
        · obtain ⟨delay, hretry, hdelay, -⟩ := closed_retry h hsocket now random hversion hauth
          have hretries : (w.step (.close socket code now random stops)).retries = w.retries ++
              [⟨delay, w.requested, if stable now w.readySince then 0 else w.closes, random⟩] := by
            rw [retries_step, hclosed]
            simp only [record, hsocket, if_true, hretry, closed]
          have hentry := right_retry_iff h.requested
            (if stable now w.readySince then 0 else w.closes) random
          rw [← hdelay] at hentry
          rw [Right, hretries, List.forall_mem_append, List.forall_mem_singleton, hentry]
          exact and_congr_right fun _ => ⟨fun hfresh _ _ _ => hfresh,
            fun hfresh => hfresh hsocket hversion hauth⟩
      · refine hquiet ?_ fun hmem => absurd hmem hsocket
        simp only [record, hsocket, if_false]
  | heartbeat random => exact hquiet rfl trivial
  | retry token stops => exact hquiet rfl trivial

@[simp]
theorem step_wired (w : Retrying) (act : Wired.Act) :
    (w.step act).wired = (w.wired.step act).1 := by
  unfold step
  dsimp only
  split
  · rfl
  · rfl

theorem step_same {act : Wired.Act} (h : (w.wired.step act).1.opened = w.wired.opened) :
    w.step act =
      { w.record (w.wired.step act).1.client act with wired := (w.wired.step act).1 } := by
  unfold step
  dsimp only
  rw [if_pos h]

/-- A new connection has been asked nothing. -/
theorem step_new {act : Wired.Act} (h : (w.wired.step act).1.opened ≠ w.wired.opened) :
    w.step act = { w.record (w.wired.step act).1.client act with
      wired := (w.wired.step act).1, requested := false, readySince := none } := by
  unfold step
  dsimp only
  rw [if_neg h]

/-- A client that opens a socket and goes on running. -/
theorem counts_openSocket {wired : Wired} {token : Option Uuid}
    (hrunning : (wired.openSocket token).client.stopped = false) {closes : Nat}
    (hattempt : wired.client.attempt = closes)
    (hready : wired.client.readyAt = none ∨ closes = 0) :
    (wired.openSocket token).opened = wired.opened + 1 ∧
      Counts closes none (wired.openSocket token).client := by
  cases token with
  | none =>
      have hstopped := (@GatewayClient.openSocket_none wired.client wired.opened).2.1
      rw [show (wired.openSocket none).client.stopped = true from hstopped] at hrunning
      cases hrunning
  | some token =>
      refine ⟨rfl, ⟨?_, ?_, fun _ => rfl⟩⟩
      · simpa [Wired.openSocket] using hattempt
      · simpa [Wired.openSocket] using hready

theorem counts_step (h : Inv w) {act : Wired.Act} (hok : w.Fresh act)
    (hrunning : (w.wired.step act).1.client.stopped = false) :
    Counts (w.step act).closes (w.step act).readySince (w.step act).wired.client := by
  -- a connection that stops after its turn is excluded by `hrunning`
  have hstep : (w.wired.step act).1 = (w.wired.handle act).1 := by
    unfold Wired.step at hrunning ⊢
    dsimp only at hrunning ⊢
    split
    · next hstop =>
        rw [if_pos hstop] at hrunning
        cases GatewayClient.stop_stopped.symm.trans hrunning
    · rfl
  have hsame : (w.wired.step act).1 = w.wired → w.record w.wired.client act = w →
      Counts (w.step act).closes (w.step act).readySince (w.step act).wired.client := by
    intro hwired hrecord
    rw [step_same (by rw [hwired]), hwired, hrecord]
    exact h.counts (by rw [← hwired]; exact hrunning)
  cases act with
  | start token stops =>
      have hstart : (w.wired.step (.start token stops)).1 = w.wired.start token := hstep
      rw [Wired.start] at hstart
      by_cases hstopped : w.wired.client.stopped = true
      · rw [if_pos hstopped] at hstart
        rw [hstart] at hrunning
        obtain ⟨hopened, hcounts⟩ := counts_openSocket hrunning rfl (.inr rfl)
        -- a socket is opened, and the request that the old one received is forgotten
        have hnew : (w.wired.step (.start token stops)).1.opened ≠ w.wired.opened := by
          rw [hstart, hopened]
          exact Nat.succ_ne_self _
        rw [step_new hnew, hstart]
        simp only [record, hstopped, if_true]
        exact hcounts
      · rw [if_neg hstopped] at hstart
        exact hsame hstart (if_neg hstopped)
  | stop => exact hsame hstep rfl
  | frame socket frame now token random =>
      by_cases hsocket : socket ∈ w.wired.attached
      · simp only [Wired.handle, hsocket, if_true] at hstep
        rw [step_same (by rw [hstep])]
        simp only [record, hsocket, if_true, hstep]
        refine counts_frame (h.counts (Wired.running_of_attached h.wired hsocket)) w.wired.info now
          token random frame fun hnone => ?_
        rw [h.wired.attached_nil hnone] at hsocket
        cases hsocket
      · simp only [Wired.handle, hsocket, if_false] at hstep
        refine hsame hstep ?_
        simp only [record, hsocket, if_false]
  | close socket code now random stops =>
      by_cases hsocket : socket ∈ w.wired.attached
      · -- a close either stops the client or plans a retry, and the retry counts it
        rcases close_cases h.wired hsocket code now random stops with
          ⟨-, hstopped, -⟩ | ⟨⟨hversion, hauth⟩, hclosed⟩
        · rw [hstopped] at hrunning
          cases hrunning
        · obtain ⟨delay, hretry, -, hcounts⟩ := closed_retry h hsocket now random hversion hauth
          rw [step_same (by rw [hclosed]; rfl), hclosed]
          simp only [record, hsocket, if_true, hretry]
          exact hcounts (Bool.eq_iff_iff.mpr ⟨hok hsocket hversion hauth, h.requested⟩)
      · simp only [Wired.handle, hsocket, if_false] at hstep
        refine hsame hstep ?_
        simp only [record, hsocket, if_false]
  | heartbeat random =>
      simp only [Wired.handle] at hstep
      split at hstep
      · next hbeat =>
          have hbeats := @GatewayClient.beat_same w.wired.client random
          have hready := @GatewayClient.beat_readiness w.wired.client random
          have hcounts := h.counts (by
            rw [← hbeats.stopped]
            rw [hstep] at hrunning
            exact hrunning)
          rw [step_same (by rw [hstep]), hstep]
          refine ⟨hbeats.attempt.trans hcounts.attempt, ?_, fun hnone => ?_⟩
          · rw [hready.readyAt]
            exact hcounts.readyAt
          · exact hcounts.waiting (hbeats.socket.symm.trans hnone)
      · exact hsame hstep rfl
  | retry token stops =>
      have hretry : (w.wired.step (.retry token stops)).1 = w.wired.retry token := hstep
      unfold Wired.retry at hretry
      cases htimer : w.wired.client.retryTimer with
      | none =>
          rw [htimer] at hretry
          exact hsame hretry rfl
      | some delay =>
          have hwaits : w.wired.client.retryTimer ≠ none := by
            rw [htimer]
            exact Option.some_ne_none delay
          -- a client that is stopped has no retry waiting
          have hbefore : w.wired.client.stopped = false := by
            by_contra hstopped
            exact hwaits (h.wired.retry_of_stopped (by simpa using hstopped))
          have hcounts := h.counts hbefore
          have hsince := hcounts.waiting (h.wired.socket_of_retry hwaits)
          rw [htimer] at hretry
          dsimp only at hretry
          rw [if_neg (by simp [hbefore])] at hretry
          rw [hretry] at hrunning
          obtain ⟨hopened, hopens⟩ := counts_openSocket hrunning hcounts.attempt
            (hcounts.readyAt.imp (fun hready => hready.trans hsince) And.right)
          have hnew : (w.wired.step (.retry token stops)).1.opened ≠ w.wired.opened := by
            rw [hretry, hopened]
            exact Nat.succ_ne_self _
          rw [step_new hnew, hretry]
          exact hopens

theorem inv_step (h : Inv w) {act : Wired.Act} (hok : w.Fresh act) : Inv (w.step act) where
  wired := by
    rw [step_wired]
    exact h.wired.step act
  counts hrunning := by
    rw [step_wired] at hrunning
    exact counts_step h hok hrunning
  requested hrequested := by
    rw [step_wired]
    have hrecorded : (w.record (w.wired.step act).1.client act).requested = true := by
      unfold step at hrequested
      dsimp only at hrequested
      split at hrequested
      · exact hrequested
      · cases hrequested
    have hknown := requested_handle h _ act hrecorded
    unfold Wired.step
    dsimp only
    split
    · simpa [Wired.stop, GatewayClient.stop] using hknown
    · exact hknown

/-- Every retry of a run has the right delay exactly if no connection closes on the request
of an earlier one. -/
theorem right_iff (info : ClientInfo) (acts : List Wired.Act) :
    Right (run step (start info) acts) ↔ EachStep step Fresh (start info) acts := by
  have hexact : ∀ w act, (Right w → Inv w) → (Right (w.step act) ↔ Right w ∧ w.Fresh act) := by
    intro w act hinv
    constructor
    · intro hright
      have hbefore : Right w := fun retry hretry => hright retry (retries_kept w act hretry)
      exact (right_step_iff (hinv hbefore) act).mp hright
    · rintro ⟨hright, hok⟩
      exact (right_step_iff (hinv hright) act).mpr ⟨hright, hok⟩
  have hinv : ∀ w act, (Right w → Inv w) → Right (w.step act) → Inv (w.step act) := by
    intro w act hinv hright
    obtain ⟨hbefore, hok⟩ := (hexact w act hinv).mp hright
    exact inv_step (hinv hbefore) hok
  have hstart : Right (start info) := fun retry hretry => by cases hretry
  rw [run_iff_eachStep hinv hexact fun _ => inv_start info]
  exact ⟨And.right, fun h => ⟨hstart, h⟩⟩

private def halfway : Random := ⟨1 / 2, by norm_num, by norm_num⟩

/-- The server asks for a reconnect, the client is stopped before the connection closes, and
the first connection after the next start breaks. -/
def outdatedRequest : List Wired.Act :=
  [.start (some 1) false, .frame 0 (some .reconnect) 10 (some 1) halfway, .stop,
    .start (some 2) false, .close 1 1006 20 halfway false]

/-- It is retried at once. -/
theorem outdated_request_skips_backoff :
    ¬ ∀ acts : List Wired.Act, Right (run step (start ⟨"2.0.0", "linux"⟩) acts) := by
  intro h
  have hretries : (run step (start ⟨"2.0.0", "linux"⟩) outdatedRequest).retries =
      [⟨0, false, 0, halfway⟩] := rfl
  have hright := h outdatedRequest ⟨0, false, 0, halfway⟩
    (by rw [hretries]; exact List.mem_cons_self)
  cases hright.at_once.mp rfl

end Retrying

end Desktop
end Ldktela
