import Ldktela.Desktop.ApiClient
import Ldktela.Desktop.GatewayClient

/-!
# The session of the desktop

`desktop/src/app/runtime.ts`: `start`, `pair`, `signOut` and `recoverFromAuthFailure`
between `ApiClient`, `GatewayClient`, the vault and the phase of the session store.

The state puts the client of `Desktop.ApiClient`, before its server, beside the gateway
client and the phase.  `ApiClient` already says where `signOut` is called; here its first
statement stops the gateway.  What `GatewayClient` calls back, it calls back at once.
-/

namespace Ldktela
namespace Desktop

open Protocol
open ApiClient (ClientAct Op)

/-- A token is being stored. -/
def ApiClient.Op.stores : Op → Bool
  | .storing _ _ => true
  | .storingPair _ => true
  | _ => false

inductive AuthPhase where
  | booting
  | pairing
  | authenticated
  | updateRequired
deriving DecidableEq

structure Runtime where
  world : ApiClient.World
  gateway : GatewayClient
  phase : AuthPhase
  /-- The sockets opened so far; they are named after their number. -/
  sockets : Nat

namespace Runtime

/-- The application, just launched. -/
def launched (world : ApiClient.World) : Runtime where
  world := { world with client := .launched world.client.vault }
  gateway := .idle
  phase := .booting
  sockets := 0

/-- What operation `n` waits for. -/
def op (n : Nat) (r : Runtime) : Option Op :=
  r.world.client.ops.lookup n

/-- Between two states of the client `signOut` was called: somebody has begun to leave. -/
def signsOut (before after : ApiClient.Client) : Bool :=
  after.ops.entries.any fun e => e.2 = .leaving && before.ops.lookup e.1 ≠ some .leaving

/-- A step of `ApiClient` and of the functions that wait for it. -/
def advance (a : ClientAct) (r : Runtime) : Runtime :=
  let world := r.world.clientStep a
  { r with
    world := world
    gateway := if signsOut r.world.client world.client then r.gateway.stop else r.gateway }

def setPhase (phase : AuthPhase) (r : Runtime) : Runtime :=
  { r with phase := phase }

def signedIn (r : Runtime) : Runtime :=
  r.setPhase .authenticated

def signedOut (r : Runtime) : Runtime :=
  r.setPhase .pairing

def recoverFromAuthFailure (r : Runtime) : Runtime :=
  r.advance .gatewayAuthFailure

def onFatal (reason : GatewayFatal) (r : Runtime) : Runtime :=
  match reason with
  | .outdatedClient => r.setPhase .updateRequired
  | .auth => r.recoverFromAuthFailure

/-- A call of the gateway client, and what it calls back. -/
def gatewayCall (f : GatewayClient → GatewayClient) (r : Runtime) : Runtime :=
  let gateway := f { r.gateway with fatals := [] }
  let r := { r with gateway := gateway, sockets := r.sockets + 1 }
  match gateway.fatals with
  | [] => r
  | reason :: _ => r.onFatal reason

def gatewayStart (r : Runtime) : Runtime :=
  r.gatewayCall (·.start r.world.client.accessToken r.sockets)

/-! ## Acts -/

inductive Act where
  | world (a : ApiClient.Act)
  /-- `clearRefreshToken` fails. -/
  | clearFailed (n : Nat)
  /-- The socket brings `READY`. -/
  | ready (seq : Nat) (sessionId : Uuid) (heartbeatIntervalMs now : Nat)
  /-- The socket closes; `backoff` is the jittered delay of the next attempt. -/
  | closed (now : Nat) (code : UInt16) (backoff : Nat)
  /-- The retry timer of the gateway fires. -/
  | retry

/-- `onSession` has stored the token: the statements after `refreshSession` and `api.pair`. -/
def stored (n : Nat) (r : Runtime) : Runtime :=
  match r.op n with
  | some (.storing .start _) => (r.advance (.stored n true)).signedIn.gatewayStart
  | some (.storing .recoverFromAuthFailure _) => (r.advance (.stored n true)).gatewayStart
  | some (.storingPair _) => (r.advance (.stored n true)).signedIn.gatewayStart
  | _ => r.advance (.stored n true)

def networkError (n : Nat) (r : Runtime) : Runtime :=
  match r.op n with
  | some (.refreshing .start _) =>
      -- the server being unreachable is not a reason to make the user pair again
      ((r.advance (.networkError n)).setPhase .authenticated).gatewayStart
  | _ => r.advance (.networkError n)

def cleared (n : Nat) (r : Runtime) : Runtime :=
  match r.op n with
  | some .clearing => (r.advance (.cleared n)).signedOut
  | _ => r

def clearFailed (n : Nat) (r : Runtime) : Runtime :=
  match r.op n with
  | some .clearing => { r with world := r.world.locally (·.endOp n) }.signedOut
  | _ => r

def start (r : Runtime) : Runtime :=
  if r.world.client.started then
    r
  else
    match r.world.client.vault with
    | none => (r.advance .start).setPhase .pairing
    | some _ => r.advance .start

def client (a : ClientAct) (r : Runtime) : Runtime :=
  match a with
  | .start => r.start
  | .stored n true => r.stored n
  | .networkError n => r.networkError n
  | .cleared n => r.cleared n
  | .relaunched => launched r.world
  -- these two come from the socket
  | .gatewayReady => r
  | .gatewayAuthFailure => r
  | a => r.advance a

/-- The handlers of a socket are gone when it is. -/
def ready (seq : Nat) (sessionId : Uuid) (heartbeatIntervalMs now : Nat) (r : Runtime) :
    Runtime :=
  match r.gateway.socket with
  | none => r
  | some _ =>
      ((r.gatewayCall (·.ready seq sessionId heartbeatIntervalMs now)).advance
        .gatewayReady).signedIn

def closed (now : Nat) (code : UInt16) (backoff : Nat) (r : Runtime) : Runtime :=
  match r.gateway.socket with
  | none => r
  | some _ => r.gatewayCall (·.handleClose now (fun _ => backoff) code)

def retry (r : Runtime) : Runtime :=
  r.gatewayCall (·.retry r.world.client.accessToken r.sockets)

variable (ttl : Nat)

def step (r : Runtime) : Act → Runtime
  | .world (.client a) => r.client a
  | .world a => { r with world := r.world.step ttl a }
  | .clearFailed n => r.clearFailed n
  | .ready seq sessionId heartbeatIntervalMs now => r.ready seq sessionId heartbeatIntervalMs now
  | .closed now code backoff => r.closed now code backoff
  | .retry => r.retry

/-! ## What a call of the gateway client does -/

section

variable {r : Runtime} {f : GatewayClient → GatewayClient}

theorem gatewayCall_quiet (h : (f { r.gateway with fatals := [] }).fatals = []) :
    r.gatewayCall f =
      { r with gateway := f { r.gateway with fatals := [] }, sockets := r.sockets + 1 } := by
  rw [gatewayCall, h]

theorem gatewayCall_fatal (reason : GatewayFatal)
    (h : (f { r.gateway with fatals := [] }).fatals = [reason]) :
    r.gatewayCall f =
      ({ r with
        gateway := f { r.gateway with fatals := [] }
        sockets := r.sockets + 1 } : Runtime).onFatal reason := by
  rw [gatewayCall, h]

/-- A connection is there, or is opened. -/
theorem gatewayStart_of_token (h : r.world.client.accessToken ≠ none) :
    ∃ gateway : GatewayClient, gateway.stopped = false ∧
      r.gatewayStart = { r with gateway := gateway, sockets := r.sockets + 1 } := by
  obtain ⟨token, htoken⟩ := Option.ne_none_iff_exists'.mp h
  cases hstopped : r.gateway.stopped with
  | false =>
      have hstart := GatewayClient.start_of_running (c := { r.gateway with fatals := [] })
        (some token) r.sockets hstopped
      refine ⟨{ r.gateway with fatals := [] }, hstopped, ?_⟩
      rw [gatewayStart, gatewayCall_quiet]
      · rw [htoken, hstart]
      · rw [htoken, hstart]
  | true =>
      have hstart := GatewayClient.start_of_stopped (c := { r.gateway with fatals := [] })
        (some token) r.sockets hstopped
      obtain ⟨hfatals, hrunning⟩ := GatewayClient.openSocket_some (c :=
        { r.gateway with stopped := false, attempt := 0, fatals := [] }) token r.sockets
      refine ⟨_, hrunning, ?_⟩
      rw [gatewayStart, gatewayCall_quiet]
      · rw [htoken, hstart]
      · rw [htoken, hstart]
        exact hfatals

/-- Without an access token a client that is stopped stays so, and the authentication is to
be recovered. -/
theorem gatewayStart_of_no_token (h : r.world.client.accessToken = none)
    (hstopped : r.gateway.stopped = true) :
    ∃ gateway : GatewayClient, gateway.stopped = true ∧
      gateway.socket = r.gateway.socket ∧ gateway.retryTimer = r.gateway.retryTimer ∧
      r.gatewayStart =
        ({ r with gateway := gateway, sockets := r.sockets + 1 } :
          Runtime).recoverFromAuthFailure := by
  have hstart := GatewayClient.start_of_stopped (c := { r.gateway with fatals := [] })
    none r.sockets hstopped
  obtain ⟨hfatals, hstays, hsocket, htimer⟩ := GatewayClient.openSocket_none (c :=
    { r.gateway with stopped := false, attempt := 0, fatals := [] }) r.sockets
  refine ⟨_, hstays, hsocket, htimer, ?_⟩
  rw [gatewayStart, gatewayCall_fatal .auth]
  · rw [h, hstart]
    rfl
  · rw [h, hstart]
    exact hfatals

end

end Runtime
end Desktop
end Ldktela
