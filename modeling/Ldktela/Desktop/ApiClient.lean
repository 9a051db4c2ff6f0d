import Ldktela.Auth.Session

/-!
# The desktop's session against the server

`ApiClient` of `desktop/src/api/client.ts` and the callers of it in
`desktop/src/app/runtime.ts` (`start`, `pair`, `signOut`, `recoverFromAuthFailure`),
with the network between them and the calls of `Auth.Session`.

Every `async` function that waits for something is an `Op`; an act lets one of them
go on, or something happen around them.  A request is on its way until it arrives, and
becomes a call of the server then.  Nothing says that it arrives, in which order
requests do, or that its response does: `networkError` gives an answer up, whatever
the server did or will do.  A secret is identified with its hash.
-/

namespace Ldktela
namespace Desktop
namespace ApiClient

open Protocol
open Db
open Auth (Answer)

/-! ## Requests -/

/-- A request of the client that reaches the session module. -/
inductive Message where
  /-- `POST /auth/refresh`. -/
  | refresh (token : TokenHash)
  /-- `POST /auth/logout`. -/
  | logout (token : TokenHash)
  /-- `POST /auth/pair`, with the account the code stands for. -/
  | pair (userId : Uuid)
deriving DecidableEq

/-- What lies outside the client: its requests on their way, numbered, and the
server, where a call keeps the number of its request. -/
structure Wire where
  transit : Table Nat Message
  server : Auth.World
  next : Nat

/-- A new token pair; the access token is named after the row that was inserted with
it. -/
structure AuthResponse where
  accessToken : Uuid
  refreshToken : TokenHash

namespace Wire

/-- The number of the request is the value of `next` before. -/
def send (message : Message) (wire : Wire) : Wire :=
  { wire with transit := wire.transit.insert wire.next message, next := wire.next + 1 }

/-- What the server answered to a request. -/
def answer (m : Nat) (wire : Wire) : Option Answer :=
  match wire.server.calls.lookup m with
  | some (.done answer) => some answer
  | _ => none

def issued (id : Uuid) (wire : Wire) : Option AuthResponse :=
  (wire.server.db.tokens.lookup id).map fun row => ⟨id, row.tokenHash⟩

variable (ttl : Nat)

/-- A request arrives.  `fresh` is the hash of the secret the server would draw for
it. -/
def arrive (m : Nat) (fresh : TokenHash) (wire : Wire) : Wire :=
  match wire.transit.lookup m with
  | none => wire
  | some message =>
      { wire with
        transit := wire.transit.erase m
        server := wire.server.step ttl <|
          match message with
          | .refresh token => .rotate m token fresh
          | .logout token => .logout m token
          | .pair userId => .issue m userId fresh }

end Wire

/-! ## The client -/

/-- Who waits for a `refreshSession`. -/
inductive Caller where
  | start
  | recoverFromAuthFailure
  /-- `ensureRefreshed`, for all requests that wait for it. -/
  | ensureRefreshed
deriving DecidableEq

/-- A request with `auth: true`. -/
inductive Task where
  /-- Any but the logout. -/
  | plain
  /-- `logout`, with the token it read and the number of its request. -/
  | logout (token : TokenHash) (m : Nat)
deriving DecidableEq

/-- What an `async` function waits for. -/
inductive Op where
  /-- `request`: a response, to the second sending if `retried`. -/
  | request (task : Task) (retried : Bool)
  /-- `request`: the promise of `ensureRefreshed`, by the number of its operation. -/
  | waiting (task : Task) (refresh : Nat)
  /-- `refreshSession`: the response to request `m`. -/
  | refreshing (caller : Caller) (m : Nat)
  /-- `refreshSession`: `onSession`. -/
  | storing (caller : Caller) (auth : TokenHash)
  /-- Nothing: the promise of an `ensureRefreshed` that is settled. -/
  | settled (ok : Bool)
  /-- `pair`: the response to request `m`. -/
  | pairing (m : Nat)
  /-- `pair`: `onSession`. -/
  | storingPair (auth : TokenHash)
  /-- `signOut`: `media.leave`. -/
  | leaving
  /-- `signOut`: `clearRefreshToken`. -/
  | clearing
deriving DecidableEq

structure Client where
  accessToken : Option Uuid
  refreshToken : Option TokenHash
  /-- One refresh in flight at a time, so a burst of 401s produces a single rotation. -/
  refreshing : Option Nat
  started : Bool
  authRetryUsed : Bool
  ops : Table Nat Op
  /-- The number of the next operation. -/
  nextOp : Nat
  /-- The credential vault, which outlives the process. -/
  vault : Option TokenHash

structure World where
  client : Client
  wire : Wire

/-- How a `refreshSession` ended. -/
inductive Outcome where
  | ok
  | networkError
  /-- An `ApiError`, or `onSession` failed. -/
  | error
deriving DecidableEq

namespace Client

/-- A client that was just launched. -/
def launched (vault : Option TokenHash) : Client where
  accessToken := none
  refreshToken := none
  refreshing := none
  started := false
  authRetryUsed := false
  ops := ∅
  nextOp := 0
  vault := vault

def setOp (n : Nat) (op : Op) (c : Client) : Client :=
  { c with ops := c.ops.insert n op }

def endOp (n : Nat) (c : Client) : Client :=
  { c with ops := c.ops.erase n }

/-- Begins an operation under a new number. -/
def spawn (op : Op) (c : Client) : Client :=
  { c.setOp c.nextOp op with nextOp := c.nextOp + 1 }

def forget (c : Client) : Client :=
  { c with accessToken := none, refreshToken := none }

def adopt (auth : AuthResponse) (c : Client) : Client :=
  { c with accessToken := some auth.accessToken, refreshToken := some auth.refreshToken }

/-- Stops the gateway and waits for `media.leave`. -/
def signOut (c : Client) : Client :=
  c.spawn .leaving

/-- `onSessionLost`. -/
def onSessionLost (c : Client) : Client :=
  c.signOut

/-- What the caller of `refreshSession` does when it ends. -/
def refreshed (n : Nat) (caller : Caller) (outcome : Outcome) (c : Client) : Client :=
  match caller, outcome with
  | .ensureRefreshed, .ok => c.setOp n (.settled true)
  | .ensureRefreshed, _ => c.setOp n (.settled false)
  | .start, .error => c.setOp n .leaving
  -- the server being unreachable is not a reason to make the user pair again
  | .start, _ => c.endOp n
  | .recoverFromAuthFailure, .ok => c.endOp n
  | .recoverFromAuthFailure, _ => c.setOp n .leaving

/-- What the caller of `request` does when it ends. -/
def requested (n : Nat) (task : Task) (c : Client) : Client :=
  match task with
  | .plain => c.endOp n
  -- logging out locally matters more than the server acknowledging it
  | .logout .. => c.forget.setOp n .clearing

end Client

namespace World

/-- A step of the client that sends nothing. -/
def locally (f : Client → Client) (w : World) : World :=
  { w with client := f w.client }

/-- `refreshSession`, called by operation `n`. -/
def refreshSession (n : Nat) (caller : Caller) (w : World) : World :=
  match w.client.refreshToken with
  | none => w.locally fun c => c.forget.onSessionLost.refreshed n caller .error
  | some token =>
      { client := w.client.setOp n (.refreshing caller w.wire.next)
        wire := w.wire.send (.refresh token) }

/-- `ensureRefreshed`, awaited by operation `n`. -/
def ensureRefreshed (n : Nat) (task : Task) (w : World) : World :=
  match w.client.refreshing with
  | some r => w.locally (·.setOp n (.waiting task r))
  | none =>
      let r := w.client.nextOp
      (w.locally fun c =>
        { c.setOp n (.waiting task r) with
          refreshing := some r
          nextOp := r + 1 }).refreshSession r .ensureRefreshed

/-- The response of a request with `auth: true`: exactly one refresh, then exactly
one retry. -/
def received (n : Nat) (task : Task) (retried unauthorized : Bool) (w : World) : World :=
  if unauthorized then
    if retried then
      w.locally fun c => c.forget.onSessionLost.requested n task
    else
      w.ensureRefreshed n task
  else
    w.locally (·.requested n task)

/-- The second sending of a request. -/
def resend (n : Nat) (task : Task) (w : World) : World :=
  match task with
  | .plain => w.locally (·.setOp n (.request .plain true))
  | .logout token _ =>
      { client := w.client.setOp n (.request (.logout token w.wire.next) true)
        wire := w.wire.send (.logout token) }

/-- `logout`, called by operation `n`. -/
def logout (n : Nat) (w : World) : World :=
  match w.client.refreshToken with
  | none => w.locally fun c => c.forget.setOp n .clearing
  | some token =>
      { client := w.client.setOp n (.request (.logout token w.wire.next) false)
        wire := w.wire.send (.logout token) }

/-- A status of 401. -/
def unauthorized : Answer → Bool
  | .unauthorized => true
  | .tokenReused _ => true
  | _ => false

/-- The response of a refresh. -/
def answeredRefresh (n : Nat) (caller : Caller) (answer : Answer) (w : World) : World :=
  match answer with
  | .issued id =>
      match w.wire.issued id with
      | some auth => w.locally fun c => (c.adopt auth).setOp n (.storing caller auth.refreshToken)
      | none => w
  | answer =>
      -- a network blip must not log the user out; a rejected token must
      if unauthorized answer then
        w.locally fun c => c.forget.onSessionLost.refreshed n caller .error
      else
        w.locally (·.refreshed n caller .error)

/-- The response of a pairing. -/
def answeredPair (n : Nat) (answer : Answer) (w : World) : World :=
  match answer with
  | .issued id =>
      match w.wire.issued id with
      | some auth => w.locally fun c => (c.adopt auth).setOp n (.storingPair auth.refreshToken)
      | none => w
  | _ => w.locally (·.endOp n)

end World

/-! ## Acts -/

inductive ClientAct where
  | start
  | pair (userId : Uuid)
  | signOut
  /-- Some authenticated request. -/
  | request
  /-- `READY`. -/
  | gatewayReady
  /-- The gateway was closed with 4001. -/
  | gatewayAuthFailure
  /-- The response of a plain request. -/
  | replied (n : Nat) (unauthorized : Bool)
  /-- The response of a request the session module answered. -/
  | answered (n : Nat)
  /-- The request or its response is lost. -/
  | networkError (n : Nat)
  /-- A request goes on after `ensureRefreshed`. -/
  | resumed (n : Nat)
  /-- The `finally` of `ensureRefreshed`. -/
  | finalized (n : Nat)
  /-- `onSession` ends. -/
  | stored (n : Nat) (ok : Bool)
  /-- `media.leave` ends. -/
  | left (n : Nat)
  /-- `clearRefreshToken` ends. -/
  | cleared (n : Nat)
  /-- The process ends, and the application is launched again. -/
  | relaunched

inductive Act where
  | client (a : ClientAct)
  | arrive (m : Nat) (fresh : TokenHash)
  /-- The next statement of a call of the server. -/
  | serve (m : Nat)
  /-- The next statement of a call of the server fails. -/
  | fail (m : Nat)
  | tick (ms : Nat)

namespace World

def clientStep (w : World) : ClientAct → World
  | .start =>
      if w.client.started then
        w
      else
        match w.client.vault with
        | none => w.locally fun c => { c with started := true }
        | some stored =>
            -- seeds the token read from the vault
            (w.locally fun c =>
              { c with
                started := true
                refreshToken := some stored
                nextOp := c.nextOp + 1 }).refreshSession w.client.nextOp .start
  | .pair userId =>
      { client := w.client.spawn (.pairing w.wire.next)
        wire := w.wire.send (.pair userId) }
  | .signOut => w.locally (·.signOut)
  | .request => w.locally (·.spawn (.request .plain false))
  | .gatewayReady => w.locally fun c => { c with authRetryUsed := false }
  | .gatewayAuthFailure =>
      if w.client.authRetryUsed ∨ w.client.refreshToken.isNone then
        w.locally (·.signOut)
      else
        (w.locally fun c => { c with authRetryUsed := true, nextOp := c.nextOp + 1 }).refreshSession
          w.client.nextOp .recoverFromAuthFailure
  | .replied n unauthorized =>
      match w.client.ops.lookup n with
      | some (.request .plain retried) => w.received n .plain retried unauthorized
      | _ => w
  | .answered n =>
      match w.client.ops.lookup n with
      | some (.request (.logout token m) retried) =>
          match w.wire.answer m with
          | some answer => w.received n (.logout token m) retried (unauthorized answer)
          | none => w
      | some (.refreshing caller m) =>
          match w.wire.answer m with
          | some answer => w.answeredRefresh n caller answer
          | none => w
      | some (.pairing m) =>
          match w.wire.answer m with
          | some answer => w.answeredPair n answer
          | none => w
      | _ => w
  | .networkError n =>
      match w.client.ops.lookup n with
      | some (.request task _) => w.locally (·.requested n task)
      | some (.refreshing caller _) => w.locally (·.refreshed n caller .networkError)
      | some (.pairing _) => w.locally (·.endOp n)
      | _ => w
  | .resumed n =>
      match w.client.ops.lookup n with
      | some (.waiting task r) =>
          match w.client.ops.lookup r with
          | some (.settled true) => w.resend n task
          | some (.settled false) => w.locally (·.requested n task)
          | _ => w
      | _ => w
  | .finalized r =>
      match w.client.ops.lookup r with
      | some (.settled _) =>
          if w.client.refreshing = some r then
            w.locally fun c => { c with refreshing := none }
          else
            w
      | _ => w
  | .stored n ok =>
      match w.client.ops.lookup n with
      | some (.storing caller token) =>
          if ok then
            w.locally fun c => { c.refreshed n caller .ok with vault := some token }
          else
            w.locally (·.refreshed n caller .error)
      | some (.storingPair token) =>
          if ok then
            w.locally fun c => { c.endOp n with vault := some token, authRetryUsed := false }
          else
            w.locally (·.endOp n)
      | _ => w
  | .left n =>
      match w.client.ops.lookup n with
      | some .leaving => w.logout n
      | _ => w
  | .cleared n =>
      match w.client.ops.lookup n with
      | some .clearing => w.locally fun c => { c.endOp n with vault := none }
      | _ => w
  | .relaunched => w.locally fun c => .launched c.vault

variable (ttl : Nat)

def step (w : World) : Act → World
  | .client a => w.clientStep a
  | .arrive m fresh => { w with wire := w.wire.arrive ttl m fresh }
  | .serve m => { w with wire := { w.wire with server := w.wire.server.step ttl (.advance m) } }
  | .fail m => { w with wire := { w.wire with server := w.wire.server.step ttl (.fail m) } }
  | .tick ms => { w with wire := { w.wire with server := w.wire.server.step ttl (.tick ms) } }

/-- A client that was never paired, before a server with these users. -/
def init (users : List Uuid) : World where
  client := .launched none
  wire := ⟨∅, .init users, 0⟩

end World

end ApiClient
end Desktop
end Ldktela
