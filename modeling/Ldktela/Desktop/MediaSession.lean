import Ldktela.Api.Permissions
import Ldktela.Desktop.Share

/-!
# The media session of the client, with the core and the server

`desktop/src/media/session.ts`.  JavaScript runs one piece at a time: a call of the
session goes on until it awaits, and then others run.  A call in flight is modelled
by what it awaits: the answer of the token route, the core's start, the word that
the start succeeded, the core's stop, the word that it stopped.

The world is one person's client in one voice channel.  The core runs its commands
one at a time, the server handles the token requests and the webhooks one at a time,
and each of them comes at any later moment, in any order.  Other people claim and
give back slots in between, and the replica the guards ask changes.
-/

namespace Ldktela
namespace Desktop

open Protocol
open Api
open Discord (Replica)

/-- A statement about both sources is decided by looking at each. -/
instance decidableForallSource {p : PublicationSource → Prop} [DecidablePred p] :
    Decidable (∀ source, p source) :=
  decidable_of_iff (p .screen ∧ p .camera)
    ⟨fun h source => match source with
      | .screen => h.1
      | .camera => h.2, fun h => ⟨h .screen, h .camera⟩⟩

/-- What the session and the store know of our own publications.  `sharing` is the
choice that is being shared, `publishing` the flag in the store; only whether there
is a choice matters here. -/
structure MediaSession where
  sharing : Bool
  publishing : Bool
  cameraPublishing : Bool
  rejoinTimer : Bool
deriving DecidableEq

namespace MediaSession

def new : MediaSession := ⟨false, false, false, false⟩

/-- Everything we will have on the air, and not only what is starting. -/
def publishIntent (session : MediaSession) (adding : Option PublicationSource) :
    List PublicationSource :=
  [PublicationSource.screen, PublicationSource.camera].filter fun source =>
    (match source with
      | .screen => session.publishing
      | .camera => session.cameraPublishing) || decide (adding = some source)

/-- One timer at a time; arming it again does nothing. -/
def scheduleRejoin (session : MediaSession) : MediaSession :=
  { session with rejoinTimer := true }

/-- The source went on the air. -/
def started (source : PublicationSource) (session : MediaSession) : MediaSession :=
  match source with
  | .screen => { session with sharing := true, publishing := true }
  | .camera => { session with cameraPublishing := true }

end MediaSession

/-- A call in flight, by what it awaits. -/
inductive Call where
  /-- `connect`: the viewer token. -/
  | connect
  /-- `startShare`, `startCamera`: the publish token for these sources. -/
  | request (source : PublicationSource) (wanted : List PublicationSource)
  /-- The same, with the token: the core's start. -/
  | native (source : PublicationSource)
  /-- The same, on the air: the word from the core. -/
  | told (source : PublicationSource)
  /-- `stopShare`, `stopCamera`: the core's stop; a switch starts again after it. -/
  | stop (source : PublicationSource) (restart : Bool)
  /-- The same, off the air: the word from the core. -/
  | stopped (source : PublicationSource) (restart : Bool)
deriving DecidableEq

namespace Call

/-- What the token request of the call asks for. -/
def wants : Call → Option (List PublicationSource)
  | connect => some []
  | request _ wanted => some wanted
  | native _ => none
  | told _ => none
  | stop _ _ => none
  | stopped _ _ => none

/-- The source that a token lets the call start. -/
def starts : Call → Option PublicationSource
  | connect => none
  | request source _ => some source
  | native _ => none
  | told _ => none
  | stop _ _ => none
  | stopped _ _ => none

/-- What the call goes on to await once it has its token. -/
def granted (call : Call) : List Call :=
  call.starts.toList.map Call.native

end Call

structure World where
  session : MediaSession
  calls : List Call
  core : Live
  /-- Webhooks about our publishing connection that are not handled yet. -/
  hooks : List Hook
  server : ServerState
  replica : Replica

namespace World

/-! ## The calls of the session -/

def startShare (w : World) : World :=
  if w.session.sharing then
    w
  else
    { w with calls := .request .screen (w.session.publishIntent (some .screen)) :: w.calls }

def startCamera (w : World) : World :=
  if w.session.cameraPublishing then
    w
  else
    { w with calls := .request .camera (w.session.publishIntent (some .camera)) :: w.calls }

/-- What a stop of the share does before it awaits the core. -/
def stopSharing (restart : Bool) (w : World) : World :=
  { w with
    session := { w.session with sharing := false, publishing := false }
    calls := .stop .screen restart :: w.calls }

def stopShare (w : World) : World :=
  if w.session.sharing then w.stopSharing false else w

def switchShare (w : World) : World :=
  if w.session.sharing then w.stopSharing true else w.startShare

def stopCamera (w : World) : World :=
  if w.session.cameraPublishing then
    { w with
      session := { w.session with cameraPublishing := false }
      calls := .stop .camera false :: w.calls }
  else
    w

/-- Asks for a viewer token: an empty list. -/
def connect (w : World) : World :=
  { w with calls := .connect :: w.calls }

/-- The timer of `scheduleRejoin` fires. -/
def rejoin (w : World) : World :=
  if w.session.rejoinTimer then
    connect { w with session := { w.session with rejoinTimer := false } }
  else
    w

/-! ## What the calls await -/

/-- The server answers the token request of the call.  Of the calls that fail here,
only `connect` tries again by itself. -/
def answer (channel : Snowflake) (me : Uuid) (now : Timestamp) (call : Call) (w : World) : World :=
  match call.wants with
  | none => w
  | some wanted =>
      let (server, token) := Rooms.token now w.replica me channel wanted w.server
      { w with
        server := server
        session := if token.isOk || call.starts.isSome then w.session
          else w.session.scheduleRejoin
        calls := (if token.isOk then call.granted else []) ++ w.calls.erase call }

/-- The core runs the start of the call. -/
def native (outcome : Outcome) (w : World) : World :=
  let ((core, hooks), succeeded) := startNative outcome w.core
  { w with
    core := core
    hooks := w.hooks ++ hooks
    calls := (if succeeded then [.told outcome.source] else []) ++
      w.calls.erase (.native outcome.source) }

/-- The session hears that the start succeeded. -/
def told (source : PublicationSource) (w : World) : World :=
  { w with
    session := w.session.started source
    calls := w.calls.erase (.told source) }

/-- The core runs the stop of the call. -/
def released (source : PublicationSource) (restart : Bool) (w : World) : World :=
  let (core, hooks) := Live.release source w.core
  { w with
    core := core
    hooks := w.hooks ++ hooks
    calls := .stopped source restart :: w.calls.erase (.stop source restart) }

/-- The session hears that the source is off the air. -/
def stopped (source : PublicationSource) (restart : Bool) (w : World) : World :=
  let w := { w with calls := w.calls.erase (.stopped source restart) }
  if restart then
    match source with
    | .screen => w.startShare
    | .camera => w.startCamera
  else
    w

/-- The server handles a webhook about our publishing connection. -/
def webhook (channel : Snowflake) (me : Uuid) (now : Timestamp) (hook : Hook) (w : World) :
    World :=
  { w with
    hooks := w.hooks.erase hook
    server := Rooms.webhook now w.server (hook.change.emitted channel me) }

/-- Somebody else claims slots of the room, or gives them back. -/
def otherClaims (channel : Snowflake) (other : Uuid) (wanted : List PublicationSource)
    (w : World) : World :=
  { w with
    server := { w.server with
      grants :=
        (Grants.claimPublications w.server.config channel other wanted w.server.grants).1 } }

end World

/-! ## Runs -/

inductive Act where
  | startShare
  | switchShare
  | stopShare
  | startCamera
  | stopCamera
  /-- The viewing connection drops. -/
  | disconnected
  | rejoin
  | answer (now : Timestamp) (call : Call)
  | native (outcome : Outcome)
  | told (source : PublicationSource)
  | released (source : PublicationSource) (restart : Bool)
  | stopped (source : PublicationSource) (restart : Bool)
  | webhook (now : Timestamp) (hook : Hook)
  | otherClaims (other : Uuid) (wanted : List PublicationSource)
  | replica (replica : Replica)

namespace World

/-- One step of the person `me` in the channel.  A step of a call that is not in
flight, or of a webhook that is not pending, changes nothing. -/
def step (channel : Snowflake) (me : Uuid) (w : World) : Act → World
  | .startShare => w.startShare
  | .switchShare => w.switchShare
  | .stopShare => w.stopShare
  | .startCamera => w.startCamera
  | .stopCamera => w.stopCamera
  | .disconnected => { w with session := w.session.scheduleRejoin }
  | .rejoin => w.rejoin
  | .answer now call => if call ∈ w.calls then w.answer channel me now call else w
  | .native outcome =>
      if Call.native outcome.source ∈ w.calls ∧ outcome.possible w.core = true then
        w.native outcome
      else
        w
  | .told source => if Call.told source ∈ w.calls then w.told source else w
  | .released source restart =>
      if Call.stop source restart ∈ w.calls then w.released source restart else w
  | .stopped source restart =>
      if Call.stopped source restart ∈ w.calls then w.stopped source restart else w
  | .webhook now hook => if hook ∈ w.hooks then w.webhook channel me now hook else w
  | .otherClaims other wanted =>
      if other = me then w else w.otherClaims channel other wanted
  | .replica replica => { w with replica := replica }

/-- The session right after `follow`: the first connection is under way. -/
def followed (server : ServerState) (replica : Replica) : World where
  session := MediaSession.new
  calls := [.connect]
  core := ⟨none, false, false, false⟩
  hooks := []
  server := server
  replica := replica

end World

end Desktop
end Ldktela
