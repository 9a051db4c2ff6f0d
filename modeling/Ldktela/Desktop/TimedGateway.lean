import Ldktela.Desktop.Wire
import Ldktela.Lib.Runs

/-!
# The gateway client and the server on one clock

A client with every connection it has opened, each of them one run of `serve`.  A frame on
its way carries the moment it was written; it arrives in order and within `maxDelay`.  Time
passes only as far as no frame is overdue and the heartbeat timer has not fired, and all else
is done at once.
-/

namespace Ldktela
namespace Desktop

open Protocol
open Gateway
open Gateway.Serve

/-- What the client gives a socket. -/
inductive Upstream where
  | frame (frame : ClientFrame)
  | closed
deriving DecidableEq

/-- A socket of the client, and the loop that serves it. -/
structure Link where
  /-- The loop, once the server has accepted the socket. -/
  server : Option LoopState
  /-- How the loop has ended. -/
  ended : Option (Option CloseReason)
  /-- The client has closed the socket: it sends and hears no more frames. -/
  closing : Bool
  /-- Frames on their way, with the moment they were written. -/
  up : List (Timestamp × Upstream)
  down : List (Timestamp × WireFrame)

namespace Link

def opened : Link := ⟨none, none, false, [], []⟩

/-- The server accepts a socket that is still there. -/
def accept (config : GatewayConfig) (now : Timestamp) (link : Link) : Link :=
  if link.server.isNone ∧ link.closing = false then
    { link with
      server := some ⟨⟨none, now, 0⟩, now, now, []⟩
      down := [(now, .hello ⟨config.heartbeatIntervalMs, config.sessionTtlMs⟩)] }
  else
    link

/-- The client writes to the socket. -/
def write (now : Timestamp) (message : Upstream) (link : Link) : Link :=
  if link.closing then
    link
  else
    { link with
      closing := decide (message = .closed)
      up := link.up ++ [(now, message)] }

/-- A round of the loop: the writer sends what it has queued, and closes the socket at
the end. -/
def turned (now : Timestamp) (link : Link) : Except (Option CloseReason) LoopState → Link
  | .error reason =>
      { link with
        ended := some reason
        down := link.down ++ [(now, .close none)] }
  | .ok s =>
      { link with
        server := some { s with queue := [] }
        down := link.down ++ s.queue.map fun frame => (now, .text frame) }

/-- The loop is woken up, if it runs. -/
def wake (codec : Codec) (config : GatewayConfig) (now : Timestamp) (wake : Wake) (link : Link) :
    Link :=
  match link.server, link.ended with
  | some s, none => link.turned now (turn codec config s now wake)
  | _, _ => link

/-- The hub sends a frame to the session, if there is one. -/
def pushed (codec : Codec) (config : GatewayConfig) (now : Timestamp) (frame : OutFrame)
    (link : Link) : Link :=
  if link.server.any fun s => s.conn.session.isSome then
    link.wake codec config now (.queued frame)
  else
    link

/-- What is next on its way to the server arrives. -/
def arrive (wire : Wire) (config : GatewayConfig) (now : Timestamp) (hub : HubAnswer)
    (link : Link) : Link :=
  match link.up with
  | [] => link
  | (_, message) :: rest =>
      { link with up := rest }.wake wire.codec config now <|
        match message with
        | .frame frame => .text (wire.encode frame) hub
        | .closed => .closed

end Link

/-- What `setTimeout` makes of a delay: a signed number of 32 bits, and none if that is
negative. -/
def timerMs (delayMs : Nat) : Nat :=
  if delayMs % 2 ^ 32 < 2 ^ 31 then delayMs % 2 ^ 32 else 0

theorem timerMs_of_lt {delayMs : Nat} (h : delayMs < 2 ^ 31) : timerMs delayMs = delayMs := by
  unfold timerMs
  rw [Nat.mod_eq_of_lt (by omega), if_pos h]

/-- How long a frame may take. -/
def maxDelay (config : GatewayConfig) : Nat :=
  min 2000 (config.heartbeatIntervalMs / 4)

structure Timed where
  clock : Nat
  wired : Wired
  /-- When the heartbeat timer fires, if it is set. -/
  beatAt : Nat
  /-- The client has closed a connection as a zombie. -/
  zombie : Bool
  /-- The sockets of the client, by their number. -/
  links : List Link

namespace Timed

inductive Act where
  | start (token : Uuid)
  | stop
  /-- The retry timer fires. -/
  | retry (token : Uuid)
  /-- The heartbeat timer fires. -/
  | beat (random : Random)
  /-- The server accepts a socket. -/
  | accept (socket : Nat)
  /-- The next message of a socket reaches the server. -/
  | toServer (socket : Nat) (hub : HubAnswer)
  /-- The next message of a socket reaches the client; `code` is what `onclose` says if it
  is the end of the socket. -/
  | toClient (socket : Nat) (token : Uuid) (random : Random) (code : UInt16) (stops : Bool)
  /-- The hub sends a frame to the session. -/
  | push (socket : Nat) (frame : OutFrame)
  /-- Ten seconds have passed. -/
  | identifyDeadline (socket : Nat)
  /-- The ticker of the heartbeat check, whatever its period. -/
  | heartbeatCheck (socket : Nat)
  | advance (ms : Nat)

/-- The client asks something of a socket or of the clock. -/
def perform (w : Timed) : Output → Timed
  | .send socket frame =>
      { w with links := w.links.modify socket (Link.write w.clock (.frame frame)) }
  | .close socket code _ =>
      { w with
        zombie := w.zombie || decide (code = CloseCode.zombied)
        links := w.links.modify socket (Link.write w.clock .closed) }
  | .heartbeatIn delayMs => { w with beatAt := w.clock + timerMs delayMs }
  | .event _ => w

/-- The client does something; a socket it opens is a new link. -/
def drive (act : Wired.Act) (w : Timed) : Timed :=
  let stepped := w.wired.step act
  stepped.2.foldl perform
    { w with
      wired := stepped.1
      links := w.links ++ List.replicate (stepped.1.opened - w.wired.opened) Link.opened }

/-- `stop` closes the socket, if there is one. -/
def stop (w : Timed) : Timed :=
  ((w.wired.client.closeSocket 1000 "client stop").foldl perform w).drive .stop

/-- What is next on its way to the client arrives. -/
def deliver (socket : Nat) (token : Uuid) (random : Random) (code : UInt16) (stops : Bool)
    (link : Link) (w : Timed) : Timed :=
  match link.down with
  | [] => w
  | (_, frame) :: rest =>
      let w := { w with links := w.links.set socket { link with down := rest } }
      match frame with
      | .close _ => w.drive (.close socket code w.clock random stops)
      | .hello _ | .text _ =>
          if link.closing then w
          else w.drive (.frame socket (parseServerFrame frame) w.clock (some token) random)

/-- Every frame on its way is delivered in time, and the heartbeat timer fires in time. -/
def OnTime (config : GatewayConfig) (now : Timestamp) (w : Timed) : Prop :=
  (∀ link ∈ w.links, (∀ message ∈ link.up, now ≤ message.1 + maxDelay config) ∧
    ∀ message ∈ link.down, now ≤ message.1 + maxDelay config) ∧
    (w.wired.client.heartbeatTimer = true → now ≤ w.beatAt)

instance (config : GatewayConfig) (now : Timestamp) (w : Timed) : Decidable (w.OnTime config now) :=
  inferInstanceAs (Decidable ((∀ _ ∈ _, _ ∧ _) ∧ (_ → _)))

/-- What cannot happen changes nothing. -/
def step (wire : Wire) (config : GatewayConfig) (w : Timed) : Act → Timed
  | .start token => w.drive (.start (some token) false)
  | .stop => w.stop
  | .retry token => w.drive (.retry (some token) false)
  | .beat random =>
      if w.wired.client.heartbeatTimer ∧ w.beatAt ≤ w.clock then w.drive (.heartbeat random) else w
  | .accept socket => { w with links := w.links.modify socket (Link.accept config w.clock) }
  | .toServer socket hub =>
      if Answers config hub then
        { w with links := w.links.modify socket (Link.arrive wire config w.clock hub) }
      else
        w
  | .toClient socket token random code stops =>
      match w.links[socket]? with
      | none => w
      | some link => w.deliver socket token random code stops link
  | .push socket frame =>
      if Sent config frame then
        { w with links := w.links.modify socket (Link.pushed wire.codec config w.clock frame) }
      else
        w
  | .identifyDeadline socket =>
      { w with
        links := w.links.modify socket (Link.wake wire.codec config w.clock .identifyDeadline) }
  | .heartbeatCheck socket =>
      { w with
        links := w.links.modify socket (Link.wake wire.codec config w.clock .heartbeatCheck) }
  | .advance ms =>
      if w.OnTime config (w.clock + ms) then { w with clock := w.clock + ms } else w

/-- A client that was never started. -/
def idle (wire : Wire) : Timed := ⟨0, .idle wire.info, 0, false, []⟩

/-- The limits of the gateway. -/
def limits : List CloseReason :=
  [(CloseCode.rateLimited, "too many frames"), (CloseCode.unknown, "heartbeat timeout"),
    (CloseCode.notAuthenticated, "identify timeout")]

/-- No connection was closed for a limit, and none as a zombie. -/
def Spared (w : Timed) : Prop :=
  w.zombie = false ∧ ∀ link ∈ w.links, ∀ reason ∈ limits, link.ended ≠ some (some reason)

instance (w : Timed) : Decidable w.Spared :=
  inferInstanceAs (Decidable (_ ∧ ∀ link ∈ _, ∀ reason ∈ _, _))

end Timed

end Desktop
end Ldktela
