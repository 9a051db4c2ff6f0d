import Ldktela.Desktop.GatewayFrames

/-!
# What the gateway client and the server make of each other's frames

`parseServerFrame` of `desktop/src/gateway/protocol.ts` on the frames of
`crates/api/src/gateway/mod.rs`, and what one round of `serve` makes of the three frames a
client sends.  `Wire` is the JSON and the tokens between them: every frame of the client is
read as a frame of its kind, and its tokens are good.
-/

namespace Ldktela
namespace Desktop

open Protocol
open Gateway
open Gateway.Serve

/-! ## From the server -/

/-- `readHello`: the interval has to be positive. -/
def readHello (hello : Hello) : Option ServerFrame :=
  if 0 < hello.heartbeatIntervalMs then some (.hello hello) else none

/-- `parseServerFrame`, of a frame the server has written. -/
def parseServerFrame : WireFrame → Option ServerFrame
  | .hello hello => readHello hello
  | .text (.dispatch frame) => some (.dispatch frame.s frame.event)
  | .text (.invalidSession resumable) => some (.invalidSession resumable)
  | .text (.control op) =>
      if op = Opcode.heartbeatAck then some .heartbeatAck
      else if op = Opcode.reconnect then some .reconnect
      else none
  | .close _ => none

/-- A `READY` announces the interval of the configuration. -/
def Announces (config : GatewayConfig) : DispatchEvent → Prop
  | .ready ready => ready.heartbeatIntervalMs = config.heartbeatIntervalMs
  | _ => True

instance (config : GatewayConfig) (event : DispatchEvent) : Decidable (Announces config event) :=
  match event with
  | .ready ready =>
      inferInstanceAs (Decidable (ready.heartbeatIntervalMs = config.heartbeatIntervalMs))
  | .resumed _ | .roomJoin _ | .roomLeave _ | .roomParticipantAdd _ | .roomParticipantRemove _
  | .shareStart _ | .shareStop _ => .isTrue trivial

/-- What a session is sent: dispatches, and the request to reconnect. -/
def Sent (config : GatewayConfig) : OutFrame → Prop
  | .dispatch frame => Announces config frame.event
  | .control op => op = Opcode.reconnect
  | .invalidSession _ => False

instance (config : GatewayConfig) (frame : OutFrame) : Decidable (Sent config frame) :=
  match frame with
  | .dispatch frame => inferInstanceAs (Decidable (Announces config frame.event))
  | .control op => inferInstanceAs (Decidable (op = Opcode.reconnect))
  | .invalidSession _ => .isFalse id

/-- What the hub makes of a handshake: a `READY`, and the frames a resumed session has
missed. -/
def Answers (config : GatewayConfig) (hub : HubAnswer) : Prop :=
  Sent config hub.ready ∧ ∀ frames ∈ hub.resumed, ∀ frame ∈ frames, Sent config frame

instance (config : GatewayConfig) (hub : HubAnswer) : Decidable (Answers config hub) :=
  inferInstanceAs (Decidable (_ ∧ _))

/-! ## From the client -/

/-- The frames of a client on the wire. -/
structure Wire where
  codec : Codec
  info : ClientInfo
  encode : ClientFrame → String
  fits : ∀ frame, (encode frame).utf8ByteSize ≤ Limits.maxFrameBytes
  heartbeat : ∃ d, codec.envelope (encode .heartbeat) = some ⟨Opcode.heartbeat, d⟩
  identify : ∀ token, ∃ d payload userId,
    codec.envelope (encode (.identify token info)) = some ⟨Opcode.identify, some d⟩ ∧
      codec.identify d = some payload ∧ checkClientVersion payload.client = .ok () ∧
      ∀ now, authenticate codec now payload.token = .ok userId
  resume : ∀ token sessionId lastSeq, ∃ d payload userId,
    codec.envelope (encode (.resume token sessionId lastSeq)) = some ⟨Opcode.resume, some d⟩ ∧
      codec.resume d = some payload ∧ ∀ now, authenticate codec now payload.token = .ok userId

namespace Wire

variable (wire : Wire) {config : GatewayConfig} {s : LoopState} {now : Timestamp} {hub : HubAnswer}

/-- A frame beyond the limit ends the loop. -/
def tooMany : Option CloseReason := some (CloseCode.rateLimited, "too many frames")

theorem turn_text (frame : ClientFrame) :
    turn wire.codec config s now (.text (wire.encode frame) hub) =
      match s.conn.allowFrame now with
      | (_, false) => .error tooMany
      | (conn, true) =>
          match handle wire.codec now hub (wire.encode frame) conn with
          | .error reason => .error (some reason)
          | .ok (conn, frames) =>
              .ok { s with conn := conn, lastHeartbeat := now, queue := s.queue ++ frames } := by
  rw [turn, if_neg (Nat.not_lt.mpr (wire.fits frame))]
  rfl

theorem handle_heartbeat (conn : Serve.Connection) :
    handle wire.codec now hub (wire.encode .heartbeat) conn =
      .ok (conn, [.control Opcode.heartbeatAck]) := by
  obtain ⟨d, henvelope⟩ := wire.heartbeat
  unfold handle
  rw [henvelope]
  rfl

theorem handle_identify (token : Uuid) {conn : Serve.Connection} (hsession : conn.session = none) :
    handle wire.codec now hub (wire.encode (.identify token wire.info)) conn =
      .ok ({ conn with session := some hub.sessionId }, [hub.ready]) := by
  obtain ⟨d, payload, userId, henvelope, hpayload, hversion, htoken⟩ := wire.identify token
  unfold handle
  rw [henvelope]
  simp [hsession, parse, hpayload, hversion, htoken, Opcode.identify, Opcode.heartbeat, bind,
    Except.bind, pure, Except.pure]

theorem handle_resume (token sessionId : Uuid) (lastSeq : Nat) {conn : Serve.Connection}
    (hsession : conn.session = none) :
    ∃ id, handle wire.codec now hub (wire.encode (.resume token sessionId lastSeq)) conn =
      match hub.resumed with
      | none => .ok (conn, [.invalidSession false])
      | some frames => .ok ({ conn with session := some id }, frames) := by
  obtain ⟨d, payload, userId, henvelope, hpayload, htoken⟩ := wire.resume token sessionId lastSeq
  refine ⟨payload.sessionId, ?_⟩
  unfold handle
  rw [henvelope]
  cases hub.resumed with
  | none =>
      simp [hsession, parse, hpayload, htoken, Opcode.resume, Opcode.identify, Opcode.heartbeat,
        bind, Except.bind, pure, Except.pure]
  | some frames =>
      simp [hsession, parse, hpayload, htoken, Opcode.resume, Opcode.identify, Opcode.heartbeat,
        bind, Except.bind, pure, Except.pure]

end Wire

end Desktop
end Ldktela
