import Ldktela.Gateway.Hub

/-!
# The loop of one socket, and how it ends

`crates/api/src/gateway/mod.rs`: `serve`, `Connection::allow_frame`,
`Connection::handle` and `Connection::authenticate`.

The loop reads; a writer task of its own holds the sending half of the socket.
`turn` is one round of the loop: a timer, a message, or (between two rounds) a
frame that some other task queues for the writer.  A round that ends the loop
decides a close code, and `serve` is everything the socket gets from the first
frame to the last.

The writer is never told the code: it drains its queue and closes the sink, and
closing a sink takes no code.  `sent_carries_no_code` says so for every way the
loop can end.
-/

namespace Ldktela
namespace Gateway
namespace Serve

open Protocol

/-- What the close frame of the socket says: the code and the reason. -/
abbrev CloseReason := UInt16 × String

/-- The libraries that decode what a client sends. -/
structure Codec where
  /-- A JSON value. -/
  Value : Type
  envelope : String → Option (RawClientFrame Value)
  identify : Value → Option Identify
  resume : Value → Option Resume
  /-- The subject of an access token, if the token is good at that instant. -/
  verifyAccess : Timestamp → String → Option String
  parseUuid : String → Option Uuid

/-- A frame on the wire, as the server sends it. -/
inductive WireFrame where
  | hello (hello : Hello)
  | text (frame : OutFrame)
  | close (frame : Option CloseReason)
deriving DecidableEq

/-- What the WebSocket library sends when the sending half of a socket is closed.
The call takes no argument, so no code of ours is in it. -/
structure SinkClose where
  frames : List WireFrame
  codeless : ∀ reason, .close (some reason) ∉ frames

/-- An empty close frame. -/
def SinkClose.plain : SinkClose where
  frames := [.close none]
  codeless := by simp

/-- What the hub makes of a handshake: the session an `IDENTIFY` creates and its
`READY`, and the frames a `RESUME` sends if the session can be resumed. -/
structure HubAnswer where
  sessionId : Uuid
  ready : OutFrame
  resumed : Option (List OutFrame)

structure Connection where
  session : Option Uuid
  /-- Sliding window for the frame rate limit. -/
  windowStarted : Timestamp
  framesInWindow : Nat

namespace Connection

/-- Counts a frame, and says whether it is within the limit. -/
def allowFrame (now : Timestamp) (conn : Connection) : Connection × Bool :=
  let conn :=
    if Limits.frameWindowMs < now - conn.windowStarted then
      { conn with windowStarted := now, framesInWindow := 0 }
    else
      conn
  let conn := { conn with framesInWindow := conn.framesInWindow + 1 }
  (conn, conn.framesInWindow ≤ Limits.maxFramesPerWindow)

end Connection

/-! ## The client's version -/

/-- `str::parse::<u32>` on digits. -/
def parseU32 (digits : List Char) : Option Nat :=
  if digits.isEmpty || !digits.all Char.isDigit then
    none
  else
    let value := digits.foldl (fun n c => 10 * n + (c.toNat - '0'.toNat)) 0
    if value < 4294967296 then some value else none

/-- `major.minor` or `major.minor.patch`, without the suffix of a prerelease or a
build. -/
def parseVersion (raw : String) : Option (Nat × Nat × Nat) :=
  let core := raw.toList.takeWhile fun c => c ≠ '-' && c ≠ '+'
  match core.splitOn '.' with
  | [major, minor] => do
      let major ← parseU32 major
      let minor ← parseU32 minor
      return (major, minor, 0)
  | [major, minor, patch] => do
      let major ← parseU32 major
      let minor ← parseU32 minor
      let patch ← parseU32 patch
      return (major, minor, patch)
  | _ => none

/-- The oldest client build the server still talks to. -/
def minClientVersion : Nat × Nat × Nat := (2, 0, 0)

/-- The order of tuples. -/
def versionLe (v w : Nat × Nat × Nat) : Bool :=
  v.1 < w.1 || v.1 = w.1 && (v.2.1 < w.2.1 || v.2.1 = w.2.1 && v.2.2 ≤ w.2.2)

/-- Anything unparseable is treated as too old. -/
def checkClientVersion (client : ClientInfo) : Except CloseReason Unit :=
  match parseVersion client.version with
  | some version =>
      if versionLe minClientVersion version then .ok ()
      else .error (CloseCode.versionTooOld, "client too old")
  | none => .error (CloseCode.versionTooOld, "client too old")

/-! ## One frame -/

variable (codec : Codec)

def authenticate (now : Timestamp) (presented : String) : Except CloseReason Uuid :=
  match codec.verifyAccess now presented with
  | none => .error (CloseCode.authenticationFailed, "invalid token")
  | some sub =>
      match codec.parseUuid sub with
      | none => .error (CloseCode.authenticationFailed, "invalid subject")
      | some userId => .ok userId

/-- The payload of a frame, parsed. -/
def parse {α : Type} (decode : codec.Value → Option α) (data : Option codec.Value) :
    Except CloseReason α :=
  match data with
  | none => .error (CloseCode.decodeError, "missing payload")
  | some data =>
      match decode data with
      | none => .error (CloseCode.decodeError, "invalid payload")
      | some payload => .ok payload

/-- What a text frame does to the connection, and what it queues for the writer.
Every frame that is accepted counts as a sign of life. -/
def handle (now : Timestamp) (hub : HubAnswer) (text : String) (conn : Connection) :
    Except CloseReason (Connection × List OutFrame) :=
  match codec.envelope text with
  | none => .error (CloseCode.decodeError, "malformed envelope")
  | some frame =>
      if frame.op = Opcode.heartbeat then
        .ok (conn, [.control Opcode.heartbeatAck])
      else if frame.op = Opcode.identify then
        if conn.session.isSome then
          .error (CloseCode.decodeError, "already identified")
        else do
          let payload ← parse codec codec.identify frame.d
          checkClientVersion payload.client
          let _ ← authenticate codec now payload.token
          return ({ conn with session := some hub.sessionId }, [hub.ready])
      else if frame.op = Opcode.resume then
        if conn.session.isSome then
          .error (CloseCode.decodeError, "already identified")
        else do
          let payload ← parse codec codec.resume frame.d
          let _ ← authenticate codec now payload.token
          match hub.resumed with
          | none => return (conn, [.invalidSession false])
          | some frames => return ({ conn with session := some payload.sessionId }, frames)
      else
        -- server-to-client opcodes are not valid from a client
        .error (CloseCode.decodeError, "unexpected opcode")

/-! ## The loop -/

/-- What can wake the loop up, or happen between two of its rounds. -/
inductive Wake where
  | identifyDeadline
  | heartbeatCheck
  /-- The peer is gone. -/
  | ended
  /-- The socket reports an error, such as a frame over the size cap. -/
  | failed
  | text (text : String) (hub : HubAnswer)
  | binary
  | closed
  | ping
  | pong
  /-- Another task queues a frame for the writer. -/
  | queued (frame : OutFrame)

/-- The variables of the loop, and the writer's queue. -/
structure LoopState where
  conn : Connection
  started : Timestamp
  lastHeartbeat : Timestamp
  queue : List OutFrame

/-- One round.  An error ends the loop, with the close reason if there is one. -/
def turn (config : GatewayConfig) (s : LoopState) (now : Timestamp) :
    Wake → Except (Option CloseReason) LoopState
  | .identifyDeadline =>
      if s.conn.session.isNone ∧ s.started + Limits.identifyTimeoutMs ≤ now then
        .error (some (CloseCode.notAuthenticated, "identify timeout"))
      else
        .ok s
  | .heartbeatCheck =>
      -- two missed heartbeats and the connection is a zombie
      if s.conn.session.isSome ∧ config.heartbeatIntervalMs * 2 < now - s.lastHeartbeat then
        .error (some (CloseCode.unknown, "heartbeat timeout"))
      else
        .ok s
  | .ended => .error none
  | .failed => .error (some (CloseCode.decodeError, "frame too large"))
  | .text text hub =>
      if Limits.maxFrameBytes < text.utf8ByteSize then
        .error (some (CloseCode.decodeError, "frame too large"))
      else
        match s.conn.allowFrame now with
        | (_, false) => .error (some (CloseCode.rateLimited, "too many frames"))
        | (conn, true) =>
            match handle codec now hub text conn with
            | .error reason => .error (some reason)
            | .ok (conn, frames) =>
                .ok { s with conn := conn, lastHeartbeat := now, queue := s.queue ++ frames }
  | .binary => .error (some (CloseCode.decodeError, "binary frame"))
  | .closed => .error none
  | .ping => .ok s
  | .pong => .ok s
  | .queued frame => .ok { s with queue := s.queue ++ [frame] }

/-- The rounds of the loop until one ends it; `none` while it runs. -/
def loop (config : GatewayConfig) :
    LoopState → List (Timestamp × Wake) → Option (LoopState × Option CloseReason)
  | _, [] => none
  | s, (now, wake) :: rounds =>
      match turn codec config s now wake with
      | .error reason => some (s, reason)
      | .ok s => loop config s rounds

/-- The writer task: the queue, up to the first frame the socket does not take,
and then the sink is closed. -/
def writer (sink : SinkClose) (accepted : Nat) (queue : List OutFrame) : List WireFrame :=
  (queue.take accepted).map .text ++ sink.frames

/-- What becomes of one socket besides what its client sends. -/
structure Socket where
  requestedVersion : UInt8
  accepted : Timestamp
  /-- The socket takes the first frame. -/
  takesHello : Bool
  /-- Frames the socket takes from the writer before a send fails. -/
  takes : Nat
  /-- Frames queued after the loop has ended and before the session lets go. -/
  trailing : List OutFrame

/-- How a socket ended: what the loop decided, and all that was sent. -/
structure Served where
  closeReason : Option CloseReason
  sent : List WireFrame

def serve (sink : SinkClose) (config : GatewayConfig) (socket : Socket)
    (rounds : List (Timestamp × Wake)) : Option Served :=
  if socket.requestedVersion ≠ gatewayVersion then
    some ⟨none, [.close (some (CloseCode.versionTooOld, "unsupported version"))]⟩
  else if !socket.takesHello then
    some ⟨none, []⟩
  else
    let conn : Connection := ⟨none, socket.accepted, 0⟩
    (loop codec config ⟨conn, socket.accepted, socket.accepted, []⟩ rounds).map
      fun (s, reason) =>
        { closeReason := reason
          sent := .hello ⟨config.heartbeatIntervalMs, config.sessionTtlMs⟩ ::
            writer sink socket.takes (s.queue ++ socket.trailing) }

/-! ## The codes the loop can decide -/

/-- A step that fails with one of these codes, if at all. -/
def FailsWith {α : Type} (codes : List UInt16) (x : Except CloseReason α) : Prop :=
  ∀ reason, x = .error reason → reason.1 ∈ codes

section FailsWith

variable {codec} {α β : Type} {codes : List UInt16} {now : Timestamp}

theorem failsWith_ok (a : α) : FailsWith codes (.ok a) := by
  intro reason h
  cases h

theorem failsWith_error {reason : CloseReason} (h : reason.1 ∈ codes) :
    FailsWith codes (.error reason : Except CloseReason α) := by
  intro reason' heq
  cases heq
  exact h

theorem failsWith_bind {x : Except CloseReason α} {f : α → Except CloseReason β}
    (hx : FailsWith codes x) (hf : ∀ a, FailsWith codes (f a)) : FailsWith codes (x >>= f) := by
  intro reason h
  cases x with
  | error e =>
      obtain rfl : e = reason := Except.error.inj h
      exact hx e rfl
  | ok a => exact hf a reason h

theorem parse_fails (decode : codec.Value → Option α) (data : Option codec.Value) :
    FailsWith [CloseCode.decodeError] (parse codec decode data) := by
  unfold parse
  split
  · exact failsWith_error (by simp)
  · split
    · exact failsWith_error (by simp)
    · exact failsWith_ok _

theorem checkClientVersion_fails (client : ClientInfo) :
    FailsWith [CloseCode.versionTooOld] (checkClientVersion client) := by
  unfold checkClientVersion
  split
  · split
    · exact failsWith_ok _
    · exact failsWith_error (by simp)
  · exact failsWith_error (by simp)

theorem authenticate_fails (presented : String) :
    FailsWith [CloseCode.authenticationFailed] (authenticate codec now presented) := by
  unfold authenticate
  split
  · exact failsWith_error (by simp)
  · split
    · exact failsWith_error (by simp)
    · exact failsWith_ok _

theorem FailsWith.mono {codes' : List UInt16} {x : Except CloseReason α}
    (h : FailsWith codes x) (hsub : codes ⊆ codes') : FailsWith codes' x :=
  fun reason heq => hsub (h reason heq)

/-- The codes a frame can be refused with. -/
def frameCodes : List UInt16 :=
  [CloseCode.decodeError, CloseCode.versionTooOld, CloseCode.authenticationFailed]

theorem handle_fails (hub : HubAnswer) (text : String) (conn : Connection) :
    FailsWith frameCodes (handle codec now hub text conn) := by
  unfold handle
  split
  · exact failsWith_error (by simp [frameCodes])
  · split
    · exact failsWith_ok _
    · split
      · split
        · exact failsWith_error (by simp [frameCodes])
        · -- an IDENTIFY: its payload, its version, its token
          refine failsWith_bind ((parse_fails _ _).mono (by simp [frameCodes])) fun payload => ?_
          refine failsWith_bind ((checkClientVersion_fails _).mono (by simp [frameCodes]))
            fun _ => ?_
          refine failsWith_bind ((authenticate_fails _).mono (by simp [frameCodes])) fun _ => ?_
          exact failsWith_ok _
      · split
        · split
          · exact failsWith_error (by simp [frameCodes])
          · -- a RESUME: its payload, its token
            refine failsWith_bind ((parse_fails _ _).mono (by simp [frameCodes])) fun payload => ?_
            refine failsWith_bind ((authenticate_fails _).mono (by simp [frameCodes])) fun _ => ?_
            split
            · exact failsWith_ok _
            · exact failsWith_ok _
        · exact failsWith_error (by simp [frameCodes])

end FailsWith

/-- The codes the loop can end with. -/
def loopCodes : List UInt16 :=
  [CloseCode.unknown, CloseCode.authenticationFailed, CloseCode.decodeError,
    CloseCode.notAuthenticated, CloseCode.rateLimited, CloseCode.versionTooOld]

theorem turn_fails {config : GatewayConfig} {s : LoopState} {now : Timestamp} {wake : Wake}
    {reason : CloseReason} (h : turn codec config s now wake = .error (some reason)) :
    reason.1 ∈ loopCodes := by
  cases wake with
  | identifyDeadline =>
      simp only [turn] at h
      split at h
      · cases h; simp [loopCodes]
      · cases h
  | heartbeatCheck =>
      simp only [turn] at h
      split at h
      · cases h; simp [loopCodes]
      · cases h
  | ended => cases h
  | failed => cases h; simp [loopCodes]
  | text text hub =>
      simp only [turn] at h
      split at h
      · cases h; simp [loopCodes]
      · split at h
        · cases h; simp [loopCodes]
        · split at h
          · next e hhandle =>
              cases h
              have hsub : frameCodes ⊆ loopCodes := by decide
              exact hsub (handle_fails hub text _ reason hhandle)
          · cases h
  | binary => cases h; simp [loopCodes]
  | closed => cases h
  | ping => cases h
  | pong => cases h
  | queued frame => cases h

/-! ## What the socket gets -/

variable {codec} {sink : SinkClose} {config : GatewayConfig} {socket : Socket}
  {rounds : List (Timestamp × Wake)} {served : Served}

/-- The writer sends no code. -/
theorem writer_codeless (accepted : Nat) (queue : List OutFrame) (reason : CloseReason) :
    .close (some reason) ∉ writer sink accepted queue := by
  intro hmem
  rcases List.mem_append.mp hmem with htext | hclose
  · obtain ⟨frame, -, heq⟩ := List.mem_map.mp htext
    cases heq
  · exact sink.codeless reason hclose

/-- Once the loop has decided a close reason, no frame the socket gets carries a
code. -/
theorem sent_codeless (hserved : serve codec sink config socket rounds = some served)
    (hdecided : served.closeReason.isSome = true) (reason : CloseReason) :
    .close (some reason) ∉ served.sent := by
  unfold serve at hserved
  split at hserved
  · -- refused before the loop
    obtain rfl := Option.some.inj hserved
    cases hdecided
  · split at hserved
    · obtain rfl := Option.some.inj hserved
      cases hdecided
    · obtain ⟨⟨s, decided⟩, -, rfl⟩ := Option.map_eq_some_iff.mp hserved
      intro hmem
      rcases List.mem_cons.mp hmem with heq | hwritten
      · cases heq
      · exact writer_codeless _ _ reason hwritten

/-- What the loop ends with is one of these codes. -/
theorem loop_code {s : LoopState} {decided : LoopState × Option CloseReason}
    (h : loop codec config s rounds = some decided) {reason : CloseReason}
    (hreason : decided.2 = some reason) : reason.1 ∈ loopCodes := by
  induction rounds generalizing s with
  | nil => cases h
  | cons round rounds ih =>
      obtain ⟨now, wake⟩ := round
      rw [loop] at h
      split at h
      · next stopped hturn =>
          obtain rfl := Option.some.inj h
          obtain rfl : stopped = some reason := hreason
          exact turn_fails codec hturn
      · next next hturn => exact ih h

theorem closeReason_code (hserved : serve codec sink config socket rounds = some served)
    {reason : CloseReason} (hdecided : served.closeReason = some reason) :
    reason.1 ∈ loopCodes := by
  unfold serve at hserved
  split at hserved
  · obtain rfl := Option.some.inj hserved
    cases hdecided
  · split at hserved
    · obtain rfl := Option.some.inj hserved
      cases hdecided
    · obtain ⟨decided, hloop, rfl⟩ := Option.map_eq_some_iff.mp hserved
      exact loop_code hloop hdecided

/-- The close frame that ends the socket carries the code. -/
def ClosesWith (code : UInt16) (sent : List WireFrame) : Prop :=
  ∃ reason, sent.getLast? = some (.close (some (code, reason)))

/-- Whatever code the loop decides is one of these, and the last frame on the socket does not
carry it. -/
theorem decided_code_is_not_sent (codec : Codec) (sink : SinkClose) (config : GatewayConfig)
    (socket : Socket) (rounds : List (Timestamp × Wake)) (served : Served) (code : UInt16)
    (reason : String) (hserved : serve codec sink config socket rounds = some served)
    (hdecided : served.closeReason = some (code, reason)) :
    code ∈ loopCodes ∧ ¬ ClosesWith code served.sent := by
  constructor
  · exact closeReason_code hserved hdecided
  · rintro ⟨reason', hlast⟩
    have hsome : served.closeReason.isSome = true := by
      rw [hdecided]
      rfl
    exact sent_codeless hserved hsome _ (List.mem_of_getLast? hlast)

/-- A codec for runs in which nothing is decoded. -/
def noCodec : Codec where
  Value := Unit
  envelope _ := none
  identify _ := none
  resume _ := none
  verifyAccess _ _ := none
  parseUuid _ := none

/-- A client that connects, and sends a binary frame. -/
def binaryClient : Option Served :=
  serve noCodec SinkClose.plain ⟨30000, 90000, 500, 4⟩ ⟨1, 0, true, 1, []⟩ [(5, .binary)]

/-- The loop decides on 4002, and the socket is closed without it. -/
theorem binaryClient_gets_no_code :
    binaryClient = some ⟨some (4002, "binary frame"), [.hello ⟨30000, 90000⟩, .close none]⟩ ∧
      ¬ ClosesWith 4002 [.hello ⟨30000, 90000⟩, .close none] :=
  ⟨rfl, (decided_code_is_not_sent noCodec SinkClose.plain ⟨30000, 90000, 500, 4⟩
    ⟨1, 0, true, 1, []⟩ [(5, .binary)]
    ⟨some (4002, "binary frame"), [.hello ⟨30000, 90000⟩, .close none]⟩ 4002 "binary frame" rfl
    rfl).2⟩

/-- So the close code that was decided is not the one the client sees. -/
theorem decided_code_is_lost :
    ¬ ∀ (codec : Codec) (sink : SinkClose) (config : GatewayConfig) (socket : Socket)
        (rounds : List (Timestamp × Wake)) (served : Served) (code : UInt16) (reason : String),
      serve codec sink config socket rounds = some served →
        served.closeReason = some (code, reason) → ClosesWith code served.sent := by
  intro hclaim
  obtain ⟨reason, hlast⟩ := hclaim noCodec SinkClose.plain ⟨30000, 90000, 500, 4⟩
    ⟨1, 0, true, 1, []⟩ [(5, .binary)]
    ⟨some (4002, "binary frame"), [.hello ⟨30000, 90000⟩, .close none]⟩ 4002 "binary frame" rfl rfl
  cases hlast

end Serve
end Gateway
end Ldktela
