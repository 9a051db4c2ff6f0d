import Ldktela.Desktop.Wire
import Ldktela.Gateway.Messages

/-!
# The texts of the gateway

`parseServerFrame` and the encoders of `desktop/src/gateway/protocol.ts` on texts, against the
`serde` side of `Gateway.Messages`.  The client checks the envelope and takes the payload at its
type; `typed` is what the types say.

A number of the client is a double.  Up to `2 ^ 53` it is the integer that was written.
-/

namespace Ldktela
namespace Desktop
namespace FrameText

open Protocol
open Gateway
open Gateway.Serve

/-! ## Numbers of the client -/

/-- The nearest double of an integer, ties to even, while the exponent is in range. -/
def nearestDouble (n : Nat) : Nat :=
  let unit := 2 ^ (n.log2 - 52)
  let quotient := n / unit
  let remainder := n % unit
  if 2 * remainder < unit ∨ 2 * remainder = unit ∧ quotient % 2 = 0 then quotient * unit
  else (quotient + 1) * unit

/-- From here on a double is infinite. -/
def exponentLimit : Nat := 1024

/-- A `number` that was read from an integer. -/
inductive Number where
  | finite (n : Int)
  | infinite
deriving DecidableEq

def Number.ofInt (n : Int) : Number :=
  if nearestDouble n.natAbs < 2 ^ exponentLimit then
    .finite (if n < 0 then -(nearestDouble n.natAbs : Int) else nearestDouble n.natAbs)
  else
    .infinite

/-- `typeof value === 'number'`. -/
def number : Json → Option Number
  | .num n => some (.ofInt n)
  | _ => none

/-- `Number.isFinite(value) && value > 0`. -/
def Number.positive : Number → Option Int
  | .finite n => if 0 < n then some n else none
  | .infinite => none

def isPositiveNumber (v : Json) : Option Int :=
  (number v).bind Number.positive

theorem nearestDouble_of_le {n : Nat} (h : n ≤ 2 ^ 53) : nearestDouble n = n := by
  rcases Nat.lt_or_eq_of_le h with hlt | rfl
  · have hlog : n.log2 - 52 = 0 := by
      rcases Nat.eq_zero_or_pos n with rfl | hpos
      · rfl
      · have := (Nat.log2_lt hpos.ne').mpr hlt
        omega
    simp [nearestDouble, hlog, Nat.mod_one]
  · decide

/-- The integers a double holds one by one. -/
theorem ofInt_natCast {n : Nat} (h : n ≤ 2 ^ 53) : Number.ofInt n = .finite n := by
  have hlimit : 53 < exponentLimit := by decide
  have hsmall : n < 2 ^ exponentLimit :=
    lt_of_le_of_lt h (Nat.pow_lt_pow_right (by decide) hlimit)
  rw [Number.ofInt, Int.natAbs_natCast, nearestDouble_of_le h, if_pos hsmall, if_neg (by omega)]

/-! ## From the server -/

/-- `ServerFrame`, with the payload of a dispatch as it is. -/
inductive Frame where
  | hello (heartbeatIntervalMs sessionTtlMs : Int)
  | dispatch (seq : Number) (name : String) (data : Json)
  | heartbeatAck
  | invalidSession (resumable : Bool)
  | reconnect

def dispatchNames : List String :=
  ["READY", "RESUMED", "ROOM_JOIN", "ROOM_LEAVE", "ROOM_PARTICIPANT_ADD",
    "ROOM_PARTICIPANT_REMOVE", "SHARE_START", "SHARE_STOP"]

/-- An array is an object too. -/
def asRecord : Json → Option Json
  | .obj fields => some (.obj fields)
  | .arr items => some (.arr items)
  | _ => none

def readHello (raw : Option Json) : Option Frame :=
  (raw.bind asRecord).bind fun payload =>
    ((payload.field "heartbeat_interval_ms").bind isPositiveNumber).map fun interval =>
      .hello interval (((payload.field "session_ttl_ms").bind isPositiveNumber).getD 0)

def readDispatch (frame : Json) : Option Frame :=
  ((frame.field "s").bind number).bind fun seq =>
    ((frame.field "t").bind Message.readText).bind fun name =>
      if name ∈ dispatchNames then
        ((frame.field "d").bind asRecord).map fun data => .dispatch seq name data
      else
        none

def isTrue : Json → Bool
  | .bool b => b
  | _ => false

/-- The `switch` on the opcode. -/
def readFrame (frame : Json) (op : Number) : Option Frame :=
  if op = .finite 1 then readHello (frame.field "d")
  else if op = .finite 0 then readDispatch frame
  else if op = .finite 5 then some .heartbeatAck
  else if op = .finite 6 then
    some (.invalidSession (((frame.field "d").bind asRecord).any fun payload =>
      (payload.field "resumable").any isTrue))
  else if op = .finite 7 then some .reconnect
  else none

/-- `none` for anything that is not a frame the client knows how to act on. -/
def parseServerFrame (raw : List Char) : Option Frame :=
  ((Json.parse raw).bind asRecord).bind fun frame =>
    ((frame.field "op").bind number).bind (readFrame frame)

/-! ## The payloads at their types -/

/-- A `number` that counts something. -/
def Number.count : Number → Option Nat
  | .finite n => if 0 ≤ n then some n.toNat else none
  | .infinite => none

def readCount (v : Json) : Option Nat :=
  (number v).bind Number.count

variable (crates : Crates)

def readReady (v : Json) : Option Ready := do
  let sessionId ← (v.field "session_id").bind (Message.readUuid crates)
  let user ← (v.field "user").bind (Message.readCurrentUser crates)
  let room ← match v.field "room" with
    | none => some none
    | some room => (Message.readRoomState crates room).map some
  let interval ← (v.field "heartbeat_interval_ms").bind readCount
  return ⟨sessionId, user, room, interval⟩

/-- The type of a payload, by the tag. -/
def readEvent (name : String) (v : Json) : Option DispatchEvent :=
  if name = "READY" then (readReady crates v).map .ready
  else if name = "RESUMED" then
    ((v.field "replayed").bind readCount).map fun n => .resumed ⟨UInt32.ofNat n⟩
  else if name = "ROOM_JOIN" then (Message.readRoomState crates v).map .roomJoin
  else if name = "ROOM_LEAVE" then do
    let channel ← (v.field "discord_channel_id").bind Message.readSnowflake
    let reason ← (v.field "reason").bind Message.readLeaveReason
    return .roomLeave ⟨channel, reason⟩
  else if name = "ROOM_PARTICIPANT_ADD" then do
    let channel ← (v.field "discord_channel_id").bind Message.readSnowflake
    let participant ← (v.field "participant").bind (Message.readRoomParticipant crates)
    return .roomParticipantAdd ⟨channel, participant⟩
  else if name = "ROOM_PARTICIPANT_REMOVE" then do
    let channel ← (v.field "discord_channel_id").bind Message.readSnowflake
    let userId ← (v.field "user_id").bind (Message.readUuid crates)
    return .roomParticipantRemove ⟨channel, userId⟩
  else if name = "SHARE_START" then do
    let channel ← (v.field "discord_channel_id").bind Message.readSnowflake
    let userId ← (v.field "user_id").bind (Message.readUuid crates)
    let source ← (v.field "source").bind Message.readSource
    let startedAt ← (v.field "started_at").bind (Message.readInstant crates)
    return .shareStart ⟨channel, userId, source, startedAt⟩
  else if name = "SHARE_STOP" then do
    let channel ← (v.field "discord_channel_id").bind Message.readSnowflake
    let userId ← (v.field "user_id").bind (Message.readUuid crates)
    let source ← (v.field "source").bind Message.readSource
    return .shareStop ⟨channel, userId, source⟩
  else none

def typed : Frame → Option ServerFrame
  | .hello interval ttl => some (.hello ⟨interval.toNat, ttl.toNat⟩)
  | .dispatch seq name data => do
      let seq ← seq.count
      let event ← readEvent crates name data
      return .dispatch seq event
  | .heartbeatAck => some .heartbeatAck
  | .invalidSession resumable => some (.invalidSession resumable)
  | .reconnect => some .reconnect

/-! ## What the client makes of a frame -/

/-- The ids of an event are UUIDs, and its numbers are held by a double. -/
def EventOk : DispatchEvent → Prop
  | .ready r =>
      r.sessionId < 2 ^ 128 ∧ r.user.id < 2 ^ 128 ∧ (∀ room ∈ r.room, Message.RoomOk room) ∧
        r.heartbeatIntervalMs ≤ 2 ^ 53
  | .resumed _ => True
  | .roomJoin room => Message.RoomOk room
  | .roomLeave _ => True
  | .roomParticipantAdd add => Message.ParticipantOk add.participant
  | .roomParticipantRemove remove => remove.userId < 2 ^ 128
  | .shareStart start => start.userId < 2 ^ 128
  | .shareStop stop => stop.userId < 2 ^ 128

/-- A frame the server writes, while its numbers are held by a double. -/
def Written : WireFrame → Prop
  | .hello h => h.heartbeatIntervalMs ≤ 2 ^ 53 ∧ h.sessionTtlMs ≤ 2 ^ 53
  | .text (.dispatch frame) =>
      frame.op = Opcode.dispatch ∧ frame.s ≤ 2 ^ 53 ∧ EventOk frame.event
  | .text (.control op) => op ≠ Opcode.invalidSession
  | .text (.invalidSession _) => True
  | .close _ => False

theorem readCount_u64 {n : Nat} (h : n ≤ 2 ^ 53) : readCount (Message.u64 n) = some n := by
  show (some (Number.ofInt n)).bind Number.count = some n
  rw [ofInt_natCast h, Option.bind_some, Number.count, if_pos (Int.natCast_nonneg n),
    Int.toNat_natCast]

theorem isPositiveNumber_u64 {n : Nat} (h : n ≤ 2 ^ 53) :
    isPositiveNumber (Message.u64 n) = if 0 < n then some (n : Int) else none := by
  show (some (Number.ofInt n)).bind Number.positive = _
  rw [ofInt_natCast h, Option.bind_some, Number.positive]
  simp only [Int.natCast_pos]

theorem readReady_ready {r : Ready} (h : EventOk (.ready r)) :
    readReady crates (Message.ready crates r) = some r := by
  obtain ⟨hsession, huser, hroom, hinterval⟩ := h
  obtain ⟨sessionId, user, room, interval⟩ := r
  cases room with
  | none =>
      simp [readReady, Message.ready, Json.field, Message.readUuid_uuid crates hsession,
        Message.readCurrentUser_currentUser crates huser, readCount_u64 hinterval]
  | some room =>
      simp [readReady, Message.ready, Json.field, Message.readUuid_uuid crates hsession,
        Message.readCurrentUser_currentUser crates huser, readCount_u64 hinterval,
        Message.readRoomState_roomState crates (hroom room rfl)]

/-- The payload of an event, taken at the type of its tag, is the event. -/
theorem readEvent_eventPayload {event : DispatchEvent} (h : EventOk event) :
    readEvent crates (Message.eventName event) (Message.eventPayload crates event) =
      some event := by
  cases event with
  | ready r =>
      show (readReady crates (Message.ready crates r)).map DispatchEvent.ready = _
      rw [readReady_ready crates h]
      rfl
  | resumed r =>
      have hcount : readCount (Message.u64 r.replayed.toNat) = some r.replayed.toNat :=
        readCount_u64 (le_trans r.replayed.toNat_lt.le (by decide))
      simp [readEvent, Message.eventName, Message.eventPayload, Json.field, hcount]
  | roomJoin room =>
      simp [readEvent, Message.eventName, Message.eventPayload,
        Message.readRoomState_roomState crates h]
  | roomLeave leave =>
      simp [readEvent, Message.eventName, Message.eventPayload, Json.field]
  | roomParticipantAdd add =>
      simp [readEvent, Message.eventName, Message.eventPayload, Json.field,
        Message.readRoomParticipant_roomParticipant crates h]
  | roomParticipantRemove remove =>
      simp [readEvent, Message.eventName, Message.eventPayload, Json.field,
        Message.readUuid_uuid crates h]
  | shareStart start =>
      simp [readEvent, Message.eventName, Message.eventPayload, Json.field,
        Message.readUuid_uuid crates h]
  | shareStop stop =>
      simp [readEvent, Message.eventName, Message.eventPayload, Json.field,
        Message.readUuid_uuid crates h]

theorem number_opcode (op : Opcode) :
    number (Message.opcode op) = some (.finite op.code.toNat) := by
  show some (Number.ofInt op.code.toNat) = _
  rw [ofInt_natCast (le_trans op.code.toNat_lt.le (by decide))]

theorem number_u64 {n : Nat} (h : n ≤ 2 ^ 53) : number (Message.u64 n) = some (.finite n) := by
  show some (Number.ofInt n) = _
  rw [ofInt_natCast h]

theorem eventName_mem (event : DispatchEvent) : Message.eventName event ∈ dispatchNames := by
  cases event <;> simp [Message.eventName, dispatchNames]

theorem asRecord_eventPayload (event : DispatchEvent) :
    asRecord (Message.eventPayload crates event) = some (Message.eventPayload crates event) := by
  cases event <;> rfl

/-- A frame is read by its opcode. -/
theorem parseServerFrame_toText {v : Json} {op : Opcode} (hrecord : asRecord v = some v)
    (hop : v.field "op" = some (Message.opcode op)) :
    parseServerFrame (crates.jsonWriter.toText v) = readFrame v (.finite op.code.toNat) := by
  rw [parseServerFrame, crates.jsonWriter.parse_toText, Option.bind_some, hrecord,
    Option.bind_some, hop, Option.bind_some, number_opcode, Option.bind_some]

theorem field_controlFrame_op (op : Opcode) (d : Option Json) :
    (Message.controlFrame op d).field "op" = some (Message.opcode op) := by
  cases d with
  | none => simp [Message.controlFrame, Json.field]
  | some d => simp [Message.controlFrame, Json.field]

theorem field_controlFrame_d (op : Opcode) (d : Option Json) :
    (Message.controlFrame op d).field "d" = d := by
  cases d with
  | none => simp [Message.controlFrame, Json.field]
  | some d => simp [Message.controlFrame, Json.field]

theorem parseServerFrame_controlFrame (op : Opcode) (d : Option Json) :
    parseServerFrame (crates.jsonWriter.toText (Message.controlFrame op d)) =
      readFrame (Message.controlFrame op d) (.finite op.code.toNat) :=
  parseServerFrame_toText crates rfl (field_controlFrame_op op d)

theorem readFrame_hello (v : Json) :
    readFrame v (.finite Opcode.hello.code.toNat) = readHello (v.field "d") := by
  rw [readFrame, if_pos (by decide)]

theorem readFrame_dispatch (v : Json) :
    readFrame v (.finite Opcode.dispatch.code.toNat) = readDispatch v := by
  rw [readFrame, if_neg (by decide), if_pos (by decide)]

theorem readFrame_invalidSession (v : Json) :
    readFrame v (.finite Opcode.invalidSession.code.toNat) =
      some (.invalidSession (((v.field "d").bind asRecord).any fun payload =>
        (payload.field "resumable").any isTrue)) := by
  rw [readFrame, if_neg (by decide), if_neg (by decide), if_neg (by decide), if_pos (by decide)]

/-- Without a payload only two opcodes say something. -/
theorem readFrame_bare {op : Opcode} {v : Json} (hop : op ≠ Opcode.invalidSession)
    (hs : v.field "s" = none) (hd : v.field "d" = none) :
    readFrame v (.finite op.code.toNat) =
      if op = Opcode.heartbeatAck then some .heartbeatAck
      else if op = Opcode.reconnect then some .reconnect
      else none := by
  have hhello : readHello (v.field "d") = none := by
    rw [hd]
    rfl
  have hdispatch : readDispatch v = none := by
    rw [readDispatch, hs]
    rfl
  have hcode : ∀ code : UInt8, op.code.toNat = code.toNat ↔ op = ⟨code⟩ := by
    intro code
    rw [UInt8.toNat_inj]
    constructor
    · rintro rfl
      rfl
    · rintro rfl
      rfl
  have hinvalid : op.code.toNat ≠ 6 := fun h => hop ((hcode 6).mp h)
  have hack : op.code.toNat = 5 ↔ op = Opcode.heartbeatAck := hcode 5
  have hreconnect : op.code.toNat = 7 ↔ op = Opcode.reconnect := hcode 7
  simp only [readFrame, hhello, hdispatch, Number.finite.injEq, ← hack, ← hreconnect]
  split_ifs
  all_goals first | rfl | omega

theorem typed_hello {h : Hello} (hinterval : h.heartbeatIntervalMs ≤ 2 ^ 53)
    (httl : h.sessionTtlMs ≤ 2 ^ 53) :
    (parseServerFrame (crates.jsonWriter.toText (Message.hello h))).bind (typed crates) =
      Desktop.parseServerFrame (.hello h) := by
  obtain ⟨interval, ttl⟩ := h
  rw [Message.hello, parseServerFrame_controlFrame]
  rw [readFrame_hello, field_controlFrame_d]
  show _ = Desktop.readHello ⟨interval, ttl⟩
  have hpayload : ∀ v w : Json, Json.field "heartbeat_interval_ms"
      (.obj [("heartbeat_interval_ms", v), ("session_ttl_ms", w)]) = some v ∧
        Json.field "session_ttl_ms"
          (.obj [("heartbeat_interval_ms", v), ("session_ttl_ms", w)]) = some w := by
    intro v w
    simp [Json.field]
  simp only [readHello, asRecord, Option.bind_some, hpayload, isPositiveNumber_u64 hinterval,
    isPositiveNumber_u64 httl, Desktop.readHello]
  by_cases hpos : 0 < interval
  · by_cases hpos' : 0 < ttl
    · simp [hpos, hpos', typed]
    · simp [hpos, Nat.eq_zero_of_not_pos hpos', typed]
  · simp [hpos]

theorem typed_dispatch {frame : DispatchFrame} (hop : frame.op = Opcode.dispatch)
    (hs : frame.s ≤ 2 ^ 53) (hevent : EventOk frame.event) :
    (parseServerFrame (crates.jsonWriter.toText (Message.dispatchFrame crates frame))).bind
        (typed crates) =
      some (.dispatch frame.s frame.event) := by
  obtain ⟨op, seq, event⟩ := frame
  obtain rfl : op = Opcode.dispatch := hop
  have hfields : ∀ a b c d : Json,
      Json.field "op" (.obj [("op", a), ("s", b), ("t", c), ("d", d)]) = some a ∧
        Json.field "s" (.obj [("op", a), ("s", b), ("t", c), ("d", d)]) = some b ∧
          Json.field "t" (.obj [("op", a), ("s", b), ("t", c), ("d", d)]) = some c ∧
            Json.field "d" (.obj [("op", a), ("s", b), ("t", c), ("d", d)]) = some d := by
    intro a b c d
    simp [Json.field]
  rw [Message.dispatchFrame, parseServerFrame_toText crates rfl (hfields _ _ _ _).1]
  rw [readFrame_dispatch]
  simp only [readDispatch, hfields, Option.bind_some, number_u64 hs, Message.readText,
    eventName_mem, if_true, asRecord_eventPayload, Option.map_some, typed, Number.count,
    Int.natCast_nonneg, Int.toNat_natCast, readEvent_eventPayload crates hevent]
  rfl

/-- A text is read as the frame that it was written from is. -/
theorem parseServerFrame_written (frame : WireFrame) (raw : List Char) (hwritten : Written frame)
    (hraw : Message.text crates frame = some raw) :
    (parseServerFrame raw).bind (typed crates) = Desktop.parseServerFrame frame := by
  cases frame with
  | hello h =>
      obtain rfl := Option.some.inj hraw
      exact typed_hello crates hwritten.1 hwritten.2
  | close reason => exact hwritten.elim
  | text frame =>
      obtain rfl := Option.some.inj hraw
      cases frame with
      | dispatch frame => exact typed_dispatch crates hwritten.1 hwritten.2.1 hwritten.2.2
      | invalidSession resumable =>
          show (parseServerFrame (crates.jsonWriter.toText (Message.controlFrame _ _))).bind _ = _
          rw [parseServerFrame_controlFrame]
          rw [readFrame_invalidSession, field_controlFrame_d]
          simp [asRecord, Json.field, isTrue, typed, Desktop.parseServerFrame]
      | control op =>
          show (parseServerFrame (crates.jsonWriter.toText (Message.controlFrame op none))).bind
            _ = _
          rw [parseServerFrame_controlFrame,
            readFrame_bare hwritten (by simp [Message.controlFrame, Json.field])
              (field_controlFrame_d op none), Desktop.parseServerFrame]
          by_cases hack : op = Opcode.heartbeatAck
          · simp [hack, typed]
          · by_cases hreconnect : op = Opcode.reconnect
            · simp [hreconnect, typed, Opcode.reconnect, Opcode.heartbeatAck]
            · simp [hack, hreconnect]

/-- The frame of the server that says it. -/
def wire : ServerFrame → WireFrame
  | .hello h => .hello h
  | .dispatch seq event => .text (.dispatch (.new seq event))
  | .heartbeatAck => .text (.control Opcode.heartbeatAck)
  | .invalidSession resumable => .text (.invalidSession resumable)
  | .reconnect => .text (.control Opcode.reconnect)

/-- There is an interval, the ids are UUIDs, and a double holds the numbers. -/
def Held : ServerFrame → Prop
  | .hello h => 0 < h.heartbeatIntervalMs ∧ h.heartbeatIntervalMs ≤ 2 ^ 53 ∧ h.sessionTtlMs ≤ 2 ^ 53
  | .dispatch seq event => seq ≤ 2 ^ 53 ∧ EventOk event
  | .heartbeatAck | .invalidSession _ | .reconnect => True

theorem Held.written {frame : ServerFrame} (h : Held frame) : Written (wire frame) := by
  cases frame with
  | hello hello => exact h.2
  | dispatch seq event => exact ⟨rfl, h.1, h.2⟩
  | heartbeatAck => exact (by decide : Opcode.heartbeatAck ≠ Opcode.invalidSession)
  | invalidSession resumable => trivial
  | reconnect => exact (by decide : Opcode.reconnect ≠ Opcode.invalidSession)

theorem Held.parsed {frame : ServerFrame} (h : Held frame) :
    Desktop.parseServerFrame (wire frame) = some frame := by
  cases frame with
  | hello hello => exact if_pos h.1
  | dispatch seq event => rfl
  | heartbeatAck => rfl
  | invalidSession resumable => rfl
  | reconnect => rfl

/-- The text of a frame is read as exactly that frame. -/
theorem parseServerFrame_text (frame : ServerFrame) (raw : List Char) (h : Held frame)
    (hraw : Message.text crates (wire frame) = some raw) :
    (parseServerFrame raw).bind (typed crates) = some frame :=
  (parseServerFrame_written crates (wire frame) raw h.written hraw).trans h.parsed

/-- And a `HELLO` without an interval as none. -/
theorem parseServerFrame_text_zero {ttl : Nat} (httl : ttl ≤ 2 ^ 53) :
    (parseServerFrame (crates.jsonWriter.toText (Message.hello ⟨0, ttl⟩))).bind (typed crates) =
      none :=
  typed_hello crates (Nat.zero_le _) httl

/-- Right about the epoch, and about no other instant. -/
def epochClock : InstantText where
  format t := String.ofList ("1970-01-01T00:00:00Z".toList ++ List.replicate t ' ')
  parse s := some (s.toList.length - 20)
  parse_format t := by
    rw [String.toList_ofList, List.length_append, List.length_replicate]
    exact congrArg some (Nat.add_sub_cancel_left 20 t)

def epochCrates : Crates := ⟨UuidText.format, epochClock, Json.writer, Json.reader jsonDepth⟩

/-- A share that began at the epoch. -/
theorem parseServerFrame_text_shareStart :
    Held (.dispatch 4211 (.shareStart ⟨42, 0, .screen, 0⟩)) ∧
      (parseServerFrame (Message.outFrame epochCrates
          (.dispatch (.new 4211 (.shareStart ⟨42, 0, .screen, 0⟩)))).write).bind
            (typed epochCrates) =
        some (.dispatch 4211 (.shareStart ⟨42, 0, .screen, 0⟩)) :=
  have hheld : Held (.dispatch 4211 (.shareStart ⟨42, 0, .screen, 0⟩)) :=
    ⟨by decide, (by decide : (0 : Uuid) < 2 ^ 128)⟩
  ⟨hheld, parseServerFrame_text epochCrates _ _ hheld rfl⟩

/-! ## From the client -/

/-- `JSON.stringify` of a frame. -/
def encode (op : Opcode) (d : Option Json) : String :=
  String.ofList (Message.controlFrame op d).write

def clientInfo (info : ClientInfo) : Json :=
  .obj [("version", .str info.version), ("os", .str info.os)]

def encodeIdentify (token : String) (info : ClientInfo) : String :=
  encode Opcode.identify (some (.obj [("token", .str token), ("client", clientInfo info)]))

/-- `sessionId` is the text `READY` brought. -/
def encodeResume (token sessionId : String) (lastSeq : Nat) : String :=
  encode Opcode.resume (some (.obj [("token", .str token), ("session_id", .str sessionId),
    ("last_seq", .num lastSeq)]))

def encodeHeartbeat : String := encode Opcode.heartbeat none

theorem readOpcode_opcode (op : Opcode) : Message.readOpcode (Message.opcode op) = some op := by
  have hlt := op.code.toNat_lt
  rw [Message.opcode, Message.readOpcode, if_pos (by omega), Int.toNat_natCast,
    UInt8.ofNat_toNat]

/-- How deep the payload of a request may nest: the frame is one level more. -/
theorem within_controlFrame (op : Opcode) {d : Option Json}
    (h : ∀ v ∈ d, Json.Within 126 v) : Json.Within jsonDepth (Message.controlFrame op d) := by
  refine .obj fun field hfield => ?_
  rcases List.mem_cons.mp hfield with rfl | hpayload
  · have hlt := op.code.toNat_lt
    exact .num (by omega) (by omega)
  · obtain ⟨v, hv, rfl⟩ := List.mem_map.mp hpayload
    exact h v (Option.mem_toList.mp hv)

theorem readEnvelope_encode (op : Opcode) {d : Option Json} (h : ∀ v ∈ d, Json.Within 126 v) :
    Message.readEnvelope crates (encode op d).toList = some ⟨op, d.bind Message.nonNull⟩ := by
  rw [encode, String.toList_ofList, Message.readEnvelope,
    crates.jsonReader.ofText_write (within_controlFrame op h), Option.bind_some]
  have hfields : Message.envelopeFields ["op", "d"] (Message.controlFrame op d) =
      some [some (Message.opcode op), d] := by
    cases d with
    | none => simp [Message.controlFrame, Message.envelopeFields, Json.field]
    | some d => simp [Message.controlFrame, Message.envelopeFields, Json.field]
  rw [hfields, Option.bind_some]
  dsimp only
  rw [readOpcode_opcode, Option.map_some]

theorem envelope_encode (verifyAccess : Timestamp → String → Option String) (op : Opcode)
    {d : Option Json} (h : ∀ v ∈ d, Json.Within 126 v) :
    (Message.codec crates verifyAccess).envelope (encode op d) =
      some ⟨op, d.bind Message.nonNull⟩ :=
  readEnvelope_encode crates op h

theorem within_identify (token : String) (info : ClientInfo) :
    Json.Within 126 (.obj [("token", .str token), ("client", clientInfo info)]) := by
  refine .obj fun field hfield => ?_
  rcases List.mem_pair.mp hfield with rfl | rfl
  · exact .str token
  · refine .obj fun field hfield => ?_
    rcases List.mem_pair.mp hfield with rfl | rfl
    · exact .str info.version
    · exact .str info.os

theorem within_resume (token sessionId : String) {lastSeq : Nat} (h : lastSeq ≤ 2 ^ 53) :
    Json.Within 126 (.obj [("token", .str token), ("session_id", .str sessionId),
      ("last_seq", .num lastSeq)]) := by
  refine .obj fun field hfield => ?_
  simp only [List.mem_cons, List.not_mem_nil, or_false] at hfield
  rcases hfield with rfl | rfl | rfl
  · exact .str token
  · exact .str sessionId
  · exact .num (by omega) (by omega)

theorem readIdentify_payload (token : String) (info : ClientInfo) :
    Message.readIdentify (.obj [("token", .str token), ("client", clientInfo info)]) =
      some ⟨token, info⟩ := by
  simp [Message.readIdentify, Message.payloadFields, Json.field, Message.readText,
    Message.readClientInfo, clientInfo]

theorem readResume_payload (token : String) {sessionId : Uuid} {lastSeq : Nat}
    (hid : sessionId < 2 ^ 128) (hseq : lastSeq ≤ 2 ^ 53) :
    Message.readResume crates (.obj [("token", .str token),
        ("session_id", .str (String.ofList (crates.uuid.write sessionId))),
        ("last_seq", .num lastSeq)]) =
      some ⟨token, sessionId, lastSeq⟩ := by
  have huuid : Message.readUuid crates (.str (String.ofList (crates.uuid.write sessionId))) =
      some sessionId := Message.readUuid_uuid crates hid
  have hnum : Message.readU64 (.num lastSeq) = some lastSeq := by
    rw [Message.readU64, if_pos (by omega), Int.toNat_natCast]
  simp [Message.readResume, Message.payloadFields, Json.field, Message.readText, huuid, hnum]

/-- What a client asks of the server. -/
inductive Request where
  | heartbeat
  | identify (payload : Identify)
  | resume (payload : Resume)
deriving DecidableEq

/-- The id is a UUID, and a double holds the sequence number. -/
def Request.Held : Request → Prop
  | heartbeat => True
  | identify _ => True
  | resume payload => payload.sessionId < 2 ^ 128 ∧ payload.lastSeq ≤ 2 ^ 53

/-- The text of a request. -/
def Request.encode : Request → String
  | heartbeat => encodeHeartbeat
  | identify payload => encodeIdentify payload.token payload.client
  | resume payload =>
      encodeResume payload.token (String.ofList (crates.uuid.write payload.sessionId))
        payload.lastSeq

/-! ## What the handler makes of a request -/

section

variable (codec : Codec) (now : Timestamp) (hub : HubAnswer)

/-- The request that the handler finds in a text. -/
def readRequest (text : String) : Option Request :=
  (codec.envelope text).bind fun frame =>
    if frame.op = Opcode.heartbeat then some .heartbeat
    else if frame.op = Opcode.identify then (frame.d.bind codec.identify).map .identify
    else if frame.op = Opcode.resume then (frame.d.bind codec.resume).map .resume
    else none

/-- What it does about it, in any state of the connection. -/
def answer (conn : Serve.Connection) :
    Request → Except CloseReason (Serve.Connection × List OutFrame)
  | .heartbeat => .ok (conn, [.control Opcode.heartbeatAck])
  | .identify payload =>
      if conn.session.isSome then
        .error (CloseCode.decodeError, "already identified")
      else do
        checkClientVersion payload.client
        let _ ← authenticate codec now payload.token
        return ({ conn with session := some hub.sessionId }, [hub.ready])
  | .resume payload =>
      if conn.session.isSome then
        .error (CloseCode.decodeError, "already identified")
      else do
        let _ ← authenticate codec now payload.token
        match hub.resumed with
        | none => return (conn, [.invalidSession false])
        | some frames => return ({ conn with session := some payload.sessionId }, frames)

theorem readRequest_identify {text : String} {value : codec.Value} {payload : Identify}
    (henvelope : codec.envelope text = some ⟨Opcode.identify, some value⟩)
    (hpayload : codec.identify value = some payload) :
    readRequest codec text = some (.identify payload) := by
  rw [readRequest, henvelope, Option.bind_some]
  dsimp only
  rw [if_neg (by decide), if_pos rfl, Option.bind_some, hpayload, Option.map_some]

theorem readRequest_resume {text : String} {value : codec.Value} {payload : Resume}
    (henvelope : codec.envelope text = some ⟨Opcode.resume, some value⟩)
    (hpayload : codec.resume value = some payload) :
    readRequest codec text = some (.resume payload) := by
  rw [readRequest, henvelope, Option.bind_some]
  dsimp only
  rw [if_neg (by decide), if_neg (by decide), if_pos rfl, Option.bind_some, hpayload,
    Option.map_some]

theorem parse_of_decoded {α : Type} {decode : codec.Value → Option α} {data : Option codec.Value}
    {payload : α} (h : data.bind decode = some payload) :
    Gateway.Serve.parse codec decode data = .ok payload := by
  obtain ⟨value, rfl, hdecoded⟩ := Option.bind_eq_some_iff.mp h
  rw [Gateway.Serve.parse, hdecoded]

/-- The handler looks at the request, and at nothing else in the text. -/
theorem handle_of_readRequest {text : String} {request : Request}
    (h : readRequest codec text = some request) (conn : Serve.Connection) :
    handle codec now hub text conn = answer codec now hub conn request := by
  obtain ⟨⟨op, data⟩, henvelope, hread⟩ := Option.bind_eq_some_iff.mp h
  rw [handle, henvelope]
  dsimp only at hread ⊢
  split at hread
  · next hop =>
      obtain rfl := Option.some.inj hread
      rw [if_pos hop]
      rfl
  · next hop =>
      rw [if_neg hop]
      split at hread
      · next hop' =>
          obtain ⟨payload, hpayload, rfl⟩ := Option.map_eq_some_iff.mp hread
          rw [if_pos hop', parse_of_decoded codec hpayload]
          rfl
      · next hop' =>
          rw [if_neg hop']
          split at hread
          · next hop'' =>
              obtain ⟨payload, hpayload, rfl⟩ := Option.map_eq_some_iff.mp hread
              rw [if_pos hop'', parse_of_decoded codec hpayload]
              rfl
          · cases hread

end

theorem resume_codec (verifyAccess : Timestamp → String → Option String) (value : Json) :
    (Message.codec crates verifyAccess).resume value = Message.readResume crates value := rfl

/-- What the client encodes is read as what it asks. -/
theorem readRequest_encode (verifyAccess : Timestamp → String → Option String) (request : Request)
    (h : request.Held) :
    readRequest (Message.codec crates verifyAccess) (request.encode crates) = some request := by
  cases request with
  | heartbeat =>
      rw [readRequest, Request.encode, encodeHeartbeat,
        envelope_encode crates verifyAccess Opcode.heartbeat (by simp)]
      rfl
  | identify payload =>
      have hwithin := within_identify payload.token payload.client
      rw [Request.encode, encodeIdentify]
      exact readRequest_identify _
        (envelope_encode crates verifyAccess Opcode.identify (by simpa using hwithin))
        (readIdentify_payload payload.token payload.client)
  | resume payload =>
      obtain ⟨hid, hseq⟩ := h
      have hwithin := within_resume payload.token
        (String.ofList (crates.uuid.write payload.sessionId)) hseq
      rw [Request.encode, encodeResume]
      exact readRequest_resume _
        (envelope_encode crates verifyAccess Opcode.resume (by simpa using hwithin))
        ((resume_codec crates verifyAccess _).trans
          (readResume_payload crates payload.token hid hseq))

/-- Whatever the client encodes the server reads as that very request, and it is answered as
such in every state of the connection. -/
theorem handle_encoded (verifyAccess : Timestamp → String → Option String) (now : Timestamp)
    (hub : HubAnswer) (request : Request) (h : request.Held) :
    readRequest (Message.codec crates verifyAccess) (request.encode crates) = some request ∧
      ∀ conn, handle (Message.codec crates verifyAccess) now hub (request.encode crates) conn =
        answer (Message.codec crates verifyAccess) now hub conn request :=
  have hread := readRequest_encode crates verifyAccess request h
  ⟨hread, fun conn => handle_of_readRequest _ now hub hread conn⟩

/-- A session that is to go on after its seventh frame. -/
theorem handle_encoded_resume :
    (Request.resume ⟨"t", 5, 7⟩).Held ∧
      readRequest (Message.codec epochCrates fun _ _ => none)
          ((Request.resume ⟨"t", 5, 7⟩).encode epochCrates) =
        some (.resume ⟨"t", 5, 7⟩) :=
  have hheld : (Request.resume ⟨"t", 5, 7⟩).Held := ⟨by decide, by decide⟩
  ⟨hheld, (handle_encoded epochCrates (fun _ _ => none) 0 ⟨0, .control Opcode.reconnect, none⟩ _
    hheld).1⟩

end FrameText
end Desktop
end Ldktela
