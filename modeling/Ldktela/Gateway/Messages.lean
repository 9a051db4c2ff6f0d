import Mathlib.Algebra.Group.Int.Defs
import Ldktela.Api.RoomTokens
import Ldktela.Gateway.Serve
import Ldktela.Lib.Json

/-!
# The frames of the gateway as JSON

What `serde` makes of the types of `crates/protocol` (`scalars.rs`, `user.rs`, `room.rs`,
`gateway.rs`), and the types of `desktop/src/api/types` read from it.  An id of Discord is a string
of decimal digits, an id of ours the text of a UUID, and an instant a text in RFC 3339; `Crates` is
what is known of the libraries that write and read these texts.

Each reader is followed by the lemma that it gives back what was written.
-/

namespace Ldktela
namespace Gateway

open Protocol
open Gateway.Serve

/-- RFC 3339, as the `time` crate writes it. -/
structure InstantText where
  format : Timestamp → String
  parse : String → Option Timestamp
  parse_format : ∀ t, parse (format t) = some t

/-- How deep a text may nest for `serde_json`. -/
def jsonDepth : Nat := 127

/-- The crates `uuid`, `time` and `serde_json`. -/
structure Crates where
  uuid : UuidFormat
  time : InstantText
  jsonWriter : Json.Writer
  jsonReader : Json.Reader jsonDepth

namespace Message

variable (crates : Crates)

/-! ## Scalars -/

def snowflake (id : Snowflake) : Json := .str id.toInt.repr

def uuid (id : Uuid) : Json := .str (String.ofList (crates.uuid.write id))

/-- An `Option<String>` that is not skipped. -/
def optional : Option String → Json
  | none => .null
  | some s => .str s

def source : PublicationSource → Json
  | .screen => .str "screen"
  | .camera => .str "camera"

def leaveReason : RoomLeaveReason → Json
  | .left => .str "left"
  | .accessRevoked => .str "access_revoked"
  | .replicaStale => .str "replica_stale"

def readText : Json → Option String
  | .str s => some s
  | _ => none

def readSnowflake (v : Json) : Option Snowflake :=
  (readText v).bind fun text => Api.readChannel text.toList

def readUuid (v : Json) : Option Uuid :=
  (readText v).bind fun text => crates.uuid.read text.toList

def readOptional : Json → Option (Option String)
  | .null => some none
  | .str s => some (some s)
  | _ => none

def readSource (v : Json) : Option PublicationSource :=
  (readText v).bind fun text =>
    if text = "screen" then some .screen else if text = "camera" then some .camera else none

def readLeaveReason (v : Json) : Option RoomLeaveReason :=
  (readText v).bind fun text =>
    if text = "left" then some .left
    else if text = "access_revoked" then some .accessRevoked
    else if text = "replica_stale" then some .replicaStale
    else none

def readList {α : Type} (read : Json → Option α) : Json → Option (List α)
  | .arr items => items.mapM read
  | _ => none

@[simp]
theorem readSnowflake_snowflake (id : Snowflake) : readSnowflake (snowflake id) = some id := by
  show Api.readChannel id.toInt.repr.toList = some id
  exact Api.readChannel_eq_some.mpr (Api.Env.signedNumeral_repr id.toInt)

theorem readUuid_uuid {id : Uuid} (h : id < 2 ^ 128) :
    readUuid crates (uuid crates id) = some id := by
  simp only [readUuid, uuid, readText, Option.bind_some, String.toList_ofList]
  exact crates.uuid.read_write h

@[simp]
theorem readOptional_optional (s : Option String) : readOptional (optional s) = some s := by
  cases s with
  | none => rfl
  | some s => rfl

@[simp]
theorem readSource_source (s : PublicationSource) : readSource (source s) = some s := by
  cases s with
  | screen => rfl
  | camera => rfl

@[simp]
theorem readLeaveReason_leaveReason (r : RoomLeaveReason) :
    readLeaveReason (leaveReason r) = some r := by
  cases r with
  | left => rfl
  | accessRevoked => rfl
  | replicaStale => rfl

theorem readList_map {α : Type} {read : Json → Option α} {write : α → Json} (items : List α)
    (h : ∀ a ∈ items, read (write a) = some a) :
    readList read (.arr (items.map write)) = some items := by
  show (items.map write).mapM read = some items
  induction items with
  | nil => rfl
  | cons a items ih =>
      rw [List.map_cons, List.mapM_cons, h a List.mem_cons_self,
        ih fun b hb => h b (List.mem_cons_of_mem a hb)]
      rfl

/-! ## Rooms and users -/

def instant (t : Timestamp) : Json := .str (crates.time.format t)

def readInstant (v : Json) : Option Timestamp :=
  (readText v).bind crates.time.parse

@[simp]
theorem readInstant_instant (t : Timestamp) : readInstant crates (instant crates t) = some t :=
  crates.time.parse_format t

def userSummary (user : UserSummary) : Json :=
  .obj [("id", uuid crates user.id), ("discord_user_id", snowflake user.discordUserId),
    ("username", .str user.username), ("display_name", optional user.displayName),
    ("avatar_url", optional user.avatarUrl)]

def readUserSummary (v : Json) : Option UserSummary := do
  let id ← (v.field "id").bind (readUuid crates)
  let discordUserId ← (v.field "discord_user_id").bind readSnowflake
  let username ← (v.field "username").bind readText
  let displayName ← (v.field "display_name").bind readOptional
  let avatarUrl ← (v.field "avatar_url").bind readOptional
  return ⟨id, discordUserId, username, displayName, avatarUrl⟩

def currentUser (user : CurrentUser) : Json :=
  .obj [("id", uuid crates user.id), ("discord_user_id", snowflake user.discordUserId),
    ("username", .str user.username), ("display_name", optional user.displayName),
    ("avatar_url", optional user.avatarUrl), ("created_at", instant crates user.createdAt)]

def readCurrentUser (v : Json) : Option CurrentUser := do
  let id ← (v.field "id").bind (readUuid crates)
  let discordUserId ← (v.field "discord_user_id").bind readSnowflake
  let username ← (v.field "username").bind readText
  let displayName ← (v.field "display_name").bind readOptional
  let avatarUrl ← (v.field "avatar_url").bind readOptional
  let createdAt ← (v.field "created_at").bind (readInstant crates)
  return ⟨id, discordUserId, username, displayName, avatarUrl, createdAt⟩

def publication (p : Publication) : Json :=
  .obj [("source", source p.source), ("since", instant crates p.since)]

def readPublication (v : Json) : Option Publication := do
  let source ← (v.field "source").bind readSource
  let since ← (v.field "since").bind (readInstant crates)
  return ⟨source, since⟩

def roomParticipant (p : RoomParticipant) : Json :=
  .obj [("user", userSummary crates p.user),
    ("publications", .arr (p.publications.map (publication crates)))]

def readRoomParticipant (v : Json) : Option RoomParticipant := do
  let user ← (v.field "user").bind (readUserSummary crates)
  let publications ← (v.field "publications").bind (readList (readPublication crates))
  return ⟨user, publications⟩

def roomState (room : RoomState) : Json :=
  .obj [("discord_channel_id", snowflake room.discordChannelId),
    ("discord_guild_id", snowflake room.discordGuildId), ("channel_name", .str room.channelName),
    ("participants", .arr (room.participants.map (roomParticipant crates)))]

def readRoomState (v : Json) : Option RoomState := do
  let discordChannelId ← (v.field "discord_channel_id").bind readSnowflake
  let discordGuildId ← (v.field "discord_guild_id").bind readSnowflake
  let channelName ← (v.field "channel_name").bind readText
  let participants ← (v.field "participants").bind (readList (readRoomParticipant crates))
  return ⟨discordChannelId, discordGuildId, channelName, participants⟩

/-- A UUID has 128 bits. -/
def ParticipantOk (p : RoomParticipant) : Prop :=
  p.user.id < 2 ^ 128

def RoomOk (room : RoomState) : Prop :=
  ∀ p ∈ room.participants, ParticipantOk p

theorem readUserSummary_userSummary {user : UserSummary} (h : user.id < 2 ^ 128) :
    readUserSummary crates (userSummary crates user) = some user := by
  simp [readUserSummary, userSummary, Json.field, readUuid_uuid crates h, readText]

theorem readCurrentUser_currentUser {user : CurrentUser} (h : user.id < 2 ^ 128) :
    readCurrentUser crates (currentUser crates user) = some user := by
  simp [readCurrentUser, currentUser, Json.field, readUuid_uuid crates h, readText]

theorem readPublication_publication (p : Publication) :
    readPublication crates (publication crates p) = some p := by
  simp [readPublication, publication, Json.field]

theorem readRoomParticipant_roomParticipant {p : RoomParticipant} (h : ParticipantOk p) :
    readRoomParticipant crates (roomParticipant crates p) = some p := by
  have hlist := readList_map p.publications fun a _ => readPublication_publication crates a
  simp [readRoomParticipant, roomParticipant, Json.field, readUserSummary_userSummary crates h,
    hlist]

theorem readRoomState_roomState {room : RoomState} (h : RoomOk room) :
    readRoomState crates (roomState crates room) = some room := by
  have hlist := readList_map room.participants fun a ha =>
    readRoomParticipant_roomParticipant crates (h a ha)
  simp [readRoomState, roomState, Json.field, readText, hlist]

/-! ## Frames of the server -/

def u64 (n : Nat) : Json := .num n

def opcode (op : Opcode) : Json := .num op.code.toNat

/-- `room` is skipped when there is none. -/
def ready (r : Ready) : Json :=
  .obj ([("session_id", uuid crates r.sessionId), ("user", currentUser crates r.user)] ++
    (r.room.toList.map fun room => ("room", roomState crates room)) ++
    [("heartbeat_interval_ms", u64 r.heartbeatIntervalMs)])

/-- The tag of an event. -/
def eventName : DispatchEvent → String
  | .ready _ => "READY"
  | .resumed _ => "RESUMED"
  | .roomJoin _ => "ROOM_JOIN"
  | .roomLeave _ => "ROOM_LEAVE"
  | .roomParticipantAdd _ => "ROOM_PARTICIPANT_ADD"
  | .roomParticipantRemove _ => "ROOM_PARTICIPANT_REMOVE"
  | .shareStart _ => "SHARE_START"
  | .shareStop _ => "SHARE_STOP"

/-- The content of an event. -/
def eventPayload : DispatchEvent → Json
  | .ready r => ready crates r
  | .resumed r => .obj [("replayed", u64 r.replayed.toNat)]
  | .roomJoin room => roomState crates room
  | .roomLeave leave =>
      .obj [("discord_channel_id", snowflake leave.discordChannelId),
        ("reason", leaveReason leave.reason)]
  | .roomParticipantAdd add =>
      .obj [("discord_channel_id", snowflake add.discordChannelId),
        ("participant", roomParticipant crates add.participant)]
  | .roomParticipantRemove remove =>
      .obj [("discord_channel_id", snowflake remove.discordChannelId),
        ("user_id", uuid crates remove.userId)]
  | .shareStart start =>
      .obj [("discord_channel_id", snowflake start.discordChannelId),
        ("user_id", uuid crates start.userId), ("source", source start.source),
        ("started_at", instant crates start.startedAt)]
  | .shareStop stop =>
      .obj [("discord_channel_id", snowflake stop.discordChannelId),
        ("user_id", uuid crates stop.userId), ("source", source stop.source)]

/-- The event is flattened into the frame. -/
def dispatchFrame (frame : DispatchFrame) : Json :=
  .obj [("op", opcode frame.op), ("s", u64 frame.s), ("t", .str (eventName frame.event)),
    ("d", eventPayload crates frame.event)]

/-- `d` is skipped when there is none. -/
def controlFrame (op : Opcode) (d : Option Json) : Json :=
  .obj (("op", opcode op) :: d.toList.map fun d => ("d", d))

def outFrame : OutFrame → Json
  | .dispatch frame => dispatchFrame crates frame
  | .control op => controlFrame op none
  | .invalidSession resumable =>
      controlFrame Opcode.invalidSession (some (.obj [("resumable", .bool resumable)]))

def hello (h : Hello) : Json :=
  controlFrame Opcode.hello (some (.obj [("heartbeat_interval_ms", u64 h.heartbeatIntervalMs),
    ("session_ttl_ms", u64 h.sessionTtlMs)]))

/-- The text of a frame that carries one. -/
def text : WireFrame → Option (List Char)
  | .hello h => some (crates.jsonWriter.toText (hello h))
  | .text frame => some (crates.jsonWriter.toText (outFrame crates frame))
  | .close _ => none

/-! ## Frames of a client

`serde` takes a struct from an object or, by position, from an array.  The envelope is read from
the text, where a repeated key is an error; a payload is read from a value, where the last one
stayed. -/

def envelopeFields (names : List String) : Json → Option (List (Option Json))
  | .obj fields =>
      if ∀ name ∈ names, (fields.filter fun entry => entry.1 = name).length ≤ 1 then
        some (names.map fun name => (Json.obj fields).field name)
      else
        none
  | .arr items =>
      if items.length ≤ names.length then
        some (items.map some ++ List.replicate (names.length - items.length) none)
      else
        none
  | _ => none

def payloadFields (names : List String) : Json → Option (List (Option Json))
  | .obj fields => some (names.map fun name => (Json.obj fields).field name)
  | .arr items => if items.length = names.length then some (items.map some) else none
  | _ => none

/-- `Option<Value>`: a `null` is none. -/
def nonNull : Json → Option Json
  | .null => none
  | v => some v

def readOpcode : Json → Option Opcode
  | .num n => if 0 ≤ n ∧ n < 256 then some ⟨UInt8.ofNat n.toNat⟩ else none
  | _ => none

def readU64 : Json → Option Nat
  | .num n => if 0 ≤ n ∧ n < 2 ^ 64 then some n.toNat else none
  | _ => none

/-- `serde_json::from_str::<RawClientFrame>`. -/
def readEnvelope (text : List Char) : Option (RawClientFrame Json) :=
  ((crates.jsonReader.ofText text).bind (envelopeFields ["op", "d"])).bind fun fields =>
    match fields with
    | [some op, d] => (readOpcode op).map fun op => ⟨op, d.bind nonNull⟩
    | _ => none

def readClientInfo (v : Json) : Option ClientInfo :=
  (payloadFields ["version", "os"] v).bind fun fields =>
    match fields with
    | [some version, some os] => do
        let version ← readText version
        let os ← readText os
        return ⟨version, os⟩
    | _ => none

def readIdentify (v : Json) : Option Identify :=
  (payloadFields ["token", "client"] v).bind fun fields =>
    match fields with
    | [some token, some client] => do
        let token ← readText token
        let client ← readClientInfo client
        return ⟨token, client⟩
    | _ => none

def readResume (v : Json) : Option Resume :=
  (payloadFields ["token", "session_id", "last_seq"] v).bind fun fields =>
    match fields with
    | [some token, some sessionId, some lastSeq] => do
        let token ← readText token
        let sessionId ← readUuid crates sessionId
        let lastSeq ← readU64 lastSeq
        return ⟨token, sessionId, lastSeq⟩
    | _ => none

/-- The decoders of the server; the verification of a token is left open. -/
def codec (verifyAccess : Timestamp → String → Option String) : Codec where
  Value := Json
  envelope := fun text => readEnvelope crates text.toList
  identify := readIdentify
  resume := readResume crates
  verifyAccess := verifyAccess
  parseUuid := fun text => crates.uuid.read text.toList

end Message
end Gateway
end Ldktela
