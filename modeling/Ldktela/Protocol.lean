import Mathlib.Tactic.Common

/-!
# The wire types shared by the server, the bot and the client

`crates/protocol`: identifiers and scalars, rooms and publications, and the
frames of the WebSocket gateway.

Machine integers are kept where a conversion between them can fail: a Discord
id is a signed 64-bit integer in the database and on the wire, and an unsigned
one inside the replica the bot maintains.  UUIDs and instants are natural
numbers; nothing depends on their representation.
-/

namespace Ldktela
namespace Protocol

/-! ## Scalars -/

abbrev Uuid := Nat

/-- A Discord id as the database and the wire carry it (`i64`). -/
abbrev Snowflake := Int64

/-- An instant of the server's clock. -/
abbrev Timestamp := Nat

/-- `u64::try_from` on an `i64`. -/
def u64TryFrom (x : Int64) : Option UInt64 :=
  if 0 ≤ x then some x.toUInt64 else none

/-- `i64::try_from` on a `u64`. -/
def i64TryFrom (n : UInt64) : Option Int64 :=
  if n.toNat ≤ Int64.maxValue.toNatClampNeg then some n.toInt64 else none

/-- `i64::try_from(n).unwrap_or_default()`. -/
def i64OrDefault (n : UInt64) : Int64 :=
  (i64TryFrom n).getD 0

/-- `i64::unsigned_abs`. -/
def unsignedAbs (x : Int64) : UInt64 :=
  UInt64.ofNat x.toInt.natAbs

/-- A stored id that converts to `u64` converts back to itself. -/
theorem i64TryFrom_of_u64TryFrom {x : Int64} {n : UInt64} (h : u64TryFrom x = some n) :
    i64TryFrom n = some x := by
  unfold u64TryFrom at h
  split at h
  · next hx =>
      obtain rfl := Option.some.inj h
      have hle : x.toUInt64.toNat ≤ Int64.maxValue.toNatClampNeg := by
        rw [Int64.toNat_toUInt64_of_le hx]
        exact Int.toNat_le_toNat x.toInt_le
      rw [i64TryFrom, if_pos hle]
      simp
  · cases h

theorem i64OrDefault_of_u64TryFrom {x : Int64} {n : UInt64} (h : u64TryFrom x = some n) :
    i64OrDefault n = x := by
  simp [i64OrDefault, i64TryFrom_of_u64TryFrom h]

/-- A replica id that converts to the wire comes back as itself. -/
theorem eq_of_i64TryFrom {n m : UInt64} {x : Int64} (h : i64TryFrom n = some x)
    (h' : u64TryFrom x = some m) : m = n := by
  unfold i64TryFrom at h
  unfold u64TryFrom at h'
  split at h
  · split at h'
    · obtain rfl := Option.some.inj h
      simpa using (Option.some.inj h').symm
    · cases h'
  · cases h

theorem u64TryFrom_of_i64TryFrom {n : UInt64} {x : Int64} (h : i64TryFrom n = some x) :
    u64TryFrom x = some n := by
  unfold i64TryFrom at h
  split at h
  · next hle =>
      obtain rfl := Option.some.inj h
      have hmax : Int64.maxValue.toNatClampNeg = 2 ^ 63 - 1 := by decide
      have hint : n.toInt64.toInt = n.toNat := by
        show n.toBitVec.toInt = n.toBitVec.toNat
        refine BitVec.toInt_eq_toNat_of_lt ?_
        show 2 * n.toNat < 2 ^ 64
        omega
      have hpos : 0 ≤ n.toInt64 := by
        rw [Int64.le_iff_toInt_le, hint]
        exact Int.natCast_nonneg _
      rw [u64TryFrom, if_pos hpos]
      simp
  · cases h

/-! ## Rooms -/

/-- What a publication carries: a screen, or a face. -/
inductive PublicationSource where
  | screen
  | camera
deriving DecidableEq

/-- One live publication of one person. -/
structure Publication where
  source : PublicationSource
  since : Timestamp
deriving DecidableEq

structure UserSummary where
  id : Uuid
  discordUserId : Snowflake
  username : String
  displayName : Option String
  avatarUrl : Option String
deriving DecidableEq

structure CurrentUser where
  id : Uuid
  discordUserId : Snowflake
  username : String
  displayName : Option String
  avatarUrl : Option String
  createdAt : Timestamp
deriving DecidableEq

/-- Someone present in a room, with everything they transmit right now. -/
structure RoomParticipant where
  user : UserSummary
  publications : List Publication
deriving DecidableEq

/-- The full state of one room, carried by `ROOM_JOIN` and `READY`. -/
structure RoomState where
  discordChannelId : Snowflake
  discordGuildId : Snowflake
  channelName : String
  participants : List RoomParticipant
deriving DecidableEq

inductive RoomLeaveReason where
  | left
  | accessRevoked
  | replicaStale
deriving DecidableEq

structure RoomLeave where
  discordChannelId : Snowflake
  reason : RoomLeaveReason
deriving DecidableEq

structure RoomParticipantAdd where
  discordChannelId : Snowflake
  participant : RoomParticipant
deriving DecidableEq

structure RoomParticipantRemove where
  discordChannelId : Snowflake
  userId : Uuid
deriving DecidableEq

structure ShareStart where
  discordChannelId : Snowflake
  userId : Uuid
  source : PublicationSource
  startedAt : Timestamp
deriving DecidableEq

structure ShareStop where
  discordChannelId : Snowflake
  userId : Uuid
  source : PublicationSource
deriving DecidableEq

/-! ## Gateway frames -/

/-- Frame opcode; any byte can arrive from a client. -/
structure Opcode where
  code : UInt8
deriving DecidableEq

namespace Opcode

def dispatch : Opcode := ⟨0⟩
def hello : Opcode := ⟨1⟩
def identify : Opcode := ⟨2⟩
def resume : Opcode := ⟨3⟩
def heartbeat : Opcode := ⟨4⟩
def heartbeatAck : Opcode := ⟨5⟩
def invalidSession : Opcode := ⟨6⟩
def reconnect : Opcode := ⟨7⟩

end Opcode

namespace CloseCode

/-- Unknown error; the client should resume. -/
def unknown : UInt16 := 4000
def authenticationFailed : UInt16 := 4001
/-- Malformed frame. -/
def decodeError : UInt16 := 4002
/-- Did not identify in time. -/
def notAuthenticated : UInt16 := 4003
def sessionAlreadyActive : UInt16 := 4004
def rateLimited : UInt16 := 4008
def versionTooOld : UInt16 := 4010
/-- Closed by the client, after detecting a zombie connection. -/
def zombied : UInt16 := 4900

end CloseCode

namespace Limits

/-- Time allowed between `HELLO` and `IDENTIFY`. -/
def identifyTimeoutMs : Nat := 10000
/-- Frames accepted from one client per window. -/
def maxFramesPerWindow : Nat := 30
def frameWindowMs : Nat := 60000
/-- Largest frame accepted from a client. -/
def maxFrameBytes : Nat := 4096

end Limits

def gatewayVersion : UInt8 := 1

/-- A client frame whose payload has not been looked at; `V` is the type of JSON
values. -/
structure RawClientFrame (V : Type) where
  op : Opcode
  d : Option V

structure ClientInfo where
  version : String
  os : String
deriving DecidableEq

structure Identify where
  token : String
  client : ClientInfo
deriving DecidableEq

structure Resume where
  token : String
  sessionId : Uuid
  lastSeq : Nat
deriving DecidableEq

structure Hello where
  heartbeatIntervalMs : Nat
  sessionTtlMs : Nat
deriving DecidableEq

/-- `READY` payload.  `room` is absent whenever the user is in no voice channel. -/
structure Ready where
  sessionId : Uuid
  user : CurrentUser
  room : Option RoomState
  heartbeatIntervalMs : Nat
deriving DecidableEq

structure Resumed where
  replayed : UInt32
deriving DecidableEq

/-- Every dispatch event.  All of them are replayable. -/
inductive DispatchEvent where
  | ready (ready : Ready)
  | resumed (resumed : Resumed)
  | roomJoin (room : RoomState)
  | roomLeave (leave : RoomLeave)
  | roomParticipantAdd (add : RoomParticipantAdd)
  | roomParticipantRemove (remove : RoomParticipantRemove)
  | shareStart (start : ShareStart)
  | shareStop (stop : ShareStop)
deriving DecidableEq

/-- `op: 0`.  `s` is the per-session sequence used to detect a gap on resume. -/
structure DispatchFrame where
  op : Opcode
  s : Nat
  event : DispatchEvent
deriving DecidableEq

def DispatchFrame.new (seq : Nat) (event : DispatchEvent) : DispatchFrame where
  op := Opcode.dispatch
  s := seq
  event := event

@[simp]
theorem DispatchFrame.new_s (seq : Nat) (event : DispatchEvent) :
    (DispatchFrame.new seq event).s = seq := rfl

/-- A frame as it is queued for the socket: a dispatch, or a control frame,
which carries no sequence.  Serialisation is injective and is left out. -/
inductive OutFrame where
  | dispatch (frame : DispatchFrame)
  | control (op : Opcode)
  | invalidSession (resumable : Bool)
deriving DecidableEq

/-- The dispatch a queued frame carries, if it is one. -/
def OutFrame.dispatch? : OutFrame → Option DispatchFrame
  | .dispatch frame => some frame
  | .control _ => none
  | .invalidSession _ => none

end Protocol
end Ldktela
