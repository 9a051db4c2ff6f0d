import Ldktela.Db.Presence
import Ldktela.Discord.Replica

/-!
# The `READY` payload

`crates/api/src/gateway/ready.rs`, and `state_of` of
`crates/api/src/routes/rooms.rs`, which assumes that its callers have checked
access.

The room of a `READY` comes from one of two places.  A voice channel is taken only
if the user may enter its room; the presence table is asked when there is no such
channel, and its answer is not checked.  `handsOut_iff` says which room is handed
out, and `handsOutAdmitted_iff` when it is one the user may join.
-/

namespace Ldktela
namespace Gateway
namespace Ready

open Protocol
open Db
open Discord

/-- The tables and the replica, as one READY reads them. -/
structure Snapshot where
  replica : Replica
  users : Users
  /-- When each account was created; no other query reads the column. -/
  createdAt : Uuid → Timestamp
  presence : Presence

/-- Which of its queries the database answers. -/
structure Answered where
  findById : Bool
  channelOf : Bool
  listByChannel : Bool
deriving DecidableEq

/-- Builds the full state of a room.  Callers have already checked access. -/
def stateOf (s : Snapshot) (answered : Answered) (discordChannelId discordGuildId : Snowflake)
    (channelName : String) : Option RoomState :=
  if answered.listByChannel then
    some
      { discordChannelId := discordChannelId
        discordGuildId := discordGuildId
        channelName := channelName
        participants :=
          (Presence.listByChannel s.users discordChannelId s.presence).map
            ParticipantRow.toWire }
  else
    none

/-- The voice channel the user is in, if they may also enter its room. -/
def voiceRoom (s : Snapshot) (discordUserId : UInt64) : Option Snowflake :=
  match s.replica.voiceChannelOf discordUserId with
  | none => none
  | some channel => if s.replica.mayJoin discordUserId channel then i64TryFrom channel else none

/-- The voice channel, and else the room of the presence table. -/
def roomChannel (s : Snapshot) (answered : Answered) (userId : Uuid)
    (discordUserId : Option UInt64) : Option Snowflake :=
  match discordUserId.bind (voiceRoom s) with
  | some channel => some channel
  | none => if answered.channelOf then Presence.channelOf userId s.presence else none

/-- The room the client should be in the moment it connects. -/
def currentRoom (s : Snapshot) (answered : Answered) (userId : Uuid)
    (discordUserId : Option UInt64) : Option RoomState :=
  match roomChannel s answered userId discordUserId with
  | none => none
  | some channel =>
      match (u64TryFrom channel).bind s.replica.channelInfo with
      | none => none
      | some (guild, name) => stateOf s answered channel (i64OrDefault guild) name

/-- The user of a READY for an account that is gone. -/
def placeholderUser (userId : Uuid) : CurrentUser where
  id := userId
  discordUserId := 0
  username := ""
  displayName := none
  avatarUrl := none
  createdAt := 0

/-- The row as the client sees it. -/
def toCurrent (s : Snapshot) (userId : Uuid) (user : UserRow) : CurrentUser where
  id := userId
  discordUserId := user.discordUserId
  username := user.username
  displayName := user.displayName
  avatarUrl := user.avatarUrl
  createdAt := s.createdAt userId

/-- The account, as the query finds it. -/
def account (s : Snapshot) (answered : Answered) (userId : Uuid) : Option UserRow :=
  if answered.findById then s.users.lookup userId else none

/-- `ready::build`. -/
def build (s : Snapshot) (answered : Answered) (heartbeatIntervalMs : Nat)
    (userId sessionId : Uuid) : Protocol.Ready :=
  match account s answered userId with
  | none => ⟨sessionId, placeholderUser userId, none, heartbeatIntervalMs⟩
  | some user =>
      { sessionId := sessionId
        user := toCurrent s userId user
        room := currentRoom s answered userId (u64TryFrom user.discordUserId)
        heartbeatIntervalMs := heartbeatIntervalMs }

/-! ## The room that is handed out -/

/-- The account may join the room of a channel. -/
def MayJoinRoom (s : Snapshot) (user : UserRow) (discordChannelId : Snowflake) : Prop :=
  ∃ discordUser channel permissions,
    u64TryFrom user.discordUserId = some discordUser ∧
      u64TryFrom discordChannelId = some channel ∧
      s.replica.permissions discordUser channel = some permissions ∧
      permissions.canJoinRoom = true

/-- Every READY that carries a room carries one its user may join. -/
def HandsOutAdmitted (s : Snapshot) (answered : Answered) (heartbeatIntervalMs : Nat)
    (userId sessionId : Uuid) : Prop :=
  ∀ user room, s.users.lookup userId = some user →
    (build s answered heartbeatIntervalMs userId sessionId).room = some room →
    MayJoinRoom s user room.discordChannelId

/-- Discord has the account in a voice channel whose room they may join. -/
def InAdmittedVoice (s : Snapshot) (user : UserRow) : Prop :=
  ∃ discordUser channel discordChannelId,
    u64TryFrom user.discordUserId = some discordUser ∧
      s.replica.voiceChannelOf discordUser = some channel ∧
      s.replica.mayJoin discordUser channel = true ∧
      i64TryFrom channel = some discordChannelId

/-- The row of the user is in a room of a mirrored channel. -/
def PresentIn (s : Snapshot) (userId : Uuid) (discordChannelId : Snowflake) : Prop :=
  Presence.channelOf userId s.presence = some discordChannelId ∧
    ∃ channel, u64TryFrom discordChannelId = some channel ∧
      s.replica.channelInfo channel ≠ none

section HandsOut

variable {s : Snapshot} {answered : Answered} {heartbeatIntervalMs : Nat}
  {userId sessionId : Uuid} {user : UserRow} {room : RoomState} {channel : Snowflake}
  {discordUser : UInt64}

theorem mayJoinRoom_iff :
    MayJoinRoom s user channel ↔
      ∃ discordUser c, u64TryFrom user.discordUserId = some discordUser ∧
        u64TryFrom channel = some c ∧ s.replica.mayJoin discordUser c = true := by
  have hjoin : ∀ d c, s.replica.mayJoin d c = true ↔
      ∃ p, s.replica.permissions d c = some p ∧ p.canJoinRoom = true := by
    intro d c
    unfold Replica.mayJoin
    cases s.replica.permissions d c with
    | none => simp
    | some p => simp
  simp only [MayJoinRoom, hjoin]
  constructor
  · rintro ⟨d, c, p, hd, hc, hp⟩
    exact ⟨d, c, hd, hc, p, hp⟩
  · rintro ⟨d, c, hd, hc, p, hp⟩
    exact ⟨d, c, p, hd, hc, hp⟩

/-- The voice map answers with a room the account may join, or not at all. -/
theorem voiceRoom_eq_some_iff :
    voiceRoom s discordUser = some channel ↔
      ∃ c, s.replica.voiceChannelOf discordUser = some c ∧
        s.replica.mayJoin discordUser c = true ∧ i64TryFrom c = some channel := by
  unfold voiceRoom
  cases s.replica.voiceChannelOf discordUser with
  | none => simp
  | some c =>
      by_cases hmay : s.replica.mayJoin discordUser c = true
      · simp [hmay]
      · simp [hmay]

/-- A READY hands out the room of the channel that was chosen, if the replica has
the channel and the database answers. -/
theorem handsOut_iff (huser : s.users.lookup userId = some user) :
    (∃ room, (build s answered heartbeatIntervalMs userId sessionId).room = some room ∧
        room.discordChannelId = channel) ↔
      answered.findById = true ∧ answered.listByChannel = true ∧
        roomChannel s answered userId (u64TryFrom user.discordUserId) = some channel ∧
        ∃ c, u64TryFrom channel = some c ∧ s.replica.channelInfo c ≠ none := by
  unfold build account currentRoom
  cases hfind : answered.findById with
  | false => simp
  | true =>
      simp only [if_true, huser, true_and]
      cases roomChannel s answered userId (u64TryFrom user.discordUserId) with
      | none => simp
      | some chosen =>
          cases hc : u64TryFrom chosen with
          | none =>
              simp only [hc, Option.bind_none, Option.some.injEq]
              constructor
              · rintro ⟨room, hroom, -⟩
                cases hroom
              · rintro ⟨-, rfl, c, hc', -⟩
                rw [hc] at hc'
                cases hc'
          | some c =>
              cases hinfo : s.replica.channelInfo c with
              | none =>
                  simp only [hc, hinfo, Option.bind_some, Option.some.injEq]
                  constructor
                  · rintro ⟨room, hroom, -⟩
                    cases hroom
                  · rintro ⟨-, rfl, c', hc', hinfo'⟩
                    rw [hc] at hc'
                    obtain rfl := Option.some.inj hc'
                    exact absurd hinfo hinfo'
              | some info =>
                  obtain ⟨guild, name⟩ := info
                  simp only [hc, hinfo, Option.bind_some, Option.some.injEq, stateOf]
                  cases answered.listByChannel with
                  | false => simp
                  | true =>
                      simp only [if_true, Option.some.injEq, true_and]
                      constructor
                      · rintro ⟨room, rfl, rfl⟩
                        exact ⟨rfl, c, hc, by simp [hinfo]⟩
                      · rintro ⟨rfl, -⟩
                        exact ⟨_, rfl, rfl⟩

/-- The chosen channel is the admitted voice channel, if there is one. -/
theorem mayJoinRoom_of_inAdmittedVoice (hvoice : InAdmittedVoice s user)
    (hchosen : roomChannel s answered userId (u64TryFrom user.discordUserId) = some channel)
    {c : UInt64} (hc : u64TryFrom channel = some c) : MayJoinRoom s user channel := by
  obtain ⟨discordUser, voice, channel', hdiscord, hof, hmay, hconverts⟩ := hvoice
  have hroom : voiceRoom s discordUser = some channel' :=
    voiceRoom_eq_some_iff.mpr ⟨voice, hof, hmay, hconverts⟩
  rw [roomChannel, hdiscord, Option.bind_some, hroom] at hchosen
  obtain rfl : channel' = channel := Option.some.inj hchosen
  obtain rfl : c = voice := eq_of_i64TryFrom hconverts hc
  exact mayJoinRoom_iff.mpr ⟨discordUser, c, hdiscord, hc, hmay⟩

/-- Otherwise it is the room of the presence row. -/
theorem roomChannel_of_not_inAdmittedVoice (hvoice : ¬ InAdmittedVoice s user) :
    roomChannel s answered userId (u64TryFrom user.discordUserId) =
      if answered.channelOf then Presence.channelOf userId s.presence else none := by
  have hnone : (u64TryFrom user.discordUserId).bind (voiceRoom s) = none := by
    cases hdiscord : u64TryFrom user.discordUserId with
    | none => rfl
    | some discordUser =>
        rw [Option.bind_some, Option.eq_none_iff_forall_ne_some]
        intro channel hroom
        obtain ⟨c, hof, hmay, hconverts⟩ := voiceRoom_eq_some_iff.mp hroom
        exact hvoice ⟨discordUser, c, channel, hdiscord, hof, hmay, hconverts⟩
  rw [roomChannel, hnone]

end HandsOut

/-- The room of a READY is one its user may join if and only if the presence table
says so where it is asked: whenever Discord has the user in no voice channel they
may join, and their row is in a room of a mirrored channel, the replica lets them
join that room. -/
theorem handsOutAdmitted_iff (s : Snapshot) (answered : Answered) (heartbeatIntervalMs : Nat)
    (userId sessionId : Uuid) :
    HandsOutAdmitted s answered heartbeatIntervalMs userId sessionId ↔
      ∀ user channel, s.users.lookup userId = some user →
        answered = ⟨true, true, true⟩ → ¬ InAdmittedVoice s user →
        PresentIn s userId channel → MayJoinRoom s user channel := by
  constructor
  · rintro hadmitted user channel huser rfl hvoice ⟨hpresent, c, hc, hinfo⟩
    have hchosen : roomChannel s ⟨true, true, true⟩ userId (u64TryFrom user.discordUserId) =
        some channel := by
      rw [roomChannel_of_not_inAdmittedVoice hvoice, if_pos rfl, hpresent]
    have hhanded : ∃ room,
        (build s ⟨true, true, true⟩ heartbeatIntervalMs userId sessionId).room = some room ∧
          room.discordChannelId = channel :=
      (handsOut_iff huser).mpr ⟨rfl, rfl, hchosen, c, hc, hinfo⟩
    obtain ⟨room, hroom, rfl⟩ := hhanded
    exact hadmitted user room huser hroom
  · intro hrow user room huser hroom
    obtain ⟨hfind, hlist, hchosen, c, hc, hinfo⟩ := (handsOut_iff huser).mp ⟨room, hroom, rfl⟩
    by_cases hvoice : InAdmittedVoice s user
    · exact mayJoinRoom_of_inAdmittedVoice hvoice hchosen hc
    · rw [roomChannel_of_not_inAdmittedVoice hvoice] at hchosen
      split at hchosen
      · next hof =>
          have hanswered : answered = ⟨true, true, true⟩ := by
            cases answered
            simp_all
          exact hrow user _ huser hanswered hvoice ⟨hchosen, c, hc, hinfo⟩
      · cases hchosen

/-- A guild with one voice channel that only its owner may join, and the row of a
member in that room. -/
def staleRow : Snapshot where
  replica := Replica.replaceGuild
    { id := 100
      ownerId := 1
      roles := [⟨100, 0⟩]
      members := ((∅ : Table UInt64 (List UInt64)).insert 1 [] :
        Table UInt64 (List UInt64)).insert 30 []
      channels := (∅ : Table UInt64 ChannelData).insert 5 ⟨5, "sala", []⟩
      voice := ∅ } (Replica.new 60)
  users := (∅ : Users).insert 3 ⟨30, "ana", none, none⟩
  createdAt := fun _ => 0
  presence := Presence.join 10 3 5 ∅

/-- The room the member lost is handed out again, from their row. -/
theorem fallback_is_not_checked :
    ¬ ∀ s answered heartbeatIntervalMs userId sessionId,
      HandsOutAdmitted s answered heartbeatIntervalMs userId sessionId := by
  intro hclaim
  obtain ⟨discordUser, channel, hdiscord, hchannel, hmay⟩ := mayJoinRoom_iff.mp
    (hclaim staleRow ⟨true, true, true⟩ 30000 3 1 ⟨30, "ana", none, none⟩
      ⟨5, 100, "sala", [⟨⟨3, 30, "ana", none, none⟩, []⟩]⟩ (by decide) (by decide))
  obtain rfl : (30 : UInt64) = discordUser := Option.some.inj hdiscord
  obtain rfl : (5 : UInt64) = channel := Option.some.inj hchannel
  revert hmay
  decide

end Ready
end Gateway
end Ldktela
