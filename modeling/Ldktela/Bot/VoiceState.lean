import Ldktela.Auth.Exchange
import Ldktela.Bot.Incremental
import Ldktela.Gateway.Ready

/-!
# Voice states

`voice_state_update` of `crates/bot/src/handler.rs`, with `announce_room` and
`announce_leave`: Discord says where the user is, and the client follows.

The database calls succeed.  `voiceStateUpdate_tells` says what the handler does to the
replica, and `toUser_voiceStateUpdate` what it publishes to one user.
-/

namespace Ldktela
namespace Bot

open Protocol
open Discord
open Db
open Gateway

/-- A voice state of the library, cut down to what the handler reads. -/
structure VoiceState where
  guildId : Option UInt64
  userId : UInt64
  channelId : Option UInt64
deriving DecidableEq

/-- The voice channel a voice state points at, if any. -/
def voiceChannel (channelId : Option UInt64) : Option Snowflake :=
  channelId.map i64OrDefault

/-- Every query is answered. -/
def everything : Ready.Answered := ⟨true, true, true⟩

/-- What a READY reads. -/
def AppState.snapshot (createdAt : Uuid → Timestamp) (st : AppState) : Ready.Snapshot :=
  ⟨st.replica, st.users, createdAt, st.presence⟩

namespace Handler

def publishToUser (userId : Uuid) (event : DispatchEvent) (st : AppState) : AppState :=
  { st with published := st.published ++ [(userId, event)] }

/-- Whoever never paired has no session to tell. -/
def findUser (discordUserId : UInt64) (st : AppState) : Option Uuid :=
  (i64TryFrom discordUserId).bind fun id => Auth.Pair.findByDiscordId id st.users

/-- Tell one user's client that it may now open a room. -/
def announceRoom (discordUserId : UInt64) (discordChannelId : Snowflake) (st : AppState) :
    AppState :=
  match findUser discordUserId st with
  | none => st
  | some userId =>
      match u64TryFrom discordChannelId with
      | none => st
      | some channel =>
          if st.replica.mayJoin discordUserId channel then
            match st.replica.channelInfo channel with
            | none => st
            | some (guild, name) =>
                match Ready.stateOf (st.snapshot fun _ => 0) everything discordChannelId
                    (i64OrDefault guild) name with
                | none => st
                | some room => publishToUser userId (.roomJoin room) st
          else
            st

/-- Tell one user's client that the room is over for them. -/
def announceLeave (discordUserId : UInt64) (discordChannelId : Snowflake) (st : AppState) :
    AppState :=
  match findUser discordUserId st with
  | none => st
  | some userId => publishToUser userId (.roomLeave ⟨discordChannelId, .left⟩) st

/-- The replica after a voice state was recorded. -/
def recordVoice (new : VoiceState) (r : Replica) : Replica :=
  match new.guildId with
  | none => r
  | some guild => Replica.setVoice guild new.userId new.channelId r

/-- `old` is what the cache of the library held before. -/
def voiceStateUpdate (old : Option VoiceState) (new : VoiceState) (st : AppState) : AppState :=
  let st := onReplica (recordVoice new) st
  let before := old.bind fun s => voiceChannel s.channelId
  let after := voiceChannel new.channelId
  if before = after then
    -- muted, deafened or streaming at Discord; none of it is ours
    st
  else
    let st :=
      match before with
      | none => st
      | some left => announceLeave new.userId left st
    match after with
    | none => st
    | some joined => announceRoom new.userId joined st

end Handler

/-! ## What is published to one user -/

/-- The events among `published` that are for one user. -/
def toUser (userId : Uuid) (published : List (Uuid × DispatchEvent)) : List DispatchEvent :=
  published.filterMap fun p => if p.1 = userId then some p.2 else none

@[simp]
theorem toUser_append (userId : Uuid) (l m : List (Uuid × DispatchEvent)) :
    toUser userId (l ++ m) = toUser userId l ++ toUser userId m :=
  List.filterMap_append

theorem toUser_singleton (userId other : Uuid) (event : DispatchEvent) :
    toUser userId [(other, event)] = if other = userId then [event] else [] := by
  unfold toUser
  split
  · next h => simp [h]
  · next h => simp [h]

/-- An account of Discord that has paired, and the user it belongs to. -/
structure Account (users : Users) where
  userId : Uuid
  profile : UserRow
  discordUser : UInt64
  found : users.lookup userId = some profile
  converts : u64TryFrom profile.discordUserId = some discordUser
  /-- The column is unique. -/
  unique : ∀ other row, users.lookup other = some row →
    row.discordUserId = profile.discordUserId → other = userId

namespace Account

variable {users : Users} (account : Account users)

theorem findByDiscordId_eq :
    Auth.Pair.findByDiscordId account.profile.discordUserId users = some account.userId := by
  unfold Auth.Pair.findByDiscordId
  cases hfound : users.entries.find? fun e =>
      e.2.discordUserId = account.profile.discordUserId with
  | none =>
      have hmem := AList.mem_entries_iff.mpr account.found
      have hne := List.find?_eq_none.mp hfound _ hmem
      simp at hne
  | some e =>
      obtain ⟨other, row⟩ := e
      have hsame : row.discordUserId = account.profile.discordUserId := by
        simpa using List.find?_some hfound
      have hrow := AList.mem_entries_iff.mp (List.mem_of_find?_eq_some hfound)
      rw [Option.map_some, account.unique other row hrow hsame]

/-- The user of the account is found by it, and by no other one. -/
theorem findUser_eq_iff {st : AppState} (husers : st.users = users) (discordUserId : UInt64) :
    Handler.findUser discordUserId st = some account.userId ↔
      discordUserId = account.discordUser := by
  unfold Handler.findUser
  rw [husers]
  constructor
  · intro h
    obtain ⟨id, hid, hfound⟩ := Option.bind_eq_some_iff.mp h
    obtain ⟨⟨other, row⟩, he, heq⟩ := Option.map_eq_some_iff.mp hfound
    obtain rfl : other = account.userId := heq
    have hrow := AList.mem_entries_iff.mp (List.mem_of_find?_eq_some he)
    have hprofile : row = account.profile := Option.some.inj (hrow.symm.trans account.found)
    have hsame : row.discordUserId = id := by simpa using List.find?_some he
    rw [← hsame, hprofile] at hid
    exact (eq_of_i64TryFrom hid account.converts).symm
  · rintro rfl
    rw [i64TryFrom_of_u64TryFrom account.converts, Option.bind_some, account.findByDiscordId_eq]

end Account

namespace Handler

/-- The account may enter the room of the channel. -/
def admits (r : Replica) (discordUser : UInt64) (discordChannelId : Snowflake) : Bool :=
  match u64TryFrom discordChannelId with
  | none => false
  | some channel => r.mayJoin discordUser channel

/-- An announcement leaves everything but the events alone. -/
structure OnlyTells (st st' : AppState) : Prop where
  replica_eq : st'.replica = st.replica
  users_eq : st'.users = st.users
  presence_eq : st'.presence = st.presence

namespace OnlyTells

variable {st st' st'' : AppState}

theorem refl (st : AppState) : OnlyTells st st := ⟨rfl, rfl, rfl⟩

theorem trans (h : OnlyTells st st') (h' : OnlyTells st' st'') : OnlyTells st st'' :=
  ⟨h'.replica_eq.trans h.replica_eq, h'.users_eq.trans h.users_eq,
    h'.presence_eq.trans h.presence_eq⟩

end OnlyTells

theorem announceLeave_tells (discordUserId : UInt64) (discordChannelId : Snowflake)
    (st : AppState) : OnlyTells st (announceLeave discordUserId discordChannelId st) := by
  unfold announceLeave
  split
  · exact OnlyTells.refl st
  · exact ⟨rfl, rfl, rfl⟩

theorem announceRoom_tells (discordUserId : UInt64) (discordChannelId : Snowflake)
    (st : AppState) : OnlyTells st (announceRoom discordUserId discordChannelId st) := by
  unfold announceRoom
  split
  · exact OnlyTells.refl st
  · split
    · exact OnlyTells.refl st
    · split
      · split
        · exact OnlyTells.refl st
        · split
          · exact OnlyTells.refl st
          · exact ⟨rfl, rfl, rfl⟩
      · exact OnlyTells.refl st

/-- The first half of what a voice update tells. -/
def tellLeft (discordUserId : UInt64) (before : Option Snowflake) (st : AppState) : AppState :=
  match before with
  | none => st
  | some left => announceLeave discordUserId left st

theorem tellLeft_tells (discordUserId : UInt64) (before : Option Snowflake) (st : AppState) :
    OnlyTells st (tellLeft discordUserId before st) := by
  cases before with
  | none => exact OnlyTells.refl st
  | some left => exact announceLeave_tells discordUserId left st

/-- A voice update writes where the user is, and tells. -/
theorem voiceStateUpdate_tells (old : Option VoiceState) (new : VoiceState) (st : AppState) :
    OnlyTells (onReplica (recordVoice new) st) (voiceStateUpdate old new st) := by
  unfold voiceStateUpdate
  dsimp only
  split
  · exact OnlyTells.refl _
  · have hleft := tellLeft_tells new.userId (old.bind fun s => voiceChannel s.channelId)
      (onReplica (recordVoice new) st)
    split
    · exact hleft
    · exact hleft.trans (announceRoom_tells new.userId _ _)

section Announcements

variable {users : Users} (account : Account users) {st : AppState}

theorem toUser_announceLeave (husers : st.users = users) (discordUserId : UInt64)
    (discordChannelId : Snowflake) :
    toUser account.userId (announceLeave discordUserId discordChannelId st).published =
      toUser account.userId st.published ++
        if discordUserId = account.discordUser then
          [.roomLeave ⟨discordChannelId, .left⟩]
        else
          [] := by
  have hiff := account.findUser_eq_iff husers discordUserId
  unfold announceLeave
  split
  · next hnone =>
      rw [hnone] at hiff
      simp [← hiff]
  · next userId hfound =>
      rw [hfound, Option.some.injEq] at hiff
      rw [publishToUser, toUser_append, toUser_singleton]
      simp only [hiff]

/-- A room is announced to the user exactly if they may enter it. -/
theorem toUser_announceRoom (husers : st.users = users) (discordUserId : UInt64)
    (discordChannelId : Snowflake) :
    ∃ told, toUser account.userId (announceRoom discordUserId discordChannelId st).published =
        toUser account.userId st.published ++ told ∧
      if discordUserId = account.discordUser ∧
          admits st.replica discordUserId discordChannelId = true then
        ∃ room : RoomState, room.discordChannelId = discordChannelId ∧ told = [.roomJoin room]
      else
        told = [] := by
  have hiff := account.findUser_eq_iff husers discordUserId
  unfold announceRoom admits
  split
  · next hnone =>
      rw [hnone] at hiff
      exact ⟨[], by simp [← hiff]⟩
  · next userId hfound =>
      rw [hfound, Option.some.injEq] at hiff
      split
      · next hc => exact ⟨[], by simp⟩
      · next channel hc =>
          split
          · next hmay =>
              obtain ⟨⟨guild, name⟩, hinfo⟩ :=
                Option.ne_none_iff_exists'.mp (Replica.channelInfo_of_mayJoin hmay)
              rw [hinfo]
              refine ⟨_, toUser_append _ _ _, ?_⟩
              rw [toUser_singleton]
              by_cases hd : userId = account.userId
              · rw [if_pos ⟨hiff.mp hd, hmay⟩, if_pos hd]
                exact ⟨_, rfl, rfl⟩
              · rw [if_neg (fun h => hd (hiff.mpr h.1)), if_neg hd]
          · next hmay => exact ⟨[], by simp [hmay]⟩

/-- Recording a voice state changes nobody's access. -/
theorem mayJoin_recordVoice (new : VoiceState) (r : Replica) (discordUser channel : UInt64) :
    (recordVoice new r).mayJoin discordUser channel = r.mayJoin discordUser channel := by
  unfold recordVoice
  split
  · rfl
  · exact Replica.mayJoin_setVoice

theorem admits_recordVoice (new : VoiceState) (r : Replica) (discordUser : UInt64)
    (discordChannelId : Snowflake) :
    admits (recordVoice new r) discordUser discordChannelId =
      admits r discordUser discordChannelId := by
  unfold admits
  split
  · rfl
  · exact mayJoin_recordVoice new r discordUser _

/-- The channel that a voice update reports as left. -/
def leftBy (old : Option VoiceState) : Option Snowflake :=
  old.bind fun s => voiceChannel s.channelId

/-- What the user is told about the channel they left. -/
def leaving : Option Snowflake → List DispatchEvent
  | none => []
  | some left => [.roomLeave ⟨left, .left⟩]

/-- What a user is told about the channel they joined: the room, if they may enter it. -/
def Joining (r : Replica) (discordUser : UInt64) (after : Option Snowflake)
    (told : List DispatchEvent) : Prop :=
  if after.any (admits r discordUser) then
    ∃ room : RoomState, after = some room.discordChannelId ∧ told = [.roomJoin room]
  else
    told = []

theorem toUser_tellLeft (husers : st.users = users) (discordUserId : UInt64)
    (before : Option Snowflake) :
    toUser account.userId (tellLeft discordUserId before st).published =
      toUser account.userId st.published ++
        if discordUserId = account.discordUser then leaving before else [] := by
  cases before with
  | none => simp [tellLeft, leaving]
  | some left => exact toUser_announceLeave account husers discordUserId left

/-- A voice update of the user tells them which room is over and which one they may open.
One of somebody else, or one that moves nobody, tells them nothing. -/
theorem toUser_voiceStateUpdate (husers : st.users = users) (old : Option VoiceState)
    (new : VoiceState) :
    ∃ told, toUser account.userId (voiceStateUpdate old new st).published =
        toUser account.userId st.published ++ told ∧
      if new.userId = account.discordUser ∧ leftBy old ≠ voiceChannel new.channelId then
        ∃ joining, told = leaving (leftBy old) ++ joining ∧
          Joining st.replica account.discordUser (voiceChannel new.channelId) joining
      else
        told = [] := by
  unfold voiceStateUpdate
  dsimp only
  rw [show (old.bind fun s => voiceChannel s.channelId) = leftBy old from rfl]
  split
  · next hsame =>
      exact ⟨[], (List.append_nil _).symm, by rw [if_neg (fun h => h.2 hsame)]⟩
  · next hmoved =>
      have hleft := tellLeft_tells new.userId (leftBy old) (onReplica (recordVoice new) st)
      have htold := @toUser_tellLeft _ account (onReplica (recordVoice new) st) husers
        new.userId (leftBy old)
      cases hafter : voiceChannel new.channelId with
      | none =>
          refine ⟨_, htold, ?_⟩
          rw [hafter] at hmoved
          by_cases hd : new.userId = account.discordUser
          · rw [if_pos ⟨hd, hmoved⟩, if_pos hd]
            exact ⟨[], (List.append_nil _).symm, by simp [Joining]⟩
          · rw [if_neg (fun h => hd h.1), if_neg hd]
      | some joined =>
          obtain ⟨room, hroom, hif⟩ := toUser_announceRoom account
            (hleft.users_eq.trans husers) new.userId joined
          rw [hleft.replica_eq] at hif
          rw [hafter] at hmoved
          refine ⟨_, hroom.trans (by rw [htold, List.append_assoc]; rfl), ?_⟩
          by_cases hd : new.userId = account.discordUser
          · rw [if_pos ⟨hd, hmoved⟩, if_pos hd]
            refine ⟨room, rfl, ?_⟩
            -- where somebody is does not change where they may be
            have hadmits : admits (onReplica (recordVoice new) st).replica new.userId joined =
                admits st.replica account.discordUser joined := by
              rw [hd]
              exact admits_recordVoice new st.replica account.discordUser joined
            rw [hadmits] at hif
            unfold Joining
            by_cases hmay : admits st.replica account.discordUser joined = true
            · rw [if_pos ⟨hd, hmay⟩] at hif
              obtain ⟨state, hchannel, hstate⟩ := hif
              rw [if_pos (by simpa using hmay)]
              exact ⟨state, by rw [hchannel], hstate⟩
            · rw [if_neg (fun h => hmay h.2)] at hif
              rw [if_neg (by simpa using hmay)]
              exact hif
          · rw [if_neg (fun h => hd h.1), if_neg hd]
            rw [if_neg (fun h => hd h.1)] at hif
            rw [hif]
            rfl

end Announcements

end Handler

end Bot
end Ldktela
