import Ldktela.Bot.VoiceState
import Ldktela.Desktop.RoomView

/-!
# The room the client follows

Two ways to the same answer.  A READY looks the room up: the voice map, the permissions,
and else the presence row (`crates/api/src/gateway/ready.rs`).  A connected client is told
what changes: the handler announces voice transitions, the sweeps evict
(`crates/bot/src/handler.rs`, `revoke.rs`), and `applyRoomEvent` folds it
(`desktop/src/store/room.ts`).

The events are handled one at a time, and before the next one the webhooks of the room
that the client shows have been handled.  `follows_iff` says along which runs the two ways
agree: nothing tells a user about an access that they gain while they sit in the channel.
-/

namespace Ldktela
namespace Bot

open Protocol
open Discord
open Db
open Gateway
open Desktop
open Revoke
open Runs

/-- The events that move people or change what they may do. -/
inductive DiscordEvent where
  | guildMemberAddition (member : Member)
  | guildMemberUpdate (new : Option Member)
  | guildMemberRemoval (guildId userId : UInt64)
  | guildRoleCreate (role : Role)
  | guildRoleUpdate (role : Role)
  | guildRoleDelete (guildId roleId : UInt64)
  | channelCreate (channel : GuildChannel)
  | channelUpdate (new : GuildChannel)
  | channelDelete (channel : GuildChannel)
  | voiceStateUpdate (old : Option VoiceState) (new : VoiceState)

namespace Handler

def handleEvent : DiscordEvent → AppState → AppState
  | .guildMemberAddition member => guildMemberAddition member
  | .guildMemberUpdate new => guildMemberUpdate new
  | .guildMemberRemoval guildId userId => guildMemberRemoval guildId userId
  | .guildRoleCreate role => guildRoleCreate role
  | .guildRoleUpdate role => guildRoleUpdate role
  | .guildRoleDelete guildId roleId => guildRoleDelete guildId roleId
  | .channelCreate channel => refreshChannel channel
  | .channelUpdate new => refreshChannel new
  | .channelDelete channel => channelDelete channel
  | .voiceStateUpdate old new => voiceStateUpdate old new

/-- A voice channel as the mirror takes it; other channels are left out. -/
def mirrorChannel (channel : GuildChannel) (r : Replica) : Replica :=
  if isRoomChannel channel then
    Replica.upsertChannel channel.guildId (channelData channel) r
  else
    r

/-- The replica once an event is recorded. -/
def recorded : DiscordEvent → Replica → Replica
  | .guildMemberAddition member => Replica.upsertMember member.guildId member.userId member.roles
  | .guildMemberUpdate none => id
  | .guildMemberUpdate (some member) =>
      Replica.upsertMember member.guildId member.userId member.roles
  | .guildMemberRemoval guildId userId => Replica.removeMember guildId userId
  | .guildRoleCreate role => Replica.upsertRole role.guildId (roleRef role)
  | .guildRoleUpdate role => Replica.upsertRole role.guildId (roleRef role)
  | .guildRoleDelete guildId roleId => Replica.removeRole guildId roleId
  | .channelCreate channel => mirrorChannel channel
  | .channelUpdate new => mirrorChannel new
  | .channelDelete channel => Replica.removeChannel channel.guildId channel.id
  | .voiceStateUpdate _ new => recordVoice new

end Handler

/-! ## What a sweep tells the people it evicts -/

/-- The row of a user through a sweep: it stays and nothing is said, or it goes and
they are told that this room is over. -/
inductive Swept (userId : Uuid) (st st' : AppState) : Prop where
  | stays (row : st'.presence.lookup userId = st.presence.lookup userId)
      (told : toUser userId st'.published = toUser userId st.published)
  | evicted (row : PresenceRow) (told : List DispatchEvent)
      (present : st.presence.lookup userId = some row)
      (gone : st'.presence.lookup userId = none)
      (published : toUser userId st'.published = toUser userId st.published ++ told)
      (some : told ≠ [])
      (leave : ∀ event ∈ told, event = .roomLeave ⟨row.discordChannelId, .accessRevoked⟩)

namespace Swept

variable {userId : Uuid} {st₀ st st' : AppState} {c : Snowflake}

theorem refl (userId : Uuid) (st : AppState) : Swept userId st st := .stays rfl rfl

theorem trans (h : Swept userId st₀ st) (h' : Swept userId st st') : Swept userId st₀ st' := by
  cases h with
  | stays row told =>
      cases h' with
      | stays row' told' => exact .stays (row'.trans row) (told'.trans told)
      | evicted r l present gone published some leave =>
          exact .evicted r l (row.symm.trans present) gone (by rw [published, told]) some leave
  | evicted r l present gone published some leave =>
      cases h' with
      | stays row' told' =>
          exact .evicted r l present (row'.trans gone) (told'.trans published) some leave
      | evicted r' l' present' gone' published' some' leave' =>
          rw [gone] at present'
          cases present'

/-- One participant of a room, listed before anybody was evicted. -/
theorem recheck (h : Swept userId st₀ st) (channel : UInt64) (p : ParticipantRow)
    (hlisted : p.userId = userId → ∃ row, st₀.presence.lookup userId = some row ∧
      row.discordChannelId = c) : Swept userId st₀ (recheck c channel st p) := by
  unfold Revoke.recheck
  split
  · exact h
  · split
    · exact h
    · by_cases hp : p.userId = userId
      · obtain ⟨row, hrow, rfl⟩ := hlisted hp
        have hgone : (evict row.discordChannelId p.userId st).presence.lookup userId = none := by
          rw [evict, Presence.lookup_leave, if_pos hp.symm]
        have hsaid : toUser userId (evict row.discordChannelId p.userId st).published =
            toUser userId st.published ++
              [.roomLeave ⟨row.discordChannelId, .accessRevoked⟩] := by
          rw [evict, toUser_append, toUser_singleton, if_pos hp]
        cases h with
        | stays same told =>
            refine .evicted row _ hrow hgone (hsaid.trans (by rw [told])) (by simp) ?_
            exact fun event hevent => List.mem_singleton.mp hevent
        | evicted r l present gone published some leave =>
            obtain rfl := Option.some.inj (present.symm.trans hrow)
            refine .evicted r _ present hgone
              (hsaid.trans (by rw [published, List.append_assoc])) (by simp) ?_
            intro event hevent
            rcases List.mem_append.mp hevent with hl | hlast
            · exact leave event hl
            · exact List.mem_singleton.mp hlast
      · refine h.trans (.stays ?_ ?_)
        · rw [evict, Presence.lookup_leave, if_neg (fun heq => hp heq.symm)]
        · rw [evict, toUser_append, toUser_singleton, if_neg hp, List.append_nil]

theorem sweepChannel (userId : Uuid) (c : Snowflake) (st : AppState) :
    Swept userId st (sweepChannel c st) := by
  have hall : ∀ (channel : UInt64) (l : List ParticipantRow) (st' : AppState),
      Swept userId st st' → (∀ p ∈ l, p ∈ Presence.listByChannel st.users c st.presence) →
        Swept userId st (l.foldl (Revoke.recheck c channel) st') := by
    intro channel l
    induction l with
    | nil => exact fun _ h _ => h
    | cons p l ih =>
        intro st' h hlisted
        refine ih _ (h.recheck channel p ?_) fun q hq => hlisted q (List.mem_cons_of_mem p hq)
        rintro rfl
        obtain ⟨hrow, hchannel, -⟩ :=
          Presence.mem_listByChannel.mp (hlisted p List.mem_cons_self)
        exact ⟨p.row, hrow, hchannel⟩
  unfold Revoke.sweepChannel
  split
  · exact refl userId st
  · split
    · exact refl userId st
    · next channel _ => exact hall channel _ st (refl userId st) fun _ hp => hp

theorem sweepGuild (userId : Uuid) (g : UInt64) (st : AppState) :
    Swept userId st (sweepGuild g st) := by
  have hall : ∀ (l : List Snowflake) (st' : AppState), Swept userId st st' →
      Swept userId st (l.foldl (sweepIfIn g) st') := by
    intro l
    induction l with
    | nil => exact fun _ h => h
    | cons c l ih =>
        intro st' h
        refine ih _ (h.trans ?_)
        unfold sweepIfIn
        split
        · exact refl userId st'
        · split
          · exact sweepChannel userId c st'
          · exact refl userId st'
  exact hall _ st (refl userId st)

end Swept

/-! ## One event -/

/-- The channel is one of the mirror's. -/
def Known (r : Replica) (discordChannelId : Snowflake) : Prop :=
  ∃ channel, u64TryFrom discordChannelId = some channel ∧ r.channelInfo channel ≠ none

/-- What an event that moves nobody does, besides its write. -/
structure Rechecks (userId : Uuid) (event : DiscordEvent) (st : AppState) : Prop where
  same : SameWorld (Handler.onReplica (Handler.recorded event) st) (Handler.handleEvent event st)
  swept : Swept userId (Handler.onReplica (Handler.recorded event) st)
    (Handler.handleEvent event st)
  /-- Only who is barred goes. -/
  kept : ∀ row, st.presence.lookup userId = some row →
    barred (Handler.onReplica (Handler.recorded event) st) userId row = false →
      (Handler.handleEvent event st).presence.lookup userId = some row

namespace Rechecks

variable {userId : Uuid} {st : AppState}

theorem of_unswept {event : DiscordEvent} (h : Handler.handleEvent event st =
    Handler.onReplica (Handler.recorded event) st) : Rechecks userId event st where
  same := h ▸ SameWorld.refl _
  swept := h ▸ Swept.refl userId _
  kept row hrow _ := by
    rw [h]
    exact hrow

theorem of_sweepGuild {event : DiscordEvent} {g : UInt64} (h : Handler.handleEvent event st =
    sweepGuild g (Handler.onReplica (Handler.recorded event) st)) : Rechecks userId event st := by
  obtain ⟨hsame, hlookup⟩ := sweepGuild_spec g (Handler.onReplica (Handler.recorded event) st)
  rw [← h] at hsame hlookup
  refine ⟨hsame, h ▸ Swept.sweepGuild userId g _, fun row hrow hbarred => ?_⟩
  rw [hlookup]
  show (st.presence.lookup userId).filter _ = some row
  rw [hrow]
  exact Option.filter_some_pos (by simp [hbarred])

theorem of_sweepChannel {event : DiscordEvent} {c : Snowflake} (h : Handler.handleEvent event st =
    sweepChannel c (Handler.onReplica (Handler.recorded event) st)) :
    Rechecks userId event st := by
  obtain ⟨hsame, hlookup⟩ := sweepChannel_spec c (Handler.onReplica (Handler.recorded event) st)
  rw [← h] at hsame hlookup
  refine ⟨hsame, h ▸ Swept.sweepChannel userId c _, fun row hrow hbarred => ?_⟩
  rw [hlookup]
  show (st.presence.lookup userId).filter _ = some row
  rw [hrow]
  exact Option.filter_some_pos (by simp [hbarred])

end Rechecks

/-- A channel that is not mirrored bars everybody from its room. -/
theorem barred_of_not_known {st : AppState} (account : Account st.users) {row : PresenceRow}
    {channel : UInt64} (hchannel : u64TryFrom row.discordChannelId = some channel)
    (h : st.replica.channelInfo channel = none) : barred st account.userId row = true := by
  have hmay : st.replica.mayJoin account.discordUser channel = false := by
    by_contra hjoin
    exact Replica.channelInfo_of_mayJoin (by simpa using hjoin) h
  simp [barred, hchannel, account.found, barredFrom, account.converts, hmay]

namespace Handler

/-- Every event that is not a voice update. -/
def IsAccess : DiscordEvent → Prop
  | .voiceStateUpdate _ _ => False
  | _ => True

theorem isAccess_or (event : DiscordEvent) :
    IsAccess event ∨ ∃ old new, event = .voiceStateUpdate old new := by
  cases event with
  | voiceStateUpdate old new => exact .inr ⟨old, new, rfl⟩
  | _ => exact .inl trivial

variable {event : DiscordEvent} {st : AppState}

theorem rechecks_refreshChannel (userId : Uuid) (channel : GuildChannel)
    (hhandle : handleEvent event = refreshChannel channel)
    (hrecorded : recorded event = mirrorChannel channel) : Rechecks userId event st := by
  by_cases hroom : isRoomChannel channel = true
  · refine Rechecks.of_sweepChannel (c := i64OrDefault channel.id) ?_
    rw [hhandle, hrecorded, refreshChannel, if_pos hroom, onReplica, onReplica, mirrorChannel,
      if_pos hroom]
  · refine Rechecks.of_unswept ?_
    rw [hhandle, hrecorded, refreshChannel, if_neg hroom, onReplica, mirrorChannel, if_neg hroom]

theorem rechecks (userId : Uuid) (haccess : IsAccess event) : Rechecks userId event st := by
  cases event with
  | guildMemberAddition member => exact .of_unswept rfl
  | guildMemberUpdate new =>
      cases new with
      | none => exact .of_unswept rfl
      | some member => exact .of_sweepGuild (g := member.guildId) rfl
  | guildMemberRemoval guildId userId => exact .of_sweepGuild (g := guildId) rfl
  | guildRoleCreate role => exact .of_unswept rfl
  | guildRoleUpdate role => exact .of_sweepGuild (g := role.guildId) rfl
  | guildRoleDelete guildId roleId => exact .of_sweepGuild (g := guildId) rfl
  | channelCreate channel => exact rechecks_refreshChannel userId channel rfl rfl
  | channelUpdate new => exact rechecks_refreshChannel userId new rfl rfl
  | channelDelete channel => exact .of_sweepChannel (c := i64OrDefault channel.id) rfl
  | voiceStateUpdate old new => exact haccess.elim

/-- What an event can record: members and roles of a guild, one of its channels, or where
somebody is. -/
inductive Records (r : Replica) : DiscordEvent → Replica → Prop where
  | nothing {event : DiscordEvent} : Records r event r
  | roster {event : DiscordEvent} (guildId : UInt64) {f : GuildData → GuildData}
      (hchannels : ∀ guild, (f guild).channels = guild.channels)
      (hvoice : ∀ guild, (f guild).voice = guild.voice) :
      Records r event (Replica.modifyGuild guildId f r)
  | channel {event : DiscordEvent} (channel : GuildChannel) :
      Records r event (Replica.upsertChannel channel.guildId (channelData channel) r)
  | channelGone (channel : GuildChannel) :
      Records r (.channelDelete channel) (Replica.removeChannel channel.guildId channel.id r)
  | voice (old : Option VoiceState) (new : VoiceState) (guildId : UInt64) :
      Records r (.voiceStateUpdate old new)
        (Replica.setVoice guildId new.userId new.channelId r)

theorem records_mirrorChannel (event : DiscordEvent) (channel : GuildChannel) (r : Replica) :
    Records r event (mirrorChannel channel r) := by
  unfold mirrorChannel
  split
  · exact .channel channel
  · exact .nothing

theorem records_recorded (event : DiscordEvent) (r : Replica) :
    Records r event (recorded event r) := by
  cases event with
  | guildMemberAddition member => exact .roster member.guildId (fun _ => rfl) fun _ => rfl
  | guildMemberUpdate new =>
      cases new with
      | none => exact .nothing
      | some member => exact .roster member.guildId (fun _ => rfl) fun _ => rfl
  | guildMemberRemoval guildId userId => exact .roster guildId (fun _ => rfl) fun _ => rfl
  | guildRoleCreate role => exact .roster role.guildId (fun _ => rfl) fun _ => rfl
  | guildRoleUpdate role => exact .roster role.guildId (fun _ => rfl) fun _ => rfl
  | guildRoleDelete guildId roleId => exact .roster guildId (fun _ => rfl) fun _ => rfl
  | channelCreate channel => exact records_mirrorChannel _ channel r
  | channelUpdate new => exact records_mirrorChannel _ new r
  | channelDelete channel => exact .channelGone channel
  | voiceStateUpdate old new =>
      rw [recorded, recordVoice]
      cases new.guildId with
      | none => exact .nothing
      | some guild => exact .voice old new guild

/-- Only the deletion of a channel takes a channel from the mirror. -/
theorem channelInfo_recorded {r : Replica} {c : UInt64} (h : r.channelInfo c ≠ none)
    (hkept : ∀ channel, event = .channelDelete channel → channel.id ≠ c) :
    (recorded event r).channelInfo c ≠ none := by
  have hrecords := records_recorded event r
  generalize recorded event r = after at hrecords ⊢
  cases hrecords with
  | nothing => exact h
  | roster guildId hchannels hvoice => rwa [Replica.channelInfo_modifyGuild hchannels]
  | channel channel => exact Replica.channelInfo_upsertChannel h
  | channelGone channel =>
      rwa [Replica.channelInfo_removeChannel fun heq => hkept channel rfl heq.symm]
  | voice old new guildId => rwa [Replica.channelInfo_setVoice]

/-- Only a voice update moves people. -/
theorem voiceChannelOf_recorded (haccess : IsAccess event) (r : Replica) (discordUser : UInt64) :
    (recorded event r).voiceChannelOf discordUser = r.voiceChannelOf discordUser := by
  have hrecords := records_recorded event r
  generalize recorded event r = after at hrecords ⊢
  cases hrecords with
  | nothing => rfl
  | roster guildId hchannels hvoice =>
      exact Replica.voiceChannelOf_modifyGuild fun guild => by rw [hvoice guild]
  | channel channel => exact Replica.voiceChannelOf_upsertChannel
  | channelGone channel => exact Replica.voiceChannelOf_modifyGuild fun _ => rfl
  | voice old new guildId => exact haccess.elim

/-- Whoever keeps their row is in a room of the mirror, if they were in one before. -/
theorem known_of_kept (account : Account st.users) {row : PresenceRow}
    (hrow : st.presence.lookup account.userId = some row)
    (hknown : Known st.replica row.discordChannelId)
    (hkept : (handleEvent event st).presence.lookup account.userId = some row) :
    Known (recorded event st.replica) row.discordChannelId := by
  obtain ⟨channel, hchannel, hinfo⟩ := hknown
  refine ⟨channel, hchannel, ?_⟩
  by_cases hdeleted : ∃ deleted, event = .channelDelete deleted ∧ deleted.id = channel
  · -- the sweep of a deleted channel bars everybody
    obtain ⟨deleted, rfl, rfl⟩ := hdeleted
    intro hgone
    have hbarred : barred (onReplica (recorded (.channelDelete deleted)) st) account.userId row =
        true := @barred_of_not_known (onReplica _ st) account _ _ hchannel hgone
    have hlookup := (sweepChannel_spec (i64OrDefault deleted.id)
      (onReplica (recorded (.channelDelete deleted)) st)).2 account.userId
    have hswept :
        (handleEvent (.channelDelete deleted) st).presence.lookup account.userId = none := by
      refine hlookup.trans ?_
      show (st.presence.lookup account.userId).filter _ = none
      rw [hrow, i64OrDefault_of_u64TryFrom hchannel]
      exact Option.filter_some_neg (by simp [hbarred])
    rw [hkept] at hswept
    cases hswept
  · refine channelInfo_recorded hinfo fun deleted heq hid => ?_
    exact hdeleted ⟨deleted, heq, hid⟩

end Handler

/-! ## The two ways -/

namespace FollowedRoom

open RoomSnapshot
open Handler

/-- The server's tables and replica, and the room of one connected client. -/
structure World where
  app : AppState
  client : RoomSnapshot

inductive Act where
  /-- An event, and the webhooks of the room that the client then shows. -/
  | event (now : Timestamp) (event : DiscordEvent)
  /-- The webhooks of somebody else write their row. -/
  | row (userId : Uuid) (row : Option PresenceRow)

/-- The row of a user after the webhooks of the room their client shows. -/
def settle (now : Timestamp) (userId : Uuid) (shown : Option Snowflake) (t : Presence) :
    Presence :=
  if Presence.channelOf userId t = shown then
    t
  else
    match shown with
    | none => (Presence.leave userId t).1
    | some channel => Presence.join now userId channel t

/-- The client follows the events that are published to its session. -/
def follow (userId : Uuid) (now : Timestamp) (client : RoomSnapshot) (app : AppState) : World :=
  let client := (toUser userId app.published).foldl applyRoomEvent client
  ⟨{ app with presence := settle now userId client.channelId app.presence }, client⟩

/-- The READY of the user at this moment. -/
def ready (createdAt : Uuid → Timestamp) (heartbeatIntervalMs : Nat) (userId sessionId : Uuid)
    (app : AppState) : Protocol.Ready :=
  Ready.build (app.snapshot createdAt) everything heartbeatIntervalMs userId sessionId

namespace World

variable {users : Users} (account : Account users)

def step (w : World) : Act → World
  | .event now event =>
      follow account.userId now w.client (handleEvent event { w.app with published := [] })
  | .row userId row =>
      if userId = account.userId then
        w
      else
        { w with
          app := { w.app with
            presence :=
              match row with
              | none => w.app.presence.erase userId
              | some row => w.app.presence.insert userId row } }

/-- The client has just taken its READY. -/
def start (createdAt : Uuid → Timestamp) (heartbeatIntervalMs : Nat) (sessionId : Uuid)
    (now : Timestamp) (app : AppState) : World :=
  follow account.userId now emptyRoom
    { app with
      published := [(account.userId,
        .ready (ready createdAt heartbeatIntervalMs account.userId sessionId app))] }

/-- The room of a READY would be the room the client shows. -/
def Follows (w : World) : Prop :=
  ∀ createdAt heartbeatIntervalMs sessionId,
    ((ready createdAt heartbeatIntervalMs account.userId sessionId w.app).room.map
      fun room => room.discordChannelId) = w.client.channelId

/-- An event that lets the user into the room of the channel they sit in finds the client
in that room.  A voice update of the user that leaves them at a room they may enter is the
one that announces the room, or is about another one. -/
def Announced (w : World) : Act → Prop
  | .row _ _ => True
  | .event _ (.voiceStateUpdate old new) =>
      new.userId = account.discordUser → ∀ channel room,
        (recordVoice new w.app.replica).voiceChannelOf account.discordUser = some channel →
        w.app.replica.mayJoin account.discordUser channel = true →
        i64TryFrom channel = some room →
          if leftBy old = voiceChannel new.channelId then
            w.client.channelId = some room
          else
            voiceChannel new.channelId = some room ∨
              w.client.channelId = some room ∧ leftBy old ≠ some room ∧
                (voiceChannel new.channelId).any
                  (admits w.app.replica account.discordUser) = false
  | .event _ event => ∀ channel room,
      w.app.replica.voiceChannelOf account.discordUser = some channel →
      w.app.replica.mayJoin account.discordUser channel = false →
      (recorded event w.app.replica).mayJoin account.discordUser channel = true →
      i64TryFrom channel = some room →
        w.client.channelId = some room

/-! ## What a READY would answer -/

/-- The row of the user follows the client, whose room is one of the mirror's. -/
structure Inv (w : World) : Prop where
  users_eq : w.app.users = users
  row_eq : Presence.channelOf account.userId w.app.presence = w.client.channelId
  known : ∀ room, w.client.channelId = some room → Known w.app.replica room

/-- The client shows the room of the voice channel of the user, where they may enter it. -/
def Heard (w : World) : Prop :=
  ∀ channel room, w.app.replica.voiceChannelOf account.discordUser = some channel →
    w.app.replica.mayJoin account.discordUser channel = true →
    i64TryFrom channel = some room →
      w.client.channelId = some room

section Readings

variable {users : Users} {account : Account users} {w : World}

theorem channelOf_settle (now : Timestamp) (userId : Uuid) (shown : Option Snowflake)
    (t : Presence) : Presence.channelOf userId (settle now userId shown t) = shown := by
  unfold settle
  split
  · next h => exact h
  · cases shown with
    | none => simp [Presence.channelOf, Presence.lookup_leave]
    | some channel => simp [Presence.channelOf, Presence.lookup_join]

/-- The room a READY hands out. -/
theorem ready_room_iff (husers : w.app.users = users) (createdAt : Uuid → Timestamp)
    (heartbeatIntervalMs : Nat) (sessionId : Uuid) (c : Snowflake) :
    ((ready createdAt heartbeatIntervalMs account.userId sessionId w.app).room.map
        fun room => room.discordChannelId) = some c ↔
      Ready.roomChannel (w.app.snapshot createdAt) everything account.userId
          (some account.discordUser) = some c ∧
        Known w.app.replica c := by
  have hfound : (w.app.snapshot createdAt).users.lookup account.userId = some account.profile := by
    show w.app.users.lookup account.userId = _
    rw [husers]
    exact account.found
  have hiff := @Ready.handsOut_iff (w.app.snapshot createdAt) everything heartbeatIntervalMs
    account.userId sessionId account.profile c hfound
  rw [account.converts] at hiff
  rw [Option.map_eq_some_iff]
  refine hiff.trans ?_
  constructor
  · rintro ⟨-, -, hchosen, hknown⟩
    exact ⟨hchosen, hknown⟩
  · rintro ⟨hchosen, hknown⟩
    exact ⟨rfl, rfl, hchosen, hknown⟩

/-- With the row where the client is, a READY answers with the room the client shows
exactly if the client shows the room of the voice channel. -/
theorem follows_iff_heard (h : Inv account w) : w.Follows account ↔ w.Heard account := by
  constructor
  · intro hfollows channel room hvoice hmay hroom
    have hchosen : Ready.roomChannel (w.app.snapshot fun _ => 0) everything account.userId
        (some account.discordUser) = some room := by
      have hin : Ready.voiceRoom (w.app.snapshot fun _ => 0) account.discordUser = some room :=
        Ready.voiceRoom_eq_some_iff.mpr ⟨channel, hvoice, hmay, hroom⟩
      rw [Ready.roomChannel, Option.bind_some, hin]
    rw [← hfollows (fun _ => 0) 0 0, ready_room_iff h.users_eq]
    exact ⟨hchosen, channel, u64TryFrom_of_i64TryFrom hroom, Replica.channelInfo_of_mayJoin hmay⟩
  · intro hheard createdAt heartbeatIntervalMs sessionId
    apply Option.ext
    intro c
    rw [ready_room_iff h.users_eq, Ready.roomChannel, Option.bind_some]
    cases hin : Ready.voiceRoom (w.app.snapshot createdAt) account.discordUser with
    | some room =>
        obtain ⟨channel, hvoice, hmay, hroom⟩ := Ready.voiceRoom_eq_some_iff.mp hin
        have hshown := hheard channel room hvoice hmay hroom
        rw [hshown]
        constructor
        · exact fun heq => heq.1
        · rintro heq
          obtain rfl := Option.some.inj heq
          exact ⟨rfl, h.known room hshown⟩
    | none =>
        show (if true then Presence.channelOf account.userId w.app.presence else none) =
          some c ∧ _ ↔ _
        rw [if_pos rfl, h.row_eq]
        constructor
        · exact fun heq => heq.1
        · exact fun heq => ⟨heq, h.known c heq⟩

/-! ## What the client is told -/

theorem channelId_leave (client : RoomSnapshot) (leave : RoomLeave) :
    (applyRoomEvent client (.roomLeave leave)).channelId =
      if client.channelId = some leave.discordChannelId then none else client.channelId := by
  by_cases h : client.channelId = some leave.discordChannelId
  · rw [applyRoomEvent, if_neg (not_not.mpr h), if_pos h]
    rfl
  · rw [applyRoomEvent, if_pos h, if_neg h]

/-- A client that is told that its room is over shows none. -/
theorem channelId_evicted {c : Snowflake} {reason : RoomLeaveReason} {told : List DispatchEvent}
    (hsome : told ≠ []) (hall : ∀ event ∈ told, event = .roomLeave ⟨c, reason⟩)
    {client : RoomSnapshot} (hshown : client.channelId = some c) :
    (told.foldl applyRoomEvent client).channelId = none := by
  have hstays : ∀ (l : List DispatchEvent) (client : RoomSnapshot), client.channelId = none →
      (∀ event ∈ l, event = .roomLeave ⟨c, reason⟩) →
        (l.foldl applyRoomEvent client).channelId = none := by
    intro l
    induction l with
    | nil => exact fun _ h _ => h
    | cons event l ih =>
        intro client hnone hl
        refine ih _ ?_ fun e he => hl e (List.mem_cons_of_mem event he)
        rw [hl event List.mem_cons_self, channelId_leave, hnone]
        rfl
  cases told with
  | nil => exact absurd rfl hsome
  | cons event l =>
      refine hstays l _ ?_ fun e he => hall e (List.mem_cons_of_mem event he)
      rw [hall event List.mem_cons_self, channelId_leave, if_pos hshown]

theorem channelId_ready (client : RoomSnapshot) (ready : Protocol.Ready) :
    (applyRoomEvent client (.ready ready)).channelId =
      ready.room.map fun room => room.discordChannelId := by
  cases hroom : ready.room with
  | none =>
      rw [applyRoomEvent, hroom]
      rfl
  | some state =>
      rw [applyRoomEvent, hroom]
      exact channelId_roomFromState state

end Readings

/-! ## One step -/

section Steps

variable {users : Users} {account : Account users} {w : World}

/-- The world after the client has followed what was published. -/
theorem inv_follow {now : Timestamp} {client : RoomSnapshot} {app : AppState}
    (husers : app.users = users)
    (hknown : ∀ room, ((toUser account.userId app.published).foldl applyRoomEvent
      client).channelId = some room → Known app.replica room) :
    Inv account (follow account.userId now client app) where
  users_eq := husers
  row_eq := channelOf_settle now account.userId _ _
  known := hknown

theorem start_channelId (createdAt : Uuid → Timestamp) (heartbeatIntervalMs : Nat)
    (sessionId : Uuid) (now : Timestamp) (app : AppState) :
    (start account createdAt heartbeatIntervalMs sessionId now app).client.channelId =
      (ready createdAt heartbeatIntervalMs account.userId sessionId app).room.map
        fun room => room.discordChannelId := by
  rw [start, follow, toUser_singleton, if_pos rfl]
  exact channelId_ready emptyRoom _

theorem inv_start (createdAt : Uuid → Timestamp) (heartbeatIntervalMs : Nat) (sessionId : Uuid)
    (now : Timestamp) {app : AppState} (husers : app.users = users) :
    Inv account (start account createdAt heartbeatIntervalMs sessionId now app) := by
  refine inv_follow husers fun room hshown => ?_
  have hready := (start_channelId createdAt heartbeatIntervalMs sessionId now app).symm.trans hshown
  exact ((ready_room_iff (w := ⟨app, emptyRoom⟩) husers _ _ _ room).mp hready).2

theorem heard_start (createdAt : Uuid → Timestamp) (heartbeatIntervalMs : Nat) (sessionId : Uuid)
    (now : Timestamp) {app : AppState} (husers : app.users = users) :
    (start account createdAt heartbeatIntervalMs sessionId now app).Heard account := by
  intro channel room hvoice hmay hroom
  rw [start_channelId]
  refine (ready_room_iff (w := ⟨app, emptyRoom⟩) husers _ _ _ room).mpr ⟨?_, channel,
    u64TryFrom_of_i64TryFrom hroom, Replica.channelInfo_of_mayJoin hmay⟩
  rw [Ready.roomChannel, Option.bind_some,
    Ready.voiceRoom_eq_some_iff.mpr ⟨channel, hvoice, hmay, hroom⟩]

/-- The row of the user, where their client is. -/
theorem Inv.present (h : Inv account w) {room : Snowflake}
    (hshown : w.client.channelId = some room) :
    ∃ row, w.app.presence.lookup account.userId = some row ∧ row.discordChannelId = room :=
  Option.map_eq_some_iff.mp (h.row_eq.trans hshown)

/-- Whoever is barred from a room may not join it. -/
theorem mayJoin_of_barred {st : AppState} (husers : st.users = users) {row : PresenceRow}
    (h : barred st account.userId row = true) :
    ∃ channel, u64TryFrom row.discordChannelId = some channel ∧
      st.replica.mayJoin account.discordUser channel = false := by
  cases hchannel : u64TryFrom row.discordChannelId with
  | none => simp [barred, hchannel] at h
  | some channel =>
      refine ⟨channel, rfl, ?_⟩
      simpa [barred, hchannel, husers, account.found, barredFrom, account.converts] using h

/-- An event that is not a voice update leaves the client where it was, or takes it out of
a room that bars its user. -/
theorem access_cases (h : Inv account w) (now : Timestamp) {event : DiscordEvent}
    (haccess : IsAccess event) :
    Inv account (w.step account (.event now event)) ∧
      (w.step account (.event now event)).app.replica = recorded event w.app.replica ∧
      ((w.step account (.event now event)).client.channelId = w.client.channelId ∨
        (w.step account (.event now event)).client.channelId = none ∧
          ∃ room channel, w.client.channelId = some room ∧ u64TryFrom room = some channel ∧
            (recorded event w.app.replica).mayJoin account.discordUser channel = false) := by
  have husers := h.users_eq
  subst husers
  obtain ⟨hsame, hswept, hkept⟩ :=
    @rechecks event { w.app with published := [] } account.userId haccess
  have hreplica : (handleEvent event { w.app with published := [] }).replica =
      recorded event w.app.replica := hsame.replica_eq
  have hclient : (w.step account (.event now event)).client =
      (toUser account.userId (handleEvent event { w.app with published := [] }).published).foldl
        applyRoomEvent w.client := rfl
  cases hswept with
  | stays hrow htold =>
      have hshown : (w.step account (.event now event)).client = w.client := by
        rw [hclient, htold]
        rfl
      refine ⟨inv_follow hsame.users_eq fun room hroom => ?_, hreplica, .inl (by rw [hshown])⟩
      rw [← hclient, hshown] at hroom
      obtain ⟨row, hpresent, rfl⟩ := h.present hroom
      rw [hreplica]
      exact @known_of_kept event { w.app with published := [] } account _ hpresent
        (h.known _ hroom) (hrow.trans hpresent)
  | evicted row told hpresent hgone hpublished hsome hleave =>
      have hshown : w.client.channelId = some row.discordChannelId := by
        rw [← h.row_eq]
        exact Option.map_eq_some_iff.mpr ⟨row, hpresent, rfl⟩
      have hnone : (w.step account (.event now event)).client.channelId = none := by
        rw [hclient, hpublished]
        exact channelId_evicted hsome hleave hshown
      refine ⟨inv_follow hsame.users_eq fun room hroom => ?_, hreplica, .inr ⟨hnone, ?_⟩⟩
      · rw [← hclient, hnone] at hroom
        cases hroom
      · -- the sweep only takes the rows of people who are barred
        have hbarred : barred (onReplica (recorded event) { w.app with published := [] })
            account.userId row = true := by
          by_contra hfree
          have hstays := hkept row hpresent (by simpa using hfree)
          rw [hgone] at hstays
          cases hstays
        obtain ⟨channel, hchannel, hmay⟩ := mayJoin_of_barred rfl hbarred
        exact ⟨_, channel, hshown, hchannel, hmay⟩

/-- An event keeps the rooms of the mirror, unless it deletes one. -/
theorem known_recorded {r : Replica} {event : DiscordEvent} {room : Snowflake}
    (hevent : ∀ channel, event ≠ .channelDelete channel) (h : Known r room) :
    Known (recorded event r) room := by
  obtain ⟨channel, hchannel, hinfo⟩ := h
  exact ⟨channel, hchannel, channelInfo_recorded hinfo fun c heq => (hevent c heq).elim⟩

theorem known_of_admits {r : Replica} {discordUser : UInt64} {room : Snowflake}
    (h : admits r discordUser room = true) : Known r room := by
  unfold admits at h
  split at h
  · cases h
  · next channel hchannel => exact ⟨channel, hchannel, Replica.channelInfo_of_mayJoin h⟩

variable (account) in
/-- Where a voice update takes the client. -/
def moved (w : World) (old : Option VoiceState) (new : VoiceState) : Option Snowflake :=
  if new.userId = account.discordUser ∧ leftBy old ≠ voiceChannel new.channelId then
    if (voiceChannel new.channelId).any (admits w.app.replica account.discordUser) then
      voiceChannel new.channelId
    else if w.client.channelId = leftBy old then
      none
    else
      w.client.channelId
  else
    w.client.channelId

theorem channelId_leaving (client : RoomSnapshot) (before : Option Snowflake) :
    ((leaving before).foldl applyRoomEvent client).channelId =
      if client.channelId = before then none else client.channelId := by
  cases before with
  | none =>
      show client.channelId = _
      split
      · next hnone => exact hnone
      · rfl
  | some left => exact channelId_leave client _

theorem voice_cases (h : Inv account w) (now : Timestamp) (old : Option VoiceState)
    (new : VoiceState) :
    Inv account (w.step account (.event now (.voiceStateUpdate old new))) ∧
      (w.step account (.event now (.voiceStateUpdate old new))).app.replica =
        recordVoice new w.app.replica ∧
      (w.step account (.event now (.voiceStateUpdate old new))).client.channelId =
        moved account w old new := by
  have hsame := voiceStateUpdate_tells old new { w.app with published := [] }
  obtain ⟨told, htold, hif⟩ := @toUser_voiceStateUpdate _ account
    { w.app with published := [] } h.users_eq old new
  have hclient : (w.step account (.event now (.voiceStateUpdate old new))).client =
      told.foldl applyRoomEvent w.client := by
    show (toUser account.userId _).foldl applyRoomEvent w.client = _
    rw [show toUser account.userId (handleEvent (.voiceStateUpdate old new)
      { w.app with published := [] }).published = told from htold]
  -- what the update tells the user is applied in order: the leave, then the room
  have hmoved : (w.step account (.event now (.voiceStateUpdate old new))).client.channelId =
      moved account w old new := by
    rw [hclient, moved]
    by_cases hmine : new.userId = account.discordUser ∧
        leftBy old ≠ voiceChannel new.channelId
    · rw [if_pos hmine] at hif ⊢
      obtain ⟨joining, rfl, hjoining⟩ := hif
      rw [List.foldl_append]
      unfold Joining at hjoining
      dsimp only at hjoining
      split at hjoining
      · next hmay =>
          obtain ⟨room, hroom, rfl⟩ := hjoining
          rw [if_pos hmay, hroom]
          exact channelId_roomFromState room
      · next hmay =>
          rw [hjoining, if_neg hmay]
          exact channelId_leaving w.client _
    · rw [if_neg hmine] at hif ⊢
      rw [hif]
      rfl
  refine ⟨inv_follow (hsame.users_eq.trans h.users_eq) fun room hroom => ?_, hsame.replica_eq,
    hmoved⟩
  have hafter : moved account w old new = some room := hmoved.symm.trans hroom
  have hreplica : (handleEvent (.voiceStateUpdate old new) { w.app with published := [] }).replica =
      recorded (.voiceStateUpdate old new) w.app.replica := hsame.replica_eq
  rw [hreplica]
  refine known_recorded (fun _ => by simp) ?_
  unfold moved at hafter
  split at hafter
  · split at hafter
    · next hmay =>
        rw [hafter, Option.any_some] at hmay
        exact known_of_admits hmay
    · split at hafter
      · cases hafter
      · exact h.known room hafter
  · exact h.known room hafter

theorem announced_access_iff {now : Timestamp} {event : DiscordEvent} (haccess : IsAccess event) :
    w.Announced account (.event now event) ↔ ∀ channel room,
      w.app.replica.voiceChannelOf account.discordUser = some channel →
      w.app.replica.mayJoin account.discordUser channel = false →
      (recorded event w.app.replica).mayJoin account.discordUser channel = true →
      i64TryFrom channel = some room →
        w.client.channelId = some room := by
  cases event with
  | voiceStateUpdate old new => exact haccess.elim
  | _ => exact Iff.rfl

theorem heard_access_iff (h : Inv account w) (hheard : w.Heard account) (now : Timestamp)
    {event : DiscordEvent} (haccess : IsAccess event) :
    (w.step account (.event now event)).Heard account ↔
      w.Announced account (.event now event) := by
  obtain ⟨-, hreplica, hclient⟩ := access_cases h now haccess
  rw [announced_access_iff haccess]
  unfold Heard
  rw [hreplica, voiceChannelOf_recorded haccess]
  constructor
  · intro hafter channel room hvoice _ hmay hroom
    have hshown := hafter channel room hvoice hmay hroom
    rcases hclient with hsame | ⟨hnone, -⟩
    · rwa [hsame] at hshown
    · rw [hnone] at hshown
      cases hshown
  · intro hannounced channel room hvoice hmay hroom
    have hshown : w.client.channelId = some room := by
      cases hbefore : w.app.replica.mayJoin account.discordUser channel with
      | true => exact hheard channel room hvoice hbefore hroom
      | false => exact hannounced channel room hvoice hbefore hmay hroom
    rcases hclient with hsame | ⟨-, left, barredFrom, hleft, hconverts, hbarred⟩
    · rw [hsame, hshown]
    · -- nobody is evicted from a room they may join
      obtain rfl : left = room := Option.some.inj (hleft.symm.trans hshown)
      obtain rfl : barredFrom = channel := eq_of_i64TryFrom hroom hconverts
      rw [hmay] at hbarred
      cases hbarred

/-- A voice update of the user leaves the client at a room they may enter. -/
theorem moved_iff {old : Option VoiceState} {new : VoiceState} {channel : UInt64}
    {room : Snowflake} (hmine : new.userId = account.discordUser)
    (hmay : w.app.replica.mayJoin account.discordUser channel = true)
    (hroom : i64TryFrom channel = some room) :
    moved account w old new = some room ↔
      if leftBy old = voiceChannel new.channelId then
        w.client.channelId = some room
      else
        voiceChannel new.channelId = some room ∨
          w.client.channelId = some room ∧ leftBy old ≠ some room ∧
            (voiceChannel new.channelId).any
              (admits w.app.replica account.discordUser) = false := by
  have hadmits : admits w.app.replica account.discordUser room = true := by
    rw [admits, u64TryFrom_of_i64TryFrom hroom]
    exact hmay
  unfold moved
  by_cases hsame : leftBy old = voiceChannel new.channelId
  · rw [if_neg (fun h => h.2 hsame), if_pos hsame]
  · rw [if_pos ⟨hmine, hsame⟩, if_neg hsame]
    split
    · next hany => simp [hany]
    · next hany =>
        -- the update does not name the room, or it would announce it
        have hnot : voiceChannel new.channelId ≠ some room := by
          intro heq
          rw [heq, Option.any_some] at hany
          exact hany hadmits
        split
        · next hleft =>
            constructor
            · intro heq
              cases heq
            · rintro (heq | ⟨hshown, hne, -⟩)
              · exact absurd heq hnot
              · exact absurd (hleft.symm.trans hshown) hne
        · next hleft =>
            constructor
            · intro hshown
              refine .inr ⟨hshown, ?_, by simpa using hany⟩
              rwa [← hshown, ne_comm]
            · rintro (heq | ⟨hshown, -, -⟩)
              · exact absurd heq hnot
              · exact hshown

theorem heard_voice_iff (h : Inv account w) (hheard : w.Heard account) (now : Timestamp)
    (old : Option VoiceState) (new : VoiceState) :
    (w.step account (.event now (.voiceStateUpdate old new))).Heard account ↔
      w.Announced account (.event now (.voiceStateUpdate old new)) := by
  obtain ⟨-, hreplica, hclient⟩ := voice_cases h now old new
  have hmay : ∀ channel, (recordVoice new w.app.replica).mayJoin account.discordUser channel =
      w.app.replica.mayJoin account.discordUser channel :=
    fun channel => mayJoin_recordVoice new w.app.replica account.discordUser channel
  unfold Heard Announced
  rw [hreplica, hclient]
  simp only [hmay]
  by_cases hmine : new.userId = account.discordUser
  · simp only [hmine, forall_true_left]
    refine forall_congr' fun channel => forall_congr' fun room => ?_
    refine imp_congr_right fun _ => imp_congr_right fun hjoin => imp_congr_right fun hroom => ?_
    exact moved_iff hmine hjoin hroom
  · have hvoice : (recordVoice new w.app.replica).voiceChannelOf account.discordUser =
        w.app.replica.voiceChannelOf account.discordUser := by
      unfold recordVoice
      split
      · rfl
      · exact Replica.voiceChannelOf_setVoice_of_ne (Ne.symm hmine)
    rw [hvoice, moved, if_neg (fun h => hmine h.1)]
    exact iff_of_true hheard fun heq => (hmine heq).elim

theorem heard_step_iff (h : Inv account w) (hheard : w.Heard account) (act : Act) :
    (w.step account act).Heard account ↔ w.Announced account act := by
  cases act with
  | row userId row =>
      refine iff_of_true ?_ trivial
      unfold step
      dsimp only
      split
      · exact hheard
      · exact hheard
  | event now event =>
      rcases isAccess_or event with haccess | ⟨old, new, rfl⟩
      · exact heard_access_iff h hheard now haccess
      · exact heard_voice_iff h hheard now old new

theorem inv_step (h : Inv account w) (act : Act) : Inv account (w.step account act) := by
  cases act with
  | row userId row =>
      unfold step
      dsimp only
      split
      · exact h
      · next hother =>
          refine ⟨h.users_eq, ?_, h.known⟩
          rw [← h.row_eq]
          unfold Presence.channelOf
          cases row with
          | none => exact congrArg _ (AList.lookup_erase_ne (Ne.symm hother))
          | some row => exact congrArg _ (AList.lookup_insert_ne (Ne.symm hother))
  | event now event =>
      rcases isAccess_or event with haccess | ⟨old, new, rfl⟩
      · exact (access_cases h now haccess).1
      · exact (voice_cases h now old new).1

end Steps

/-- Along a run the client follows the room a READY would give if and only if every event
of the run is announced to it: none lets the user into the room of the channel they sit in
without the client being there, and a voice update leaves them at the room it announces. -/
theorem follows_iff (createdAt : Uuid → Timestamp) (heartbeatIntervalMs : Nat)
    (sessionId : Uuid) (now : Timestamp) (app : AppState) (account : Account app.users)
    (acts : List Act) :
    Throughout (step account) (Follows account)
        (start account createdAt heartbeatIntervalMs sessionId now app) acts ↔
      EachStep (step account) (Announced account)
        (start account createdAt heartbeatIntervalMs sessionId now app) acts := by
  have hstart : Inv account (start account createdAt heartbeatIntervalMs sessionId now app) :=
    inv_start createdAt heartbeatIntervalMs sessionId now rfl
  refine throughout_iff_eachStep (I := Inv account) (fun w act h => inv_step h act) ?_ hstart ?_
  · intro w act h hfollows
    rw [follows_iff_heard (inv_step h act)]
    exact heard_step_iff h ((follows_iff_heard h).mp hfollows) act
  · exact (follows_iff_heard hstart).mpr
      (heard_start createdAt heartbeatIntervalMs sessionId now rfl)

/-- A guild in which only the owner may enter the voice channel, and a paired member who
was moved into it. -/
def movedIn : AppState where
  replica := Replica.replaceGuild
    { id := 100
      ownerId := 1
      roles := [⟨100, 0⟩]
      members := ((∅ : Table UInt64 (List UInt64)).insert 1 [] :
        Table UInt64 (List UInt64)).insert 30 []
      channels := (∅ : Table UInt64 ChannelData).insert 5 ⟨5, "sala", []⟩
      voice := (∅ : Table UInt64 UInt64).insert 30 5 } (Replica.new 60)
  users := (∅ : Users).insert 3 ⟨30, "ana", none, none⟩
  presence := ∅
  allowedGuilds := none
  removals := []
  published := []

def ana : Account movedIn.users where
  userId := 3
  profile := ⟨30, "ana", none, none⟩
  discordUser := 30
  found := by decide
  converts := by decide
  unique other row hrow _ := by
    rw [movedIn, AList.lookup_insert_ite] at hrow
    split at hrow
    · next heq => exact heq
    · cases hrow

/-- The role of everybody gains the right to enter.  A READY would hand the room out, and
the client that is connected is not told. -/
theorem granted_access_is_not_announced :
    ¬ ∀ (createdAt : Uuid → Timestamp) (heartbeatIntervalMs : Nat) (sessionId : Uuid)
        (now : Timestamp) (app : AppState) (account : Account app.users) (acts : List Act),
      Throughout (step account) (Follows account)
        (start account createdAt heartbeatIntervalMs sessionId now app) acts := by
  intro hclaim
  have hafter := (hclaim (fun _ => 0) 30000 1 0 movedIn ana [.event 1 (.guildRoleUpdate
    ⟨100, 100, Domain.DiscordPermissions.viewChannel |||
      Domain.DiscordPermissions.connect⟩)]).2 (fun _ => 0) 30000 1
  revert hafter
  decide

end World

end FollowedRoom

end Bot
end Ldktela
