import Ldktela.Bot.Handler
import Ldktela.Discord.Mirror
import Ldktela.Lib.Runs

/-!
# The replica kept by events

`crates/bot/src/handler.rs` keeps the replica current after the snapshot of
`GUILD_CREATE`: every change Discord reports has a handler, which makes one write.
Here a guild changes at Discord and each change is delivered to its handler.

`World.AnswersFresh` compares the replica with one freshly loaded from the guild
as it is now.  A change of the owner is the one kind of change that the bot does
not handle, although the snapshot carries the owner and the permission algorithm
asks for it; `answersFresh_throughout` is about the runs in which the owner stays.
-/

namespace Ldktela
namespace Bot

open Domain
open Protocol
open Discord
open Revoke
open Runs

namespace Handler

/-- `guild_member_addition`: nobody is rechecked, a new member was in no room. -/
def guildMemberAddition (member : Member) (st : AppState) : AppState :=
  onReplica (Replica.upsertMember member.guildId member.userId member.roles) st

/-- `guild_role_create`. -/
def guildRoleCreate (role : Role) (st : AppState) : AppState :=
  onReplica (Replica.upsertRole role.guildId (roleRef role)) st

end Handler

/-! ## The guild at Discord -/

/-- What can happen to a guild. -/
inductive GuildChange where
  | memberJoin (userId : UInt64) (roles : List UInt64)
  | memberRoles (userId : UInt64) (roles : List UInt64)
  | memberLeave (userId : UInt64)
  | roleCreate (id permissions : UInt64)
  | rolePermissions (id permissions : UInt64)
  | roleDelete (id : UInt64)
  | channelCreate (id : UInt64) (name : String) (kind : ChannelType)
      (permissionOverwrites : List PermissionOverwrite)
  | channelUpdate (id : UInt64) (name : String)
      (permissionOverwrites : List PermissionOverwrite)
  | channelDelete (id : UInt64)
  | owner (userId : UInt64)

namespace Guild

/-- Roles and channels stand under their own ids, and the channels name the guild. -/
structure Keyed (guild : Guild) : Prop where
  role : ∀ id role, guild.roles.lookup id = some role → role.id = id
  channel : ∀ id channel, guild.channels.lookup id = some channel →
    channel.id = id ∧ channel.guildId = guild.id

/-- Ids are new when something is created, and known when it changes. -/
def possible (guild : Guild) : GuildChange → Bool
  | .memberJoin userId _ => decide (userId ∉ guild.members)
  | .memberRoles userId _ => decide (userId ∈ guild.members)
  | .memberLeave userId => decide (userId ∈ guild.members)
  | .roleCreate id _ => decide (id ∉ guild.roles)
  | .rolePermissions id _ => decide (id ∈ guild.roles)
  | .roleDelete id => decide (id ∈ guild.roles)
  | .channelCreate id _ _ _ => decide (id ∉ guild.channels)
  | .channelUpdate id _ _ => decide (id ∈ guild.channels)
  | .channelDelete id => decide (id ∈ guild.channels)
  | .owner userId => decide (userId ∈ guild.members)

/-- The guild after the change.  A role that is deleted is taken from its members;
the kind of a channel stays. -/
def apply (guild : Guild) : GuildChange → Guild
  | .memberJoin userId roles =>
      { guild with
        members := guild.members.insert userId ⟨userId, guild.id, roles⟩
        memberCount := guild.memberCount + 1 }
  | .memberRoles userId roles =>
      { guild with members := guild.members.insert userId ⟨userId, guild.id, roles⟩ }
  | .memberLeave userId =>
      { guild with
        members := guild.members.erase userId
        memberCount := guild.memberCount - 1 }
  | .roleCreate id permissions =>
      { guild with roles := guild.roles.insert id ⟨id, guild.id, permissions⟩ }
  | .rolePermissions id permissions =>
      { guild with roles := guild.roles.insert id ⟨id, guild.id, permissions⟩ }
  | .roleDelete id =>
      { guild with
        roles := guild.roles.erase id
        members := guild.members.mapVal fun _ member =>
          { member with roles := member.roles.filter fun r => r ≠ id } }
  | .channelCreate id name kind permissionOverwrites =>
      { guild with
        channels := guild.channels.insert id ⟨id, guild.id, name, kind, permissionOverwrites⟩ }
  | .channelUpdate id name permissionOverwrites =>
      { guild with
        channels := guild.channels.modify id fun channel =>
          { channel with name := name, permissionOverwrites := permissionOverwrites } }
  | .channelDelete id => { guild with channels := guild.channels.erase id }
  | .owner userId => { guild with ownerId := userId }

theorem Keyed.apply {guild : Guild} (h : guild.Keyed) (change : GuildChange) :
    (guild.apply change).Keyed := by
  have hrole : ∀ id permissions k role,
      (guild.roles.insert id ⟨id, guild.id, permissions⟩).lookup k = some role → role.id = k := by
    intro id permissions k role hk
    rw [AList.lookup_insert_ite] at hk
    split at hk
    · next heq => rw [← Option.some.inj hk, heq]
    · exact h.role k role hk
  cases change with
  | memberJoin userId roles => exact ⟨h.role, h.channel⟩
  | memberRoles userId roles => exact ⟨h.role, h.channel⟩
  | memberLeave userId => exact ⟨h.role, h.channel⟩
  | roleCreate id permissions => exact ⟨hrole id permissions, h.channel⟩
  | rolePermissions id permissions => exact ⟨hrole id permissions, h.channel⟩
  | roleDelete id =>
      refine ⟨fun k role hk => ?_, h.channel⟩
      rw [Guild.apply, AList.lookup_erase_ite] at hk
      split at hk
      · cases hk
      · exact h.role k role hk
  | channelCreate id name kind overwrites =>
      refine ⟨h.role, fun k channel hk => ?_⟩
      rw [Guild.apply, AList.lookup_insert_ite] at hk
      split at hk
      · next heq =>
          rw [← Option.some.inj hk, heq]
          exact ⟨rfl, rfl⟩
      · exact h.channel k channel hk
  -- an update keeps the kind of the channel and its guild
  | channelUpdate id name overwrites =>
      refine ⟨h.role, fun k channel hk => ?_⟩
      rw [Guild.apply, AList.lookup_modify] at hk
      split at hk
      · obtain ⟨old, hold, rfl⟩ := Option.map_eq_some_iff.mp hk
        exact h.channel k old hold
      · exact h.channel k channel hk
  | channelDelete id =>
      refine ⟨h.role, fun k channel hk => ?_⟩
      rw [Guild.apply, AList.lookup_erase_ite] at hk
      split at hk
      · cases hk
      · exact h.channel k channel hk
  | owner userId => exact ⟨h.role, h.channel⟩

end Guild

/-- What the bot does when it hears of the change.  There is no `guild_update`
among its handlers, so a new owner is not heard of. -/
def deliver (guild : Guild) (change : GuildChange) (st : AppState) : AppState :=
  match change with
  | .memberJoin userId roles => Handler.guildMemberAddition ⟨userId, guild.id, roles⟩ st
  | .memberRoles userId roles =>
      Handler.guildMemberUpdate (some ⟨userId, guild.id, roles⟩) st
  | .memberLeave userId => Handler.guildMemberRemoval guild.id userId st
  | .roleCreate id permissions => Handler.guildRoleCreate ⟨id, guild.id, permissions⟩ st
  | .rolePermissions id permissions => Handler.guildRoleUpdate ⟨id, guild.id, permissions⟩ st
  | .roleDelete id => Handler.guildRoleDelete guild.id id st
  | .channelCreate id name kind permissionOverwrites =>
      Handler.refreshChannel ⟨id, guild.id, name, kind, permissionOverwrites⟩ st
  | .channelUpdate id name permissionOverwrites =>
      match guild.channels.lookup id with
      | none => st
      | some channel =>
          Handler.refreshChannel
            { channel with name := name, permissionOverwrites := permissionOverwrites } st
  | .channelDelete id =>
      match guild.channels.lookup id with
      | none => st
      | some channel => Handler.channelDelete channel st
  | .owner _ => st

/-- A guild at Discord, and the bot that follows it. -/
structure World where
  guild : Guild
  keyed : guild.Keyed
  app : AppState

namespace World

/-- One change, delivered before the next one. -/
def step (w : World) (change : GuildChange) : World :=
  if w.guild.possible change then
    ⟨w.guild.apply change, w.keyed.apply change, deliver w.guild change w.app⟩
  else
    w

/-- The replica loaded from the guild as it is. -/
def loaded (grace : Nat) (guild : Guild) : Replica :=
  Replica.replaceGuild (guildData guild) (Replica.new grace)

/-- The bot has just received the guild; the other tables hold anything. -/
def start (grace : Nat) (guild : Guild) (keyed : guild.Keyed) (app : AppState) : World :=
  ⟨guild, keyed, { app with replica := loaded grace guild }⟩

/-- The replica answers like one freshly loaded. -/
def AnswersFresh (w : World) : Prop :=
  ∀ user channel,
    w.app.replica.permissions user channel =
        (loaded w.app.replica.grace w.guild).permissions user channel ∧
      w.app.replica.channelInfo channel =
        (loaded w.app.replica.grace w.guild).channelInfo channel

/-- The change leaves the guild to its owner. -/
def KeepsOwner (w : World) : GuildChange → Prop
  | .owner userId => userId = w.guild.ownerId
  | _ => True

end World

/-! ## The description of a changed guild -/

section Described

variable {guild : Guild}

theorem guildData_member (user : UInt64) :
    (guildData guild).members.lookup user =
      (guild.members.lookup user).map fun member => member.roles := by
  rw [guildData, AList.lookup_collect]
  cases guild.members.lookup user with
  | none => rfl
  | some member => rfl

theorem guildData_channel (c : UInt64) :
    (guildData guild).channels.lookup c =
      (guild.channels.lookup c).bind fun channel =>
        if isRoomChannel channel then some (channelData channel) else none := by
  rw [guildData, AList.lookup_collect]

theorem guildData_role (h : guild.Keyed) (id : UInt64) :
    (guildData guild).role id = (guild.roles.lookup id).map roleRef :=
  AList.find?_map_vals roleRef (fun r => r.id) h.role id

/-- Writing a member. -/
theorem alike_insertMember (user : UInt64) (roles : List UInt64) (count : Nat) :
    Alike { guildData guild with members := (guildData guild).members.insert user roles }
      (guildData { guild with
        members := guild.members.insert user ⟨user, guild.id, roles⟩
        memberCount := count }) := by
  refine ⟨rfl, rfl, fun _ => rfl, fun u => ?_, fun _ => rfl⟩
  rw [guildData_member, AList.lookup_insert_ite, AList.lookup_insert_ite, guildData_member]
  split
  · rfl
  · rfl

theorem alike_eraseMember (user : UInt64) (count : Nat) :
    Alike { guildData guild with members := (guildData guild).members.erase user }
      (guildData { guild with
        members := guild.members.erase user
        memberCount := count }) := by
  refine ⟨rfl, rfl, fun _ => rfl, fun u => ?_, fun _ => rfl⟩
  rw [guildData_member, AList.lookup_erase_ite, AList.lookup_erase_ite, guildData_member]
  split
  · rfl
  · rfl

/-- Writing a role, which may be new. -/
theorem alike_insertRole (h : guild.Keyed) (id permissions : UInt64) :
    Alike { guildData guild with
        roles := Replica.putRole ⟨id, permissions⟩ (guildData guild).roles }
      (guildData { guild with
        roles := guild.roles.insert id ⟨id, guild.id, permissions⟩ }) := by
  refine ⟨rfl, rfl, fun k => ?_, fun _ => rfl, fun _ => rfl⟩
  have hkeyed := h.apply (.roleCreate id permissions)
  have hafter := guildData_role hkeyed k
  have hbefore := guildData_role h k
  simp only [Guild.apply] at hafter
  rw [hafter, AList.lookup_insert_ite]
  simp only [GuildData.role] at hbefore ⊢
  rw [find?_putRole, hbefore]
  split
  · rfl
  · rfl

/-- Deleting a role takes it from its members. -/
theorem alike_eraseRole (h : guild.Keyed) (id : UInt64) :
    Alike { guildData guild with
        roles := (guildData guild).roles.filter fun r => r.id ≠ id
        members := (guildData guild).members.mapVal fun _ roles => roles.filter fun r => r ≠ id }
      (guildData (guild.apply (.roleDelete id))) := by
  refine ⟨rfl, rfl, fun k => ?_, fun u => ?_, fun _ => rfl⟩
  · have hbefore := guildData_role h k
    rw [guildData_role (h.apply _), Guild.apply, AList.lookup_erase_ite]
    simp only [GuildData.role] at hbefore ⊢
    rw [find?_filter_roles, hbefore]
    split
    · rfl
    · rfl
  · rw [guildData_member, Guild.apply, AList.lookup_mapVal, AList.lookup_mapVal, guildData_member,
      Option.map_map, Option.map_map]
    rfl

/-- Writing a voice channel. -/
theorem alike_insertChannel {channel : GuildChannel} (hroom : isRoomChannel channel = true)
    {after : Guild} (hguild : after = { guild with channels := after.channels })
    (hchannels : ∀ c, after.channels.lookup c =
      if c = channel.id then some channel else guild.channels.lookup c) :
    Alike { guildData guild with
        channels := (guildData guild).channels.insert channel.id (channelData channel) }
      (guildData after) := by
  rw [hguild]
  refine ⟨rfl, rfl, fun _ => rfl, fun _ => rfl, fun c => ?_⟩
  rw [guildData_channel, AList.lookup_insert_ite, guildData_channel, hchannels]
  split
  · simp [hroom]
  · rfl

/-- A channel that is no voice channel before and after is not described. -/
theorem alike_otherChannel (id : UInt64) {after : Guild}
    (hguild : after = { guild with channels := after.channels })
    (hbefore : ∀ channel, guild.channels.lookup id = some channel → isRoomChannel channel = false)
    (hafter : ∀ channel, after.channels.lookup id = some channel → isRoomChannel channel = false)
    (hother : ∀ c, c ≠ id → after.channels.lookup c = guild.channels.lookup c) :
    Alike (guildData guild) (guildData after) := by
  rw [hguild]
  refine ⟨rfl, rfl, fun _ => rfl, fun _ => rfl, fun c => ?_⟩
  have hnone : ∀ o : Option GuildChannel,
      (∀ channel, o = some channel → isRoomChannel channel = false) →
        (o.bind fun channel =>
          if isRoomChannel channel then some (channelData channel) else none) = none := by
    intro o ho
    cases o with
    | none => rfl
    | some channel => simp [ho channel rfl]
  rw [guildData_channel, guildData_channel]
  by_cases hc : c = id
  · subst hc
    rw [hnone _ hbefore, hnone _ hafter]
  · rw [hother c hc]

theorem alike_eraseChannel (id : UInt64) :
    Alike { guildData guild with channels := (guildData guild).channels.erase id }
      (guildData { guild with channels := guild.channels.erase id }) := by
  refine ⟨rfl, rfl, fun _ => rfl, fun _ => rfl, fun c => ?_⟩
  rw [guildData_channel, AList.lookup_erase_ite, AList.lookup_erase_ite, guildData_channel]
  split
  · rfl
  · rfl

end Described

/-! ## The replica follows the guild -/

section Follows

variable {guild : Guild} {st : AppState}

/-- A channel that keeps its kind, or is new. -/
theorem mirrors_refreshChannel (h : Mirrors st.replica (guildData guild))
    (channel : GuildChannel) (hid : channel.guildId = guild.id) (after : Guild)
    (hguild : after = { guild with channels := after.channels })
    (hchannels : ∀ c, after.channels.lookup c =
      if c = channel.id then some channel else guild.channels.lookup c)
    (hkind : ∀ old, guild.channels.lookup channel.id = some old →
      isRoomChannel old = isRoomChannel channel) :
    Mirrors (Handler.refreshChannel channel st).replica (guildData after) := by
  unfold Handler.refreshChannel
  split
  · next hroom =>
      have hreplica := (sweepChannel_spec (i64OrDefault channel.id) (Handler.onReplica
        (Replica.upsertChannel channel.guildId (channelData channel)) st)).1.replica_eq
      rw [hreplica, hid]
      exact (mirrors_upsertChannel h (channelData channel)).congr
        (alike_insertChannel hroom hguild hchannels)
  · next hroom =>
      have hother : isRoomChannel channel = false := Bool.eq_false_of_not_eq_true hroom
      refine h.congr (alike_otherChannel channel.id hguild ?_ ?_ ?_)
      · exact fun old hold => (hkind old hold).trans hother
      · intro new hnew
        rw [hchannels, if_pos rfl] at hnew
        rwa [← Option.some.inj hnew]
      · intro c hc
        rw [hchannels, if_neg hc]

/-- After each change but one of the owner, the replica mirrors the guild. -/
theorem mirrors_deliver (hkeyed : guild.Keyed) (h : Mirrors st.replica (guildData guild))
    {change : GuildChange} (hpossible : guild.possible change = true)
    (howner : ∀ user, change = .owner user → user = guild.ownerId) :
    Mirrors (deliver guild change st).replica (guildData (guild.apply change)) := by
  cases change with
  | memberJoin user roles =>
      exact (mirrors_upsertMember h user roles).congr (alike_insertMember user roles _)
  | memberRoles user roles =>
      rw [deliver, Handler.guildMemberUpdate, (sweepGuild_spec _ _).1.replica_eq]
      exact (mirrors_upsertMember h user roles).congr (alike_insertMember user roles _)
  | memberLeave user =>
      rw [deliver, Handler.guildMemberRemoval, (sweepGuild_spec _ _).1.replica_eq]
      exact (mirrors_removeMember h user).congr (alike_eraseMember user _)
  | roleCreate id permissions =>
      exact (mirrors_upsertRole h ⟨id, permissions⟩).congr (alike_insertRole hkeyed id permissions)
  | rolePermissions id permissions =>
      rw [deliver, Handler.guildRoleUpdate, (sweepGuild_spec _ _).1.replica_eq]
      exact (mirrors_upsertRole h ⟨id, permissions⟩).congr (alike_insertRole hkeyed id permissions)
  | roleDelete id =>
      rw [deliver, Handler.guildRoleDelete, (sweepGuild_spec _ _).1.replica_eq]
      exact (mirrors_removeRole h id).congr (alike_eraseRole hkeyed id)
  | channelCreate id name kind overwrites =>
      refine mirrors_refreshChannel h _ rfl _ rfl (fun c => AList.lookup_insert_ite _ _ _ _) ?_
      -- the id is new
      intro old hold
      have hfresh : id ∉ guild.channels := by simpa [Guild.possible] using hpossible
      rw [AList.lookup_eq_none.mpr hfresh] at hold
      cases hold
  | channelUpdate id name overwrites =>
      have hknown : id ∈ guild.channels := by simpa [Guild.possible] using hpossible
      obtain ⟨channel, hchannel⟩ := Option.isSome_iff_exists.mp (AList.lookup_isSome.mpr hknown)
      obtain ⟨rfl, hguildId⟩ := hkeyed.channel id channel hchannel
      simp only [deliver, hchannel]
      refine mirrors_refreshChannel h
        { channel with name := name, permissionOverwrites := overwrites } hguildId
        (guild.apply (.channelUpdate channel.id name overwrites)) rfl
        (fun c => ?_) (fun old hold => ?_)
      · rw [Guild.apply, AList.lookup_modify]
        split
        · next heq => rw [heq, hchannel, Option.map_some]
        · rfl
      · -- the kind is not written
        dsimp only at hold
        rw [hchannel] at hold
        rw [← Option.some.inj hold]
        rfl
  | channelDelete id =>
      have hknown : id ∈ guild.channels := by simpa [Guild.possible] using hpossible
      obtain ⟨channel, hchannel⟩ := Option.isSome_iff_exists.mp (AList.lookup_isSome.mpr hknown)
      obtain ⟨hid, hguildId⟩ := hkeyed.channel id channel hchannel
      simp only [deliver, hchannel]
      rw [Handler.channelDelete, (sweepChannel_spec _ _).1.replica_eq, hid, hguildId]
      exact (mirrors_removeChannel h id).congr (alike_eraseChannel id)
  | owner user =>
      have hsame : guild.apply (.owner user) = guild := by
        rw [Guild.apply, howner user rfl]
      rw [hsame]
      exact h

end Follows

namespace World

/-- The replica mirrors the guild as it is. -/
def Follows (w : World) : Prop :=
  Mirrors w.app.replica (guildData w.guild)

theorem Follows.step {w : World} {change : GuildChange} (h : w.Follows)
    (howner : KeepsOwner w change) : (w.step change).Follows := by
  unfold World.step
  split
  · next hpossible =>
      refine mirrors_deliver w.keyed h hpossible ?_
      rintro user rfl
      exact howner
  · exact h

theorem Follows.answersFresh {w : World} (h : w.Follows) : w.AnswersFresh :=
  fun user channel => h.sameAnswers (mirrors_replaceGuild _ _) user channel

/-- As long as the guild keeps its owner, the replica maintained by events answers
like one freshly loaded, after every change. -/
theorem answersFresh_throughout (grace : Nat) (guild : Guild) (keyed : guild.Keyed)
    (app : AppState) (changes : List GuildChange)
    (howner : EachStep step KeepsOwner (start grace guild keyed app) changes) :
    Throughout step AnswersFresh (start grace guild keyed app) changes := by
  have hfollows : Throughout step Follows (start grace guild keyed app) changes :=
    throughout_of_eachStep (fun _ _ h hok => Follows.step h hok)
      (mirrors_replaceGuild (guildData guild) grace) howner
  exact hfollows.mono fun _ h => Follows.answersFresh h

/-- A guild of two members and one voice channel, which @everyone may see. -/
def twoMembers : Guild where
  id := 100
  ownerId := 1
  roles := (∅ : Table UInt64 Role).insert 100 ⟨100, 100, DiscordPermissions.viewChannel⟩
  members := ((∅ : Table UInt64 Member).insert 1 ⟨1, 100, []⟩).insert 2 ⟨2, 100, []⟩
  channels := (∅ : Table UInt64 GuildChannel).insert 5 ⟨5, 100, "sala", .voice, []⟩
  voiceStates := ∅
  memberCount := 2

theorem twoMembers_keyed : twoMembers.Keyed where
  role id role h := by
    rw [twoMembers, AList.lookup_insert_ite] at h
    split at h
    · next heq => rw [← Option.some.inj h, heq]
    · simp at h
  channel id channel h := by
    rw [twoMembers, AList.lookup_insert_ite] at h
    split at h
    · next heq =>
        rw [← Option.some.inj h, heq]
        exact ⟨rfl, rfl⟩
    · simp at h

/-- A bot with nothing in its tables. -/
def idleBot : AppState where
  replica := Replica.new 60
  users := ∅
  presence := ∅
  allowedGuilds := none
  removals := []
  published := []

/-- A member is given a new role, the role gains a right, and is deleted. -/
theorem role_changes_answer_fresh :
    Throughout step AnswersFresh (start 60 twoMembers twoMembers_keyed idleBot)
      [.roleCreate 7 0, .memberRoles 2 [7], .rolePermissions 7 DiscordPermissions.connect,
        .roleDelete 7] :=
  answersFresh_throughout 60 twoMembers twoMembers_keyed idleBot _
    ⟨trivial, trivial, trivial, trivial, trivial⟩

/-- The owner hands the guild over.  The replica goes on answering that the old
owner may do everything, and refuses the new one. -/
theorem new_owner_is_not_heard_of :
    ¬ ∀ (grace : Nat) (guild : Guild) (keyed : guild.Keyed) (app : AppState)
        (changes : List GuildChange),
      Throughout step AnswersFresh (start grace guild keyed app) changes := by
  intro hclaim
  have hafter := (hclaim 60 twoMembers twoMembers_keyed idleBot [.owner 2]).2 2 5
  have hanswer := hafter.1
  revert hanswer
  decide

end World

end Bot
end Ldktela
