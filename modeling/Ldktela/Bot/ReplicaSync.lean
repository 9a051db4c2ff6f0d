import Ldktela.Discord.Replica

/-!
# From the gateway's model to the replica's

`crates/bot/src/replica_sync.rs`.  The types of the Discord library are cut down
to the fields the translation reads; its maps keep their keys.
-/

namespace Ldktela
namespace Bot

open Domain
open Discord

inductive PermissionOverwriteType where
  | role (id : UInt64)
  | member (id : UInt64)
  /-- A variant the library does not know yet. -/
  | other
deriving DecidableEq

structure PermissionOverwrite where
  kind : PermissionOverwriteType
  allow : UInt64
  deny : UInt64
deriving DecidableEq

inductive ChannelType where
  | voice
  | stage
  | text
  | other
deriving DecidableEq

structure GuildChannel where
  id : UInt64
  guildId : UInt64
  name : String
  kind : ChannelType
  permissionOverwrites : List PermissionOverwrite
deriving DecidableEq

structure Role where
  id : UInt64
  guildId : UInt64
  permissions : UInt64
deriving DecidableEq

structure Member where
  userId : UInt64
  guildId : UInt64
  roles : List UInt64
deriving DecidableEq

structure Guild where
  id : UInt64
  ownerId : UInt64
  roles : Table UInt64 Role
  members : Table UInt64 Member
  channels : Table UInt64 GuildChannel
  voiceStates : Table UInt64 (Option UInt64)
  memberCount : Nat

/-- Whether this channel can host a room.  Stage channels are excluded. -/
def isRoomChannel (channel : GuildChannel) : Bool :=
  channel.kind = .voice

/-- A variant of Discord's we do not know becomes an overwrite of the id 0, which
matches nobody. -/
def overwrite (ow : PermissionOverwrite) : Overwrite where
  targetId :=
    match ow.kind with
    | .role id => id
    | .member id => id
    | .other => 0
  kind :=
    match ow.kind with
    | .member _ => .member
    | .role _ => .role
    | .other => .role
  allow := ow.allow
  deny := ow.deny

def channelData (channel : GuildChannel) : ChannelData where
  id := channel.id
  name := channel.name
  overwrites := channel.permissionOverwrites.map overwrite

def roleRef (role : Role) : RoleRef where
  id := role.id
  permissions := role.permissions

/-- The whole guild, as `GUILD_CREATE` delivers it. -/
def guildData (guild : Guild) : GuildData where
  id := guild.id
  ownerId := guild.ownerId
  roles := guild.roles.vals.map roleRef
  members := guild.members.collect fun member => some member.roles
  channels := guild.channels.collect fun channel =>
    if isRoomChannel channel then some (channelData channel) else none
  voice := guild.voiceStates.collect fun channelId => channelId

/-- A channel is mirrored exactly when the snapshot lists it as a voice channel. -/
theorem mem_guildData_channels {guild : Guild} {c : UInt64} :
    c ∈ (guildData guild).channels ↔
      ∃ channel, guild.channels.lookup c = some channel ∧ isRoomChannel channel = true := by
  rw [← AList.lookup_isSome, guildData, AList.lookup_collect]
  cases guild.channels.lookup c with
  | none => simp
  | some channel => simp

end Bot
end Ldktela
