import Mathlib.Tactic.Common

/-!
# Discord's channel permission algorithm

`crates/domain/src/discord.rs`, a pure function over 64-bit masks.  The replica
runs it against what it mirrors of a guild.
-/

namespace Ldktela
namespace Domain

/-- A resolved permission bitmask for one member in one channel. -/
structure DiscordPermissions where
  bits : UInt64
deriving DecidableEq

namespace DiscordPermissions

def administrator : UInt64 := (1 : UInt64) <<< 3

/-- The right to go live in a voice channel. -/
def stream : UInt64 := (1 : UInt64) <<< 9

def viewChannel : UInt64 := (1 : UInt64) <<< 10

def connect : UInt64 := (1 : UInt64) <<< 20

/-- `u64::MAX`. -/
def all : DiscordPermissions := ⟨0xFFFFFFFFFFFFFFFF⟩

def contains (p : DiscordPermissions) (bit : UInt64) : Bool :=
  p.bits &&& bit = bit

def canView (p : DiscordPermissions) : Bool :=
  p.contains viewChannel

/-- Whether the member may be in the room at all. -/
def canJoinRoom (p : DiscordPermissions) : Bool :=
  p.canView && p.contains connect

/-- Whether the member may publish a screen. -/
def canPublish (p : DiscordPermissions) : Bool :=
  p.canJoinRoom && p.contains stream

end DiscordPermissions

/-- A role.  `@everyone` is the one whose id equals the guild id. -/
structure RoleRef where
  id : UInt64
  permissions : UInt64
deriving DecidableEq

structure GuildRef where
  id : UInt64
  ownerId : UInt64
  roles : List RoleRef

structure MemberRef where
  userId : UInt64
  roleIds : List UInt64

inductive OverwriteKind where
  | role
  | member
deriving DecidableEq

structure Overwrite where
  targetId : UInt64
  kind : OverwriteKind
  allow : UInt64
  deny : UInt64
deriving DecidableEq

structure ChannelRef where
  id : UInt64
  overwrites : List Overwrite

/-- `(base & !deny) | allow`. -/
def Overwrite.apply (base allow deny : UInt64) : UInt64 :=
  (base &&& ~~~deny) ||| allow

/-- `@everyone` and the member's roles, united. -/
def basePermissions (guild : GuildRef) (member : MemberRef) : UInt64 :=
  let everyone :=
    match guild.roles.find? (fun r => r.id = guild.id) with
    | some role => role.permissions
    | none => 0
  member.roleIds.foldl
    (fun base roleId =>
      match guild.roles.find? (fun r => r.id = roleId) with
      | some role => base ||| role.permissions
      | none => base)
    everyone

/-- The overwrite of `@everyone` in the channel. -/
def applyEveryone (guild : GuildRef) (channel : ChannelRef) (base : UInt64) : UInt64 :=
  match channel.overwrites.find?
      (fun o => o.kind = OverwriteKind.role ∧ o.targetId = guild.id) with
  | some ow => Overwrite.apply base ow.allow ow.deny
  | none => base

/-- The overwrites of the member's roles, accumulated before they are applied: an
allow on one role beats a deny on another. -/
def applyRoles (guild : GuildRef) (member : MemberRef) (channel : ChannelRef)
    (base : UInt64) : UInt64 :=
  let held := channel.overwrites.filter fun o =>
    o.kind = OverwriteKind.role ∧ o.targetId ≠ guild.id ∧ o.targetId ∈ member.roleIds
  Overwrite.apply base
    (held.foldl (fun allow ow => allow ||| ow.allow) 0)
    (held.foldl (fun deny ow => deny ||| ow.deny) 0)

/-- The overwrite of the member, which beats everything. -/
def applyMember (member : MemberRef) (channel : ChannelRef) (base : UInt64) : UInt64 :=
  match channel.overwrites.find?
      (fun o => o.kind = OverwriteKind.member ∧ o.targetId = member.userId) with
  | some ow => Overwrite.apply base ow.allow ow.deny
  | none => base

/-- Resolve what `member` may do in `channel`. -/
def resolve (guild : GuildRef) (member : MemberRef) (channel : ChannelRef) :
    DiscordPermissions :=
  if member.userId = guild.ownerId then
    DiscordPermissions.all
  else
    let base := basePermissions guild member
    -- ADMINISTRATOR comes before any overwrite
    if base &&& DiscordPermissions.administrator = DiscordPermissions.administrator then
      DiscordPermissions.all
    else
      ⟨applyMember member channel
        (applyRoles guild member channel (applyEveryone guild channel base))⟩

/-- The roles of a guild are looked up by id, and nothing else is asked of their
list. -/
theorem resolve_congr {guild guild' : GuildRef} (hid : guild'.id = guild.id)
    (howner : guild'.ownerId = guild.ownerId)
    (hroles : ∀ id, guild'.roles.find? (fun r => r.id = id) =
      guild.roles.find? (fun r => r.id = id))
    (member : MemberRef) (channel : ChannelRef) :
    resolve guild' member channel = resolve guild member channel := by
  have hbase : basePermissions guild' member = basePermissions guild member := by
    simp only [basePermissions, hid, hroles]
  simp only [resolve, hbase, howner, applyEveryone, applyRoles, hid]

end Domain
end Ldktela
