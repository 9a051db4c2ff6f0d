import Ldktela.Domain.Discord
import Ldktela.Lib.Keyed

/-!
# The mirror of the Discord state that authorization depends on

`crates/api/src/discord/replica.rs`.  The mutators are called by the bot's
gateway handler only; each of them takes the write lock once, so each is one
function on the replica.

A channel is resolved through `channelIndex`, which names its guild.  The lemmas
say what each mutator does to `channelInfo` and `permissions`, the two questions
the sweeps ask.
-/

namespace Ldktela
namespace Discord

open Domain

/-- One voice channel, with the overwrites that decide who gets in. -/
structure ChannelData where
  id : UInt64
  name : String
  overwrites : List Overwrite
deriving DecidableEq

/-- One guild and everything under it that bears on a permission decision. -/
structure GuildData where
  id : UInt64
  ownerId : UInt64
  roles : List RoleRef
  /-- Discord user id to the ids of the roles they hold. -/
  members : Table UInt64 (List UInt64)
  /-- Voice channels only. -/
  channels : Table UInt64 ChannelData
  /-- Discord user id to the voice channel they are in right now. -/
  voice : Table UInt64 UInt64

inductive Staleness where
  | fresh
  | stale
deriving DecidableEq

/-- The replica, with the lock taken off and the grace window beside the state. -/
structure Replica where
  guilds : Table UInt64 GuildData
  /-- Channel id to guild id. -/
  channelIndex : Table UInt64 UInt64
  connected : Bool
  disconnectedSince : Option Nat
  /-- How long the gateway may be down before admissions start failing closed. -/
  grace : Nat

namespace Replica

def new (grace : Nat) : Replica where
  guilds := ∅
  channelIndex := ∅
  connected := false
  disconnectedSince := none
  grace := grace

/-! ## Writes -/

/-- Install a guild wholesale, as `GUILD_CREATE` delivers it.  Index entries of
channels that are gone leave first. -/
def replaceGuild (guild : GuildData) (r : Replica) : Replica :=
  { r with
    channelIndex := guild.channels.keys.foldl (fun index id => index.insert id guild.id)
      (r.channelIndex.retain fun _ g => g ≠ guild.id)
    guilds := r.guilds.insert guild.id guild }

def removeGuild (guildId : UInt64) (r : Replica) : Replica :=
  { r with
    channelIndex := r.channelIndex.retain fun _ g => g ≠ guildId
    guilds := r.guilds.erase guildId }

/-- Write to a mirrored guild; a guild that is not mirrored is left out. -/
def modifyGuild (guildId : UInt64) (f : GuildData → GuildData) (r : Replica) : Replica :=
  { r with guilds := r.guilds.modify guildId f }

def upsertMember (guildId userId : UInt64) (roleIds : List UInt64) : Replica → Replica :=
  modifyGuild guildId fun guild =>
    { guild with members := guild.members.insert userId roleIds }

def removeMember (guildId userId : UInt64) : Replica → Replica :=
  modifyGuild guildId fun guild => { guild with members := guild.members.erase userId }

/-- Replace the first role with the same id, or append. -/
def putRole (role : RoleRef) : List RoleRef → List RoleRef
  | [] => [role]
  | existing :: roles =>
      if existing.id = role.id then role :: roles else existing :: putRole role roles

def upsertRole (guildId : UInt64) (role : RoleRef) : Replica → Replica :=
  modifyGuild guildId fun guild => { guild with roles := putRole role guild.roles }

def removeRole (guildId roleId : UInt64) : Replica → Replica :=
  modifyGuild guildId fun guild =>
    { guild with
      roles := guild.roles.filter fun r => r.id ≠ roleId
      members := guild.members.mapVal fun _ roles => roles.filter fun r => r ≠ roleId }

def upsertChannel (guildId : UInt64) (channel : ChannelData) (r : Replica) : Replica :=
  if guildId ∈ r.guilds then
    modifyGuild guildId
      (fun guild => { guild with channels := guild.channels.insert channel.id channel })
      { r with channelIndex := r.channelIndex.insert channel.id guildId }
  else
    r

def removeChannel (guildId channelId : UInt64) (r : Replica) : Replica :=
  modifyGuild guildId
    (fun guild => { guild with channels := guild.channels.erase channelId })
    { r with channelIndex := r.channelIndex.erase channelId }

/-- Records where a user is in voice, or that they left. -/
def setVoice (guildId userId : UInt64) (channelId : Option UInt64) : Replica → Replica :=
  modifyGuild guildId fun guild =>
    { guild with
      voice :=
        match channelId with
        | some channel => guild.voice.insert userId channel
        | none => guild.voice.erase userId }

def setConnected (now : Nat) (connected : Bool) (r : Replica) : Replica :=
  { r with
    connected := connected
    disconnectedSince := if connected then none else some now }

/-! ## Reads -/

/-- Whether the replica may still be trusted for a new admission. -/
def staleness (now : Nat) (r : Replica) : Staleness :=
  if r.connected then
    .fresh
  else
    match r.disconnectedSince with
    | some since => if now - since ≤ r.grace then .fresh else .stale
    | none => .stale

/-- A mirrored channel with its guild, found through the index. -/
def locate (r : Replica) (discordChannelId : UInt64) : Option (UInt64 × GuildData × ChannelData) :=
  (r.channelIndex.lookup discordChannelId).bind fun guildId =>
    (r.guilds.lookup guildId).bind fun guild =>
      (guild.channels.lookup discordChannelId).map fun channel => (guildId, guild, channel)

/-- What a Discord account may do in a voice channel.  `none` means that the
channel is not mirrored, or that the account is not a member of its guild. -/
def permissions (r : Replica) (discordUserId discordChannelId : UInt64) :
    Option DiscordPermissions :=
  (r.locate discordChannelId).bind fun (_, guild, channel) =>
    (guild.members.lookup discordUserId).map fun roleIds =>
      resolve ⟨guild.id, guild.ownerId, guild.roles⟩ ⟨discordUserId, roleIds⟩
        ⟨channel.id, channel.overwrites⟩

/-- `permissions(..).is_some_and(|p| p.can_join_room())`. -/
def mayJoin (r : Replica) (discordUserId discordChannelId : UInt64) : Bool :=
  match r.permissions discordUserId discordChannelId with
  | some p => p.canJoinRoom
  | none => false

/-- The voice channel a user is in right now: the one of the first guild that has
the user in voice.  The order of the guilds is that of a hash map. -/
def voiceChannelOf (r : Replica) (userId : UInt64) : Option UInt64 :=
  r.guilds.vals.findSome? fun guild => guild.voice.lookup userId

/-- Guild id and channel name, for the room payload. -/
def channelInfo (r : Replica) (discordChannelId : UInt64) : Option (UInt64 × String) :=
  (r.locate discordChannelId).map fun (guildId, _, channel) => (guildId, channel.name)

/-- `channel_info(..).is_some_and(|(guild, _)| guild == guild_id)`. -/
def inGuild (r : Replica) (guildId discordChannelId : UInt64) : Bool :=
  match r.channelInfo discordChannelId with
  | some (guild, _) => guild = guildId
  | none => false

/-! ## What the mutators do to the reads -/

variable {r : Replica} {c user : UInt64}

theorem channelInfo_eq_none (h : r.locate c = none) : r.channelInfo c = none := by
  simp [channelInfo, h]

theorem inGuild_iff {guildId : UInt64} :
    r.inGuild guildId c = true ↔ ∃ guild channel, r.locate c = some (guildId, guild, channel) := by
  unfold inGuild channelInfo
  cases hloc : r.locate c with
  | none => simp
  | some found =>
      obtain ⟨g, guild, channel⟩ := found
      simp [Prod.ext_iff]

theorem inGuild_of_locate {r' : Replica} (h : r'.locate c = r.locate c) (guildId : UInt64) :
    r'.inGuild guildId c = r.inGuild guildId c := by
  simp [inGuild, channelInfo, h]

theorem mayJoin_of_locate {r' : Replica} (h : r'.locate c = r.locate c) :
    r'.mayJoin user c = r.mayJoin user c := by
  simp [mayJoin, permissions, h]

/-- The entry of the index names a mirrored guild that has the channel. -/
theorem index_of_locate {guildId : UInt64} {guild : GuildData} {channel : ChannelData}
    (h : r.locate c = some (guildId, guild, channel)) :
    r.channelIndex.lookup c = some guildId ∧ r.guilds.lookup guildId = some guild ∧
      guild.channels.lookup c = some channel := by
  simp only [locate, Option.bind_eq_some_iff, Option.map_eq_some_iff] at h
  obtain ⟨g, hindex, d, hguild, ch, hchannel, heq⟩ := h
  obtain ⟨rfl, hpair⟩ := Prod.mk.inj heq
  obtain ⟨rfl, rfl⟩ := Prod.mk.inj hpair
  exact ⟨hindex, hguild, hchannel⟩

/-- Writing to the roles, the members or the voice states of a guild leaves its channels
alone. -/
theorem channelInfo_modifyGuild {guildId : UInt64} {f : GuildData → GuildData}
    (hf : ∀ guild, (f guild).channels = guild.channels) :
    (modifyGuild guildId f r).channelInfo c = r.channelInfo c := by
  unfold channelInfo locate modifyGuild
  dsimp only
  cases hindex : r.channelIndex.lookup c with
  | none => rfl
  | some g' =>
      simp only [Option.bind_some, AList.lookup_modify]
      cases hguild : r.guilds.lookup g' with
      | none => simp
      | some guild =>
          by_cases heq : g' = guildId
          · simp only [heq, if_true, Option.map_some, Option.bind_some, hf, Option.map_map]
            rfl
          · simp [heq]

/-- It moves no channel between guilds. -/
theorem inGuild_modifyGuild {guildId g : UInt64} {f : GuildData → GuildData}
    (hf : ∀ guild, (f guild).channels = guild.channels) :
    (modifyGuild guildId f r).inGuild g c = r.inGuild g c := by
  simp [inGuild, channelInfo_modifyGuild hf]

/-- Nor does it change anybody's access outside the guild. -/
theorem mayJoin_modifyGuild_of_not_inGuild {guildId : UInt64} {f : GuildData → GuildData}
    (hf : ∀ guild, (f guild).channels = guild.channels) (hout : r.inGuild guildId c = false) :
    (modifyGuild guildId f r).mayJoin user c = r.mayJoin user c := by
  apply mayJoin_of_locate
  -- if the index names the guild, the guild does not have the channel
  have hnone : ∀ guild, r.channelIndex.lookup c = some guildId →
      r.guilds.lookup guildId = some guild → guild.channels.lookup c = none := by
    intro guild hindex hguild
    cases hchannel : guild.channels.lookup c with
    | none => rfl
    | some channel =>
        have hin : r.inGuild guildId c = true :=
          inGuild_iff.mpr ⟨guild, channel, by simp [locate, hindex, hguild, hchannel]⟩
        rw [hout] at hin
        cases hin
  unfold locate modifyGuild
  dsimp only
  cases hindex : r.channelIndex.lookup c with
  | none => rfl
  | some g =>
      simp only [Option.bind_some, AList.lookup_modify]
      by_cases heq : g = guildId
      · subst heq
        cases hguild : r.guilds.lookup g with
        | none => simp
        | some guild => simp [hf, hnone guild hindex hguild]
      · simp [heq]

/-- The index after the entries of a list of channels have been written. -/
private theorem lookup_insertAll (ids : List UInt64) (g : UInt64) (index : Table UInt64 UInt64)
    (c : UInt64) :
    (ids.foldl (fun index id => index.insert id g) index).lookup c =
      if c ∈ ids then some g else index.lookup c := by
  induction ids generalizing index with
  | nil => rfl
  | cons id ids ih =>
      rw [List.foldl_cons, ih, AList.lookup_insert_ite]
      by_cases hmem : c ∈ ids
      · simp [hmem]
      · simp [hmem]

theorem lookup_channelIndex_replaceGuild (guild : GuildData) (r : Replica) (c : UInt64) :
    (replaceGuild guild r).channelIndex.lookup c =
      if c ∈ guild.channels then some guild.id
      else (r.channelIndex.lookup c).filter (fun g => g ≠ guild.id) := by
  unfold replaceGuild
  dsimp only
  rw [lookup_insertAll, AList.lookup_retain]
  exact if_congr AList.mem_keys.symm rfl rfl

/-- A channel of the snapshot resolves to the snapshot. -/
theorem locate_replaceGuild_of_mem {guild : GuildData} (h : c ∈ guild.channels) :
    ∃ channel, (replaceGuild guild r).locate c = some (guild.id, guild, channel) := by
  obtain ⟨channel, hchannel⟩ := Option.isSome_iff_exists.mp (AList.lookup_isSome.mpr h)
  refine ⟨channel, ?_⟩
  unfold locate
  rw [lookup_channelIndex_replaceGuild, if_pos h]
  simp [replaceGuild, hchannel]

/-- A channel of the guild that the snapshot lacks resolves no more. -/
theorem locate_replaceGuild_of_not_mem {guild : GuildData} (h : c ∉ guild.channels)
    (hin : r.inGuild guild.id c = true) : (replaceGuild guild r).locate c = none := by
  obtain ⟨d, channel, hloc⟩ := inGuild_iff.mp hin
  unfold locate
  rw [lookup_channelIndex_replaceGuild, if_neg h, (index_of_locate hloc).1]
  simp

/-- A channel of another guild that the snapshot does not take over. -/
theorem locate_replaceGuild_of_ne {guild : GuildData} {g : UInt64} (h : c ∉ guild.channels)
    (hne : g ≠ guild.id) (hin : r.inGuild g c = true) :
    (replaceGuild guild r).locate c = r.locate c := by
  obtain ⟨d, channel, hloc⟩ := inGuild_iff.mp hin
  have hindex := (index_of_locate hloc).1
  have hguilds : (replaceGuild guild r).guilds.lookup g = r.guilds.lookup g :=
    AList.lookup_insert_ne hne
  simp only [locate, lookup_channelIndex_replaceGuild, if_neg h, hindex,
    Option.filter_some_pos (p := fun g => decide (g ≠ guild.id)) (decide_eq_true hne),
    Option.bind_some, hguilds]

/-- No channel of a removed guild resolves. -/
theorem locate_removeGuild {guildId : UInt64} (hin : r.inGuild guildId c = true) :
    (removeGuild guildId r).locate c = none := by
  obtain ⟨d, channel, hloc⟩ := inGuild_iff.mp hin
  unfold locate removeGuild
  dsimp only
  rw [AList.lookup_retain, (index_of_locate hloc).1]
  simp

/-- Removing a guild leaves the channels of the other ones alone. -/
theorem locate_removeGuild_of_ne {guildId g : UInt64} (hne : g ≠ guildId)
    (hin : r.inGuild g c = true) : (removeGuild guildId r).locate c = r.locate c := by
  obtain ⟨d, channel, hloc⟩ := inGuild_iff.mp hin
  have hindex := (index_of_locate hloc).1
  have hguilds : (r.guilds.erase guildId).lookup g = r.guilds.lookup g :=
    AList.lookup_erase_ne hne
  simp only [locate, removeGuild, AList.lookup_retain, hindex,
    Option.filter_some_pos (p := fun g => decide (g ≠ guildId)) (decide_eq_true hne),
    Option.bind_some, hguilds]

/-- Writing one channel leaves the other ones of the guild alone. -/
theorem mayJoin_modifyGuild_channels {guildId : UInt64} {f : GuildData → GuildData}
    (hf : ∀ guild, (f guild).channels.lookup c = guild.channels.lookup c)
    (hmembers : ∀ guild, (f guild).members = guild.members ∧ (f guild).roles = guild.roles ∧
      (f guild).id = guild.id ∧ (f guild).ownerId = guild.ownerId)
    {r' : Replica} (hindex : r'.channelIndex.lookup c = r.channelIndex.lookup c)
    (hguilds : r'.guilds = r.guilds) :
    (modifyGuild guildId f r').mayJoin user c = r.mayJoin user c := by
  have hperm : (modifyGuild guildId f r').permissions user c = r.permissions user c := by
    unfold permissions locate modifyGuild
    dsimp only
    rw [hindex, hguilds]
    cases r.channelIndex.lookup c with
    | none => rfl
    | some g =>
        simp only [Option.bind_some, AList.lookup_modify]
        cases r.guilds.lookup g with
        | none => simp
        | some guild =>
            by_cases heq : g = guildId
            · obtain ⟨hm, hr, hid, howner⟩ := hmembers guild
              simp only [heq, if_true, Option.map_some, Option.bind_some, hf]
              cases guild.channels.lookup c with
              | none => rfl
              | some channel => simp [hm, hr, hid, howner]
            · simp [heq]
  simp [mayJoin, hperm]

/-- Writing a channel changes nobody's access to another one. -/
theorem mayJoin_upsertChannel {guildId : UInt64} {channel : ChannelData} (hne : c ≠ channel.id) :
    (upsertChannel guildId channel r).mayJoin user c = r.mayJoin user c := by
  unfold upsertChannel
  split
  · refine mayJoin_modifyGuild_channels (fun guild => ?_) (fun guild => ?_) ?_ rfl
    · exact AList.lookup_insert_ne hne
    · exact ⟨rfl, rfl, rfl, rfl⟩
    · exact AList.lookup_insert_ne hne
  · rfl

/-- Removing a channel changes nobody's access to another one. -/
theorem mayJoin_removeChannel {guildId channelId : UInt64} (hne : c ≠ channelId) :
    (removeChannel guildId channelId r).mayJoin user c = r.mayJoin user c := by
  unfold removeChannel
  refine mayJoin_modifyGuild_channels (fun guild => ?_) (fun guild => ?_) ?_ rfl
  · exact AList.lookup_erase_ne hne
  · exact ⟨rfl, rfl, rfl, rfl⟩
  · exact AList.lookup_erase_ne hne

/-- A channel that admits somebody is mirrored. -/
theorem channelInfo_of_mayJoin (h : r.mayJoin user c = true) : r.channelInfo c ≠ none := by
  intro hnone
  have hloc : r.locate c = none := by simpa [channelInfo] using hnone
  simp [mayJoin, permissions, hloc] at h

/-- Writing a channel to the mirror keeps what is mirrored. -/
theorem channelInfo_upsertChannel {guildId : UInt64} {channel : ChannelData}
    (h : r.channelInfo c ≠ none) : (upsertChannel guildId channel r).channelInfo c ≠ none := by
  unfold upsertChannel
  split
  · next hmirrored =>
      obtain ⟨guild, hguild⟩ := Option.isSome_iff_exists.mp (AList.lookup_isSome.mpr hmirrored)
      obtain ⟨⟨g, name⟩, hinfo⟩ := Option.ne_none_iff_exists'.mp h
      simp only [channelInfo, Option.map_eq_some_iff] at hinfo
      obtain ⟨⟨g', d, ch⟩, hloc, -⟩ := hinfo
      obtain ⟨hindex, hlookup, hchannel⟩ := index_of_locate hloc
      unfold channelInfo locate modifyGuild
      dsimp only
      rw [AList.lookup_insert_ite]
      by_cases hc : c = channel.id
      · simp [hc, AList.lookup_modify, hguild]
      · rw [if_neg hc, hindex, Option.bind_some, AList.lookup_modify, hlookup]
        by_cases hg : g' = guildId
        · simp [hg, hc, hchannel]
        · simp [hg, hchannel]
  · exact h

/-- Removing a channel from the mirror keeps the other ones. -/
theorem channelInfo_removeChannel {guildId channelId : UInt64} (hne : c ≠ channelId) :
    (removeChannel guildId channelId r).channelInfo c = r.channelInfo c := by
  unfold removeChannel channelInfo locate modifyGuild
  dsimp only
  rw [AList.lookup_erase_ite, if_neg hne]
  cases hindex : r.channelIndex.lookup c with
  | none => rfl
  | some g =>
      simp only [Option.bind_some, AList.lookup_modify]
      cases hguild : r.guilds.lookup g with
      | none => simp
      | some guild =>
          by_cases heq : g = guildId
          · simp only [heq, if_true, Option.map_some, Option.bind_some, AList.lookup_erase_ite,
              if_neg hne, Option.map_map]
            rfl
          · simp [heq]

/-! ## Who is in voice -/

/-- A write that leaves the entry of a person alone leaves their answer alone. -/
theorem voiceChannelOf_modifyGuild {guildId : UInt64} {f : GuildData → GuildData}
    (hf : ∀ guild, (f guild).voice.lookup user = guild.voice.lookup user) :
    (modifyGuild guildId f r).voiceChannelOf user = r.voiceChannelOf user :=
  AList.findSome?_vals_modify guildId (fun guild : GuildData => guild.voice.lookup user) hf

theorem voiceChannelOf_upsertChannel {guildId : UInt64} {channel : ChannelData} :
    (upsertChannel guildId channel r).voiceChannelOf user = r.voiceChannelOf user := by
  unfold upsertChannel
  split
  · exact voiceChannelOf_modifyGuild fun _ => rfl
  · rfl

/-- Recording where people are in voice changes nobody's access. -/
theorem mayJoin_setVoice {guildId other : UInt64} {channelId : Option UInt64} :
    (setVoice guildId other channelId r).mayJoin user c = r.mayJoin user c := by
  unfold setVoice
  refine mayJoin_modifyGuild_channels (r := r) (fun guild => ?_) (fun guild => ?_) rfl rfl
  · rfl
  · exact ⟨rfl, rfl, rfl, rfl⟩

theorem channelInfo_setVoice {guildId other : UInt64} {channelId : Option UInt64} :
    (setVoice guildId other channelId r).channelInfo c = r.channelInfo c := by
  unfold setVoice
  exact channelInfo_modifyGuild fun _ => rfl

/-- What a voice state writes leaves everybody else where they are. -/
theorem lookup_voice_of_ne {other : UInt64} (channelId : Option UInt64) (hne : user ≠ other)
    (voice : Table UInt64 UInt64) :
    (match channelId with
      | some channel => voice.insert other channel
      | none => voice.erase other).lookup user = voice.lookup user := by
  cases channelId with
  | none => exact AList.lookup_erase_ne hne
  | some channel => exact AList.lookup_insert_ne hne

theorem voiceChannelOf_setVoice_of_ne {guildId other : UInt64} {channelId : Option UInt64}
    (hne : user ≠ other) :
    (setVoice guildId other channelId r).voiceChannelOf user = r.voiceChannelOf user :=
  voiceChannelOf_modifyGuild fun guild => lookup_voice_of_ne channelId hne guild.voice

/-- Where a mirrored guild has a person in voice. -/
def voiceIn (r : Replica) (guildId userId : UInt64) : Option UInt64 :=
  (r.guilds.lookup guildId).bind fun guild => guild.voice.lookup userId

/-- The answer is one that a mirrored guild has. -/
theorem exists_voiceIn {channel : UInt64} (h : r.voiceChannelOf user = some channel) :
    ∃ g ∈ r.guilds, r.voiceIn g user = some channel := by
  obtain ⟨guild, hmem, hvoice⟩ := List.exists_of_findSome?_eq_some h
  obtain ⟨g, hguild⟩ := AList.mem_vals_iff.mp hmem
  refine ⟨g, AList.lookup_isSome.mp (by simp [hguild]), ?_⟩
  rw [voiceIn, hguild, Option.bind_some, hvoice]

/-- Without an answer no mirrored guild has the person. -/
theorem voiceIn_eq_none (h : r.voiceChannelOf user = none) (g : UInt64) :
    r.voiceIn g user = none := by
  unfold voiceIn
  cases hguild : r.guilds.lookup g with
  | none => rfl
  | some guild =>
      have hmem : guild ∈ r.guilds.vals := AList.mem_vals_iff.mpr ⟨g, hguild⟩
      exact List.findSome?_eq_none_iff.mp h guild hmem

theorem mem_guilds_modifyGuild {guildId g : UInt64} {f : GuildData → GuildData} :
    g ∈ (modifyGuild guildId f r).guilds ↔ g ∈ r.guilds := by
  rw [← AList.lookup_isSome, ← AList.lookup_isSome, modifyGuild, AList.lookup_modify]
  split
  · rw [Option.isSome_map]
  · rfl

theorem voiceIn_modifyGuild {guildId g : UInt64} {f : GuildData → GuildData}
    (hf : ∀ guild, (f guild).voice.lookup user = guild.voice.lookup user) :
    (modifyGuild guildId f r).voiceIn g user = r.voiceIn g user := by
  unfold voiceIn modifyGuild
  dsimp only
  rw [AList.lookup_modify]
  split
  · cases r.guilds.lookup g with
    | none => rfl
    | some guild => exact hf guild
  · rfl

/-- A voice state is recorded in a guild that is mirrored. -/
theorem voiceIn_setVoice {guildId g : UInt64} {channelId : Option UInt64} (hmem : g ∈ r.guilds) :
    (setVoice guildId user channelId r).voiceIn g user =
      if g = guildId then channelId else r.voiceIn g user := by
  obtain ⟨guild, hguild⟩ := Option.isSome_iff_exists.mp (AList.lookup_isSome.mpr hmem)
  unfold voiceIn setVoice modifyGuild
  dsimp only
  rw [AList.lookup_modify, hguild]
  split
  · cases channelId with
    | none => exact AList.lookup_erase user guild.voice
    | some channel => exact AList.lookup_insert guild.voice
  · rfl

theorem voiceIn_setVoice_of_ne {guildId other g : UInt64} {channelId : Option UInt64}
    (hne : user ≠ other) :
    (setVoice guildId other channelId r).voiceIn g user = r.voiceIn g user :=
  voiceIn_modifyGuild fun guild => lookup_voice_of_ne channelId hne guild.voice

theorem voiceIn_upsertChannel {guildId g : UInt64} {channel : ChannelData} :
    (upsertChannel guildId channel r).voiceIn g user = r.voiceIn g user := by
  unfold upsertChannel
  split
  · exact voiceIn_modifyGuild fun _ => rfl
  · rfl

theorem mem_guilds_upsertChannel {guildId g : UInt64} {channel : ChannelData} :
    g ∈ (upsertChannel guildId channel r).guilds ↔ g ∈ r.guilds := by
  unfold upsertChannel
  split
  · exact mem_guilds_modifyGuild
  · rfl

theorem voiceIn_replaceGuild {guild : GuildData} {g : UInt64} :
    (replaceGuild guild r).voiceIn g user =
      if g = guild.id then guild.voice.lookup user else r.voiceIn g user := by
  unfold voiceIn replaceGuild
  dsimp only
  rw [AList.lookup_insert_ite]
  split
  · rfl
  · rfl

theorem voiceIn_removeGuild {guildId g : UInt64} (hne : g ≠ guildId) :
    (removeGuild guildId r).voiceIn g user = r.voiceIn g user := by
  unfold voiceIn removeGuild
  dsimp only
  rw [AList.lookup_erase_ne hne]

end Replica

end Discord
end Ldktela
