import Ldktela.Discord.Replica
import Ldktela.Lib.Runs

/-!
# The channel index of the replica

`channelIndex` is derived from the guilds, and every mutator of
`crates/api/src/discord/replica.rs` that touches a channel keeps it up by hand.

* `Sound`: an entry names a mirrored guild that has the channel.  Every mutator keeps this.
* `Complete`: every channel of every mirrored guild is indexed to it.  This needs that no two
  guilds claim one channel: the mutators ask it of nobody, and Discord's ids give it.
-/

namespace Ldktela
namespace Discord

open Runs

/-- The mutators with their arguments. -/
inductive Write where
  | replaceGuild (guild : GuildData)
  | removeGuild (guildId : UInt64)
  | upsertMember (guildId userId : UInt64) (roleIds : List UInt64)
  | removeMember (guildId userId : UInt64)
  | upsertRole (guildId : UInt64) (role : Domain.RoleRef)
  | removeRole (guildId roleId : UInt64)
  | upsertChannel (guildId : UInt64) (channel : ChannelData)
  | removeChannel (guildId channelId : UInt64)
  | setVoice (guildId userId : UInt64) (channelId : Option UInt64)
  | setConnected (now : Nat) (connected : Bool)

/-- The channels that a write names, each with the guild it names them under. -/
def Write.uses : Write → List (UInt64 × UInt64)
  | .replaceGuild guild => guild.channels.keys.map fun c => (c, guild.id)
  | .upsertChannel guildId channel => [(channel.id, guildId)]
  | .removeChannel guildId channelId => [(channelId, guildId)]
  | _ => []

namespace Replica

def write (r : Replica) : Write → Replica
  | .replaceGuild guild => replaceGuild guild r
  | .removeGuild guildId => removeGuild guildId r
  | .upsertMember guildId userId roleIds => upsertMember guildId userId roleIds r
  | .removeMember guildId userId => removeMember guildId userId r
  | .upsertRole guildId role => upsertRole guildId role r
  | .removeRole guildId roleId => removeRole guildId roleId r
  | .upsertChannel guildId channel => upsertChannel guildId channel r
  | .removeChannel guildId channelId => removeChannel guildId channelId r
  | .setVoice guildId userId channelId => setVoice guildId userId channelId r
  | .setConnected now connected => setConnected now connected r

/-- A channel of a mirrored guild. -/
def channelIn (r : Replica) (guildId c : UInt64) : Option ChannelData :=
  (r.guilds.lookup guildId).bind fun guild => guild.channels.lookup c

/-- No entry of the index dangles. -/
def Sound (r : Replica) : Prop :=
  ∀ c g, r.channelIndex.lookup c = some g → (r.channelIn g c).isSome

/-- No channel of a mirrored guild is missing from the index. -/
def Complete (r : Replica) : Prop :=
  ∀ c g, (r.channelIn g c).isSome → r.channelIndex.lookup c = some g

/-- Every mirrored channel is under its own guild. -/
def Owned (guildOf : UInt64 → UInt64) (r : Replica) : Prop :=
  ∀ c g, (r.channelIn g c).isSome → g = guildOf c

/-! ## What the mutators do to the channels of the guilds -/

section Channels

variable {r : Replica} {c g : UInt64}

theorem channelIn_modifyGuild {guildId : UInt64} {f : GuildData → GuildData}
    (hf : ∀ guild, (f guild).channels.lookup c = guild.channels.lookup c) :
    (modifyGuild guildId f r).channelIn g c = r.channelIn g c := by
  unfold channelIn modifyGuild
  dsimp only
  rw [AList.lookup_modify]
  split
  · cases r.guilds.lookup g with
    | none => rfl
    | some guild => exact hf guild
  · rfl

theorem channelIn_replaceGuild {guild : GuildData} :
    (replaceGuild guild r).channelIn g c =
      if g = guild.id then guild.channels.lookup c else r.channelIn g c := by
  unfold channelIn replaceGuild
  dsimp only
  rw [AList.lookup_insert_ite]
  split
  · rfl
  · rfl

theorem channelIn_removeGuild {guildId : UInt64} :
    (removeGuild guildId r).channelIn g c = if g = guildId then none else r.channelIn g c := by
  unfold channelIn removeGuild
  dsimp only
  rw [AList.lookup_erase_ite]
  split
  · rfl
  · rfl

/-- A write to the channels of one guild. -/
theorem channelIn_modifyChannels {guildId : UInt64}
    {f : Table UInt64 ChannelData → Table UInt64 ChannelData} :
    (modifyGuild guildId (fun guild => { guild with channels := f guild.channels }) r).channelIn
        g c =
      if g = guildId then (r.guilds.lookup g).bind fun guild => (f guild.channels).lookup c
      else r.channelIn g c := by
  unfold channelIn modifyGuild
  dsimp only
  rw [AList.lookup_modify]
  split
  · cases r.guilds.lookup g <;> rfl
  · rfl

theorem channelIn_upsertChannel {guildId : UInt64} {channel : ChannelData}
    (hmem : guildId ∈ r.guilds) :
    (upsertChannel guildId channel r).channelIn g c =
      if g = guildId ∧ c = channel.id then some channel else r.channelIn g c := by
  obtain ⟨guild, hguild⟩ := Option.isSome_iff_exists.mp (AList.lookup_isSome.mpr hmem)
  rw [upsertChannel, if_pos hmem, channelIn_modifyChannels]
  by_cases hg : g = guildId
  · subst hg
    rw [if_pos rfl, channelIn, hguild, Option.bind_some, Option.bind_some,
      AList.lookup_insert_ite]
    simp only [true_and]
  · rw [if_neg hg, if_neg fun h => hg h.1]
    rfl

theorem channelIn_removeChannel {guildId channelId : UInt64} :
    (removeChannel guildId channelId r).channelIn g c =
      if g = guildId ∧ c = channelId then none else r.channelIn g c := by
  rw [removeChannel, channelIn_modifyChannels]
  by_cases hg : g = guildId
  · subst hg
    rw [if_pos rfl, channelIn]
    cases r.guilds.lookup g with
    | none => simp
    | some guild =>
        rw [Option.bind_some, Option.bind_some, AList.lookup_erase_ite]
        simp only [true_and]
  · rw [if_neg hg, if_neg fun h => hg h.1]
    rfl

end Channels

/-! ## The index -/

section Index

variable {r r' : Replica} {guildOf : UInt64 → UInt64}

theorem Sound.congr (h : r.Sound) (hindex : r'.channelIndex = r.channelIndex)
    (hchannels : ∀ c g, r'.channelIn g c = r.channelIn g c) : r'.Sound := by
  intro c g hentry
  rw [hchannels]
  exact h c g (hindex ▸ hentry)

theorem sound_replaceGuild (h : r.Sound) (guild : GuildData) : (replaceGuild guild r).Sound := by
  intro c g hentry
  rw [lookup_channelIndex_replaceGuild] at hentry
  rw [channelIn_replaceGuild]
  split at hentry
  · next hmem =>
    rw [if_pos (Option.some.inj hentry).symm]
    exact AList.lookup_isSome.mpr hmem
  · obtain ⟨hold, hne⟩ := Option.filter_eq_some_iff.mp hentry
    rw [if_neg (of_decide_eq_true hne)]
    exact h c g hold

theorem sound_removeGuild (h : r.Sound) (guildId : UInt64) : (removeGuild guildId r).Sound := by
  intro c g hentry
  rw [removeGuild, AList.lookup_retain] at hentry
  obtain ⟨hold, hne⟩ := Option.filter_eq_some_iff.mp hentry
  rw [channelIn_removeGuild, if_neg (of_decide_eq_true hne)]
  exact h c g hold

theorem sound_upsertChannel (h : r.Sound) (guildId : UInt64) (channel : ChannelData) :
    (upsertChannel guildId channel r).Sound := by
  by_cases hmem : guildId ∈ r.guilds
  · intro c g hentry
    have hindex : (upsertChannel guildId channel r).channelIndex =
        r.channelIndex.insert channel.id guildId := by rw [upsertChannel, if_pos hmem]; rfl
    rw [hindex, AList.lookup_insert_ite] at hentry
    rw [channelIn_upsertChannel hmem]
    split at hentry
    · next heq =>
      rw [if_pos ⟨(Option.some.inj hentry).symm, heq⟩]
      rfl
    · next hne =>
      rw [if_neg fun hboth => hne hboth.2]
      exact h c g hentry
  · rw [upsertChannel, if_neg hmem]
    exact h

theorem sound_removeChannel (h : r.Sound) (guildId channelId : UInt64) :
    (removeChannel guildId channelId r).Sound := by
  intro c g hentry
  have hindex : (removeChannel guildId channelId r).channelIndex =
      r.channelIndex.erase channelId := rfl
  rw [hindex, AList.lookup_erase_ite] at hentry
  rw [channelIn_removeChannel]
  split at hentry
  · cases hentry
  · next hne =>
    rw [if_neg fun hboth => hne hboth.2]
    exact h c g hentry

/-- No mutator leaves an entry dangling, whatever its arguments. -/
theorem sound_write (h : r.Sound) (w : Write) : (r.write w).Sound := by
  cases w with
  | replaceGuild guild => exact sound_replaceGuild h guild
  | removeGuild guildId => exact sound_removeGuild h guildId
  | upsertChannel guildId channel => exact sound_upsertChannel h guildId channel
  | removeChannel guildId channelId => exact sound_removeChannel h guildId channelId
  | upsertMember => exact h.congr rfl fun c g => channelIn_modifyGuild fun _ => rfl
  | removeMember => exact h.congr rfl fun c g => channelIn_modifyGuild fun _ => rfl
  | upsertRole => exact h.congr rfl fun c g => channelIn_modifyGuild fun _ => rfl
  | removeRole => exact h.congr rfl fun c g => channelIn_modifyGuild fun _ => rfl
  | setVoice => exact h.congr rfl fun c g => channelIn_modifyGuild fun _ => rfl
  | setConnected => exact h

/-- What is mirrored is indexed, and nothing is mirrored under a foreign guild. -/
structure Kept (guildOf : UInt64 → UInt64) (r : Replica) : Prop where
  complete : r.Complete
  owned : r.Owned guildOf

theorem Kept.congr (h : r.Kept guildOf) (hindex : r'.channelIndex = r.channelIndex)
    (hchannels : ∀ c g, r'.channelIn g c = r.channelIn g c) : r'.Kept guildOf where
  complete c g hin := by
    rw [hchannels] at hin
    rw [hindex]
    exact h.complete c g hin
  owned c g hin := by
    rw [hchannels] at hin
    exact h.owned c g hin

theorem kept_replaceGuild (h : r.Kept guildOf) {guild : GuildData}
    (hown : ∀ c ∈ guild.channels, guild.id = guildOf c) :
    (replaceGuild guild r).Kept guildOf where
  complete c g hin := by
    rw [lookup_channelIndex_replaceGuild]
    rw [channelIn_replaceGuild] at hin
    split at hin
    · next hg =>
      rw [if_pos (AList.lookup_isSome.mp hin), hg]
    · next hg =>
      -- the snapshot cannot claim a channel of another guild
      have hclaim : c ∉ guild.channels := fun hmem =>
        hg ((h.owned c g hin).trans (hown c hmem).symm)
      rw [if_neg hclaim, h.complete c g hin]
      exact Option.filter_some_pos (decide_eq_true hg)
  owned c g hin := by
    rw [channelIn_replaceGuild] at hin
    split at hin
    · next hg =>
      rw [hg]
      exact hown c (AList.lookup_isSome.mp hin)
    · exact h.owned c g hin

theorem kept_removeGuild (h : r.Kept guildOf) (guildId : UInt64) :
    (removeGuild guildId r).Kept guildOf where
  complete c g hin := by
    rw [channelIn_removeGuild] at hin
    split at hin
    · cases hin
    · next hg =>
      rw [removeGuild, AList.lookup_retain, h.complete c g hin]
      exact Option.filter_some_pos (decide_eq_true hg)
  owned c g hin := by
    rw [channelIn_removeGuild] at hin
    split at hin
    · cases hin
    · exact h.owned c g hin

theorem kept_upsertChannel (h : r.Kept guildOf) {guildId : UInt64} {channel : ChannelData}
    (hown : guildId = guildOf channel.id) : (upsertChannel guildId channel r).Kept guildOf := by
  by_cases hmem : guildId ∈ r.guilds
  · have hindex : (upsertChannel guildId channel r).channelIndex =
        r.channelIndex.insert channel.id guildId := by rw [upsertChannel, if_pos hmem]; rfl
    constructor
    · intro c g hin
      rw [channelIn_upsertChannel hmem] at hin
      rw [hindex, AList.lookup_insert_ite]
      split at hin
      · next hboth => rw [if_pos hboth.2, hboth.1]
      · next hboth =>
        have hne : c ≠ channel.id := fun hc =>
          hboth ⟨((h.owned c g hin).trans (congrArg guildOf hc)).trans hown.symm, hc⟩
        rw [if_neg hne]
        exact h.complete c g hin
    · intro c g hin
      rw [channelIn_upsertChannel hmem] at hin
      split at hin
      · next hboth => rw [hboth.1, hboth.2, hown]
      · exact h.owned c g hin
  · rw [upsertChannel, if_neg hmem]
    exact h

theorem kept_removeChannel (h : r.Kept guildOf) {guildId channelId : UInt64}
    (hown : guildId = guildOf channelId) : (removeChannel guildId channelId r).Kept guildOf where
  complete c g hin := by
    have hindex : (removeChannel guildId channelId r).channelIndex =
        r.channelIndex.erase channelId := rfl
    rw [channelIn_removeChannel] at hin
    rw [hindex, AList.lookup_erase_ite]
    split at hin
    · cases hin
    · next hboth =>
      have hne : c ≠ channelId := fun hc =>
        hboth ⟨((h.owned c g hin).trans (congrArg guildOf hc)).trans hown.symm, hc⟩
      rw [if_neg hne]
      exact h.complete c g hin
  owned c g hin := by
    rw [channelIn_removeChannel] at hin
    split at hin
    · cases hin
    · exact h.owned c g hin

theorem kept_write (h : r.Kept guildOf) {w : Write}
    (hown : ∀ use ∈ w.uses, use.2 = guildOf use.1) : (r.write w).Kept guildOf := by
  cases w with
  | replaceGuild guild =>
      refine kept_replaceGuild h fun c hc => hown (c, guild.id) ?_
      exact List.mem_map_of_mem (AList.mem_keys.mp hc)
  | removeGuild guildId => exact kept_removeGuild h guildId
  | upsertChannel guildId channel =>
      exact kept_upsertChannel h (hown (channel.id, guildId) List.mem_cons_self)
  | removeChannel guildId channelId =>
      exact kept_removeChannel h (hown (channelId, guildId) List.mem_cons_self)
  | upsertMember => exact h.congr rfl fun c g => channelIn_modifyGuild fun _ => rfl
  | removeMember => exact h.congr rfl fun c g => channelIn_modifyGuild fun _ => rfl
  | upsertRole => exact h.congr rfl fun c g => channelIn_modifyGuild fun _ => rfl
  | removeRole => exact h.congr rfl fun c g => channelIn_modifyGuild fun _ => rfl
  | setVoice => exact h.congr rfl fun c g => channelIn_modifyGuild fun _ => rfl
  | setConnected => exact ⟨h.complete, h.owned⟩

end Index

/-! ## Every run -/

/-- Each mirrored channel answers, with the guild it is mirrored under. -/
def FindsEvery (r : Replica) : Prop :=
  ∀ g guild c channel, r.guilds.lookup g = some guild → guild.channels.lookup c = some channel →
    r.channelIndex.lookup c = some g ∧ r.channelInfo c = some (g, channel.name) ∧
      ∀ user, r.permissions user c = (guild.members.lookup user).map fun roleIds =>
        Domain.resolve ⟨guild.id, guild.ownerId, guild.roles⟩ ⟨user, roleIds⟩
          ⟨channel.id, channel.overwrites⟩

theorem Complete.findsEvery {r : Replica} (h : r.Complete) : r.FindsEvery := by
  intro g guild c channel hguild hchannel
  have hindex : r.channelIndex.lookup c = some g :=
    h c g (by rw [channelIn, hguild, Option.bind_some, hchannel]; rfl)
  have hlocate : r.locate c = some (g, guild, channel) := by
    rw [locate, hindex, Option.bind_some, hguild, Option.bind_some, hchannel]
    rfl
  refine ⟨hindex, ?_, fun user => ?_⟩
  · rw [channelInfo, hlocate]
    rfl
  · rw [permissions, hlocate]
    rfl

theorem sound_new (grace : Nat) : (new grace).Sound :=
  fun _ _ hentry => by cases hentry

theorem kept_new (guildOf : UInt64 → UInt64) (grace : Nat) : (new grace).Kept guildOf where
  complete _ _ hin := by cases hin
  owned _ _ hin := by cases hin

/-- The index never dangles; when every channel is used with its own guild only, nothing is
missing from it. -/
theorem channelIndex_exact (grace : Nat) (writes : List Write) :
    Throughout write Sound (new grace) writes ∧
      ∀ guildOf : UInt64 → UInt64,
        (∀ w ∈ writes, ∀ use ∈ w.uses, use.2 = guildOf use.1) →
          Throughout write FindsEvery (new grace) writes := by
  constructor
  · exact throughout_of_eachStep (fun _ w hsound _ => sound_write hsound w) (sound_new grace)
      (eachStep_of_forall (fun _ _ => trivial) (new grace) writes)
  · intro guildOf hown
    have hok : EachStep write (fun _ w => ∀ use ∈ w.uses, use.2 = guildOf use.1) (new grace)
        writes := eachStep_of_forall_mem (fun w hw _ => hown w hw) (new grace)
    have hkept : Throughout write (Kept guildOf) (new grace) writes :=
      throughout_of_eachStep (fun _ _ hkept hw => kept_write hkept hw) (kept_new guildOf grace) hok
    exact hkept.mono fun _ h => h.complete.findsEvery

/-- Two guilds, and a channel that comes and goes. -/
def twoGuildWrites : List Write :=
  [.replaceGuild ⟨100, 1, [], ∅, (∅ : Table UInt64 ChannelData).insert 10 ⟨10, "lobby", []⟩, ∅⟩,
    .replaceGuild ⟨200, 1, [], ∅, ∅, ∅⟩,
    .upsertChannel 200 ⟨20, "stage", []⟩,
    .removeChannel 100 10]

theorem twoGuildWrites_found :
    Throughout write FindsEvery (new 30) twoGuildWrites :=
  (channelIndex_exact 30 twoGuildWrites).2 (fun c => if c = 10 then 100 else 200)
    (by simp [twoGuildWrites, Write.uses])

end Replica

end Discord
end Ldktela
