import Ldktela.Discord.Replica

/-!
# What a replica mirrors of one guild

The mutators of `crates/api/src/discord/replica.rs` write to hash maps and to a
list of roles whose order means nothing.  Two descriptions of a guild are `Alike`
when they agree on everything that is asked of them; a replica `Mirrors` a
description when it holds an alike one, with the channel index that goes with it.

* `Mirrors.permissions_eq` and `Mirrors.channelInfo_eq` read the answers of the
  replica off the description;
* `mirrors_replaceGuild` is the snapshot, and the other `mirrors_` lemmas say what
  each mutator makes of the description.
-/

namespace Ldktela
namespace Discord

open Domain

/-- The role of an id. -/
def GuildData.role (d : GuildData) (id : UInt64) : Option RoleRef :=
  d.roles.find? fun r => r.id = id

/-- The same guild, with the same role, member and channel under every id. -/
structure Alike (d e : GuildData) : Prop where
  id_eq : d.id = e.id
  owner_eq : d.ownerId = e.ownerId
  role_eq : ∀ id, d.role id = e.role id
  member_eq : ∀ user, d.members.lookup user = e.members.lookup user
  channel_eq : ∀ c, d.channels.lookup c = e.channels.lookup c

namespace Alike

variable {d e f : GuildData}

theorem refl (d : GuildData) : Alike d d :=
  ⟨rfl, rfl, fun _ => rfl, fun _ => rfl, fun _ => rfl⟩

theorem trans (h : Alike d e) (h' : Alike e f) : Alike d f where
  id_eq := h.id_eq.trans h'.id_eq
  owner_eq := h.owner_eq.trans h'.owner_eq
  role_eq id := (h.role_eq id).trans (h'.role_eq id)
  member_eq user := (h.member_eq user).trans (h'.member_eq user)
  channel_eq c := (h.channel_eq c).trans (h'.channel_eq c)

theorem mem_channels (h : Alike d e) (c : UInt64) : c ∈ d.channels ↔ c ∈ e.channels := by
  rw [← AList.lookup_isSome, ← AList.lookup_isSome, h.channel_eq c]

end Alike

/-- The replica mirrors the guild, and nothing else. -/
structure Mirrors (r : Replica) (d : GuildData) : Prop where
  data : ∃ e, r.guilds.lookup d.id = some e ∧ Alike e d
  index : ∀ c, r.channelIndex.lookup c = if c ∈ d.channels then some d.id else none

namespace Mirrors

variable {r : Replica} {d e : GuildData} {user c : UInt64}

theorem congr (h : Mirrors r d) (halike : Alike d e) : Mirrors r e where
  data := by
    obtain ⟨found, hlookup, hfound⟩ := h.data
    exact ⟨found, halike.id_eq ▸ hlookup, hfound.trans halike⟩
  index c := by
    rw [h.index c, halike.id_eq]
    exact if_congr (halike.mem_channels c) rfl rfl

/-- A channel of the description resolves to an alike guild. -/
theorem locate_eq (h : Mirrors r d) (c : UInt64) :
    ∃ e, Alike e d ∧
      r.locate c = (d.channels.lookup c).map fun channel => (d.id, e, channel) := by
  obtain ⟨e, hlookup, halike⟩ := h.data
  refine ⟨e, halike, ?_⟩
  unfold Replica.locate
  rw [h.index c]
  cases hchannel : d.channels.lookup c with
  | none =>
      have hmem : c ∉ d.channels := AList.lookup_eq_none.mp hchannel
      simp [hmem]
  | some channel =>
      have hmem : c ∈ d.channels := AList.lookup_isSome.mp (by simp [hchannel])
      simp [hmem, hlookup, halike.channel_eq, hchannel]

theorem permissions_eq (h : Mirrors r d) (user c : UInt64) :
    r.permissions user c =
      (d.channels.lookup c).bind fun channel =>
        (d.members.lookup user).map fun roleIds =>
          resolve ⟨d.id, d.ownerId, d.roles⟩ ⟨user, roleIds⟩
            ⟨channel.id, channel.overwrites⟩ := by
  obtain ⟨e, halike, hlocate⟩ := h.locate_eq c
  rw [Replica.permissions, hlocate, Option.bind_map]
  refine congrArg (Option.bind _) (funext fun channel => ?_)
  rw [Function.comp_apply]
  dsimp only
  rw [halike.member_eq]
  refine congrArg (Option.map · _) (funext fun roleIds => ?_)
  refine resolve_congr halike.id_eq halike.owner_eq (fun id => ?_) _ _
  exact halike.role_eq id

theorem channelInfo_eq (h : Mirrors r d) (c : UInt64) :
    r.channelInfo c = (d.channels.lookup c).map fun channel => (d.id, channel.name) := by
  obtain ⟨e, -, hlocate⟩ := h.locate_eq c
  rw [Replica.channelInfo, hlocate, Option.map_map]
  rfl

/-- Replicas of the same guild give the same answers. -/
theorem sameAnswers {r' : Replica} (h : Mirrors r d) (h' : Mirrors r' d) (user c : UInt64) :
    r.permissions user c = r'.permissions user c ∧ r.channelInfo c = r'.channelInfo c := by
  rw [h.permissions_eq, h'.permissions_eq, h.channelInfo_eq, h'.channelInfo_eq]
  exact ⟨rfl, rfl⟩

end Mirrors

/-! ## The mutators -/

theorem mirrors_replaceGuild (d : GuildData) (grace : Nat) :
    Mirrors (Replica.replaceGuild d (Replica.new grace)) d where
  data := ⟨d, AList.lookup_insert _, Alike.refl d⟩
  index c := Replica.lookup_channelIndex_replaceGuild d (Replica.new grace) c

theorem find?_putRole (role : RoleRef) (roles : List RoleRef) (id : UInt64) :
    (Replica.putRole role roles).find? (fun r => r.id = id) =
      if id = role.id then some role else roles.find? (fun r => r.id = id) := by
  induction roles with
  | nil =>
      by_cases hid : id = role.id
      · simp [Replica.putRole, hid]
      · simp [Replica.putRole, hid, Ne.symm hid]
  | cons existing roles ih =>
      by_cases hsame : existing.id = role.id
      · simp only [Replica.putRole, hsame, if_true, List.find?_cons]
        by_cases hid : id = role.id
        · simp [hid]
        · simp [hid, Ne.symm hid]
      · simp only [Replica.putRole, hsame, if_false, List.find?_cons, ih]
        by_cases hid : existing.id = id
        · have hne : id ≠ role.id := fun h => hsame (hid.trans h)
          simp [hid, hne]
        · simp [hid]

theorem find?_filter_roles (roles : List RoleRef) (gone id : UInt64) :
    (roles.filter fun r => r.id ≠ gone).find? (fun r => r.id = id) =
      if id = gone then none else roles.find? (fun r => r.id = id) := by
  rw [List.find?_filter]
  split
  · next heq =>
      subst heq
      simp
  · next hne =>
      refine congrArg (List.find? · roles) (funext fun r => ?_)
      by_cases hid : r.id = id
      · simp [hid, hne]
      · simp [hid]

section Mutators

variable {r : Replica} {d : GuildData}

/-- A write to the mirrored guild, whatever is done to the index. -/
theorem data_modifyGuild {r' : Replica} {d' : GuildData} (h : Mirrors r d)
    (hguilds : r'.guilds = r.guilds) (f : GuildData → GuildData) (hid : d'.id = d.id)
    (hf : ∀ e, Alike e d → Alike (f e) d') :
    ∃ e, (Replica.modifyGuild d.id f r').guilds.lookup d'.id = some e ∧ Alike e d' := by
  obtain ⟨e, hlookup, halike⟩ := h.data
  refine ⟨f e, ?_, hf e halike⟩
  rw [Replica.modifyGuild, AList.lookup_modify, hid, if_pos rfl, hguilds, hlookup,
    Option.map_some]

/-- A write to the guild that does not move channels. -/
theorem mirrors_modifyGuild {d' : GuildData} (h : Mirrors r d) (f : GuildData → GuildData)
    (hid : d'.id = d.id) (hchannels : d'.channels = d.channels)
    (hf : ∀ e, Alike e d → Alike (f e) d') :
    Mirrors (Replica.modifyGuild d.id f r) d' where
  data := data_modifyGuild h rfl f hid hf
  index c := by
    rw [hid, hchannels]
    exact h.index c

theorem mirrors_upsertMember (h : Mirrors r d) (user : UInt64) (roleIds : List UInt64) :
    Mirrors (Replica.upsertMember d.id user roleIds r)
      { d with members := d.members.insert user roleIds } := by
  refine mirrors_modifyGuild h _ rfl rfl fun e halike => ?_
  refine ⟨halike.id_eq, halike.owner_eq, halike.role_eq, fun u => ?_, halike.channel_eq⟩
  rw [AList.lookup_insert_ite, AList.lookup_insert_ite, halike.member_eq]

theorem mirrors_removeMember (h : Mirrors r d) (user : UInt64) :
    Mirrors (Replica.removeMember d.id user r)
      { d with members := d.members.erase user } := by
  refine mirrors_modifyGuild h _ rfl rfl fun e halike => ?_
  refine ⟨halike.id_eq, halike.owner_eq, halike.role_eq, fun u => ?_, halike.channel_eq⟩
  rw [AList.lookup_erase_ite, AList.lookup_erase_ite, halike.member_eq]

theorem mirrors_upsertRole (h : Mirrors r d) (role : RoleRef) :
    Mirrors (Replica.upsertRole d.id role r)
      { d with roles := Replica.putRole role d.roles } := by
  refine mirrors_modifyGuild h _ rfl rfl fun e halike => ?_
  refine ⟨halike.id_eq, halike.owner_eq, fun id => ?_, halike.member_eq, halike.channel_eq⟩
  have hrole := halike.role_eq id
  simp only [GuildData.role, find?_putRole] at hrole ⊢
  rw [hrole]

theorem mirrors_removeRole (h : Mirrors r d) (roleId : UInt64) :
    Mirrors (Replica.removeRole d.id roleId r)
      { d with
        roles := d.roles.filter fun r => r.id ≠ roleId
        members := d.members.mapVal fun _ roles => roles.filter fun r => r ≠ roleId } := by
  refine mirrors_modifyGuild h _ rfl rfl fun e halike => ?_
  refine ⟨halike.id_eq, halike.owner_eq, fun id => ?_, fun u => ?_, halike.channel_eq⟩
  · have hrole := halike.role_eq id
    simp only [GuildData.role, find?_filter_roles] at hrole ⊢
    rw [hrole]
  · rw [AList.lookup_mapVal, AList.lookup_mapVal, halike.member_eq]

theorem mirrors_upsertChannel (h : Mirrors r d) (channel : ChannelData) :
    Mirrors (Replica.upsertChannel d.id channel r)
      { d with channels := d.channels.insert channel.id channel } := by
  have hmirrored : d.id ∈ r.guilds := by
    obtain ⟨e, hlookup, -⟩ := h.data
    exact AList.lookup_isSome.mp (by simp [hlookup])
  rw [Replica.upsertChannel, if_pos hmirrored]
  constructor
  · refine data_modifyGuild h rfl _ rfl fun e halike => ?_
    refine ⟨halike.id_eq, halike.owner_eq, halike.role_eq, halike.member_eq, fun c => ?_⟩
    rw [AList.lookup_insert_ite, AList.lookup_insert_ite, halike.channel_eq]
  · intro c
    simp only [Replica.modifyGuild, AList.lookup_insert_ite, h.index c, AList.mem_insert]
    by_cases hc : c = channel.id
    · simp [hc]
    · simp [hc]

theorem mirrors_removeChannel (h : Mirrors r d) (channelId : UInt64) :
    Mirrors (Replica.removeChannel d.id channelId r)
      { d with channels := d.channels.erase channelId } := by
  constructor
  · refine data_modifyGuild h rfl _ rfl fun e halike => ?_
    refine ⟨halike.id_eq, halike.owner_eq, halike.role_eq, halike.member_eq, fun c => ?_⟩
    rw [AList.lookup_erase_ite, AList.lookup_erase_ite, halike.channel_eq]
  · intro c
    simp only [Replica.removeChannel, Replica.modifyGuild, AList.lookup_erase_ite, h.index c,
      AList.mem_erase]
    by_cases hc : c = channelId
    · simp [hc]
    · simp [hc]

end Mutators

end Discord
end Ldktela
