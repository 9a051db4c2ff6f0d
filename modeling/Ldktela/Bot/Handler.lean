import Ldktela.Bot.Revoke

/-!
# The events that can take access away

`crates/bot/src/handler.rs`: for each event, the write to the replica and the
sweep that follows it.

A sweep finds the affected rooms through the replica, after the write.  When the
write drops a channel from the mirror, a guild sweep does not find its room any
more, and whoever sits in it stays.  `nobodyLeft_iff` says that this is the only
way a revocation is missed, and which events do it: `guild_delete`, and a
`guild_create` whose snapshot lacks the channel.
-/

namespace Ldktela
namespace Bot

open Domain
open Protocol
open Discord
open Db
open Revoke

inductive AccessEvent where
  /-- `fetched` are the members the backfill lists over REST, when it runs. -/
  | guildCreate (guild : Guild) (fetched : List Member)
  | guildDelete (id : UInt64) (unavailable : Bool)
  | guildMemberUpdate (new : Option Member)
  | guildMemberRemoval (guildId userId : UInt64)
  | guildRoleUpdate (role : Role)
  | guildRoleDelete (guildId roleId : UInt64)
  | channelCreate (channel : GuildChannel)
  | channelUpdate (new : GuildChannel)
  | channelDelete (channel : GuildChannel)

namespace Handler

/-- Whether this instance serves the guild. -/
def serves (st : AppState) (guildId : UInt64) : Bool :=
  match st.allowedGuilds with
  | none => true
  | some allowed => decide (guildId ∈ allowed)

def onReplica (f : Replica → Replica) (st : AppState) : AppState :=
  { st with replica := f st.replica }

/-- A voice channel changed shape: refresh it and recheck who is inside. -/
def refreshChannel (channel : GuildChannel) (st : AppState) : AppState :=
  if isRoomChannel channel then
    sweepChannel (i64OrDefault channel.id)
      (onReplica (Replica.upsertChannel channel.guildId (channelData channel)) st)
  else
    st

/-- Merge the member list fetched over REST into the replica. -/
def backfillMembers (guildId : UInt64) (fetched : List Member) (r : Replica) : Replica :=
  fetched.foldl (fun r member => Replica.upsertMember guildId member.userId member.roles r) r

/-- The replica after `guild_create` has installed the snapshot. -/
def installGuild (guild : Guild) (fetched : List Member) (r : Replica) : Replica :=
  let data := guildData guild
  let r := Replica.replaceGuild data r
  -- Discord truncates the member list of a large guild
  if data.members.keys.length < guild.memberCount then
    backfillMembers guild.id fetched r
  else
    r

def guildCreate (guild : Guild) (fetched : List Member) (st : AppState) : AppState :=
  if serves st guild.id then
    sweepGuild guild.id (onReplica (installGuild guild fetched) st)
  else
    st

def guildDelete (id : UInt64) (unavailable : Bool) (st : AppState) : AppState :=
  -- an outage on Discord's side is not a removal
  if unavailable then st else sweepGuild id (onReplica (Replica.removeGuild id) st)

def guildMemberUpdate (new : Option Member) (st : AppState) : AppState :=
  match new with
  | none => st
  | some member =>
      sweepGuild member.guildId
        (onReplica (Replica.upsertMember member.guildId member.userId member.roles) st)

def guildMemberRemoval (guildId userId : UInt64) (st : AppState) : AppState :=
  sweepGuild guildId (onReplica (Replica.removeMember guildId userId) st)

def guildRoleUpdate (role : Role) (st : AppState) : AppState :=
  sweepGuild role.guildId (onReplica (Replica.upsertRole role.guildId (roleRef role)) st)

def guildRoleDelete (guildId roleId : UInt64) (st : AppState) : AppState :=
  sweepGuild guildId (onReplica (Replica.removeRole guildId roleId) st)

def channelDelete (channel : GuildChannel) (st : AppState) : AppState :=
  sweepChannel (i64OrDefault channel.id)
    (onReplica (Replica.removeChannel channel.guildId channel.id) st)

/-- What the handler does with an event. -/
def handle (st : AppState) : AccessEvent → AppState
  | .guildCreate guild fetched => guildCreate guild fetched st
  | .guildDelete id unavailable => guildDelete id unavailable st
  | .guildMemberUpdate new => guildMemberUpdate new st
  | .guildMemberRemoval guildId userId => guildMemberRemoval guildId userId st
  | .guildRoleUpdate role => guildRoleUpdate role st
  | .guildRoleDelete guildId roleId => guildRoleDelete guildId roleId st
  | .channelCreate channel => refreshChannel channel st
  | .channelUpdate new => refreshChannel new st
  | .channelDelete channel => channelDelete channel st

/-! ## The property -/

/-- The row `row` of `userId` sits in the channel `channel` of the guild, and its
owner is the account `discordUser`. -/
structure Sits (st : AppState) (g : UInt64) (userId : Uuid) (row : PresenceRow)
    (channel discordUser : UInt64) : Prop where
  present : st.presence.lookup userId = some row
  converts : u64TryFrom row.discordChannelId = some channel
  account : ∃ profile, st.users.lookup userId = some profile ∧
    u64TryFrom profile.discordUserId = some discordUser
  inGuild : st.replica.inGuild g channel = true

/-- Of the people who could join their room in the guild before, no one is left in
a room they may not join after. -/
def NobodyLeft (g : UInt64) (st st' : AppState) : Prop :=
  ∀ userId row channel discordUser, Sits st g userId row channel discordUser →
    st.replica.mayJoin discordUser channel = true →
    st'.presence.lookup userId = some row →
    st'.replica.mayJoin discordUser channel = true

/-- Somebody who may join the channel sits in it. -/
def Occupied (st : AppState) (g channel : UInt64) : Prop :=
  ∃ userId row discordUser, Sits st g userId row channel discordUser ∧
    st.replica.mayJoin discordUser channel = true

/-- The event drops the channel of the guild from the mirror through a guild
write. -/
def Drops (st : AppState) (g channel : UInt64) : AccessEvent → Prop
  | .guildDelete id unavailable => unavailable = false ∧ id = g
  | .guildCreate guild _ =>
      serves st guild.id = true ∧ guild.id = g ∧ channel ∉ (guildData guild).channels
  | _ => False

/-! ## Rows that stay -/

variable {st st₁ : AppState} {g g' : UInt64} {userId : Uuid} {row : PresenceRow}
  {channel discordUser : UInt64}

/-- The row of somebody who is barred is barred. -/
theorem Sits.barred_iff (h : Sits st g userId row channel discordUser)
    (husers : st₁.users = st.users) :
    barred st₁ userId row = !(st₁.replica.mayJoin discordUser channel) := by
  obtain ⟨profile, hprofile, hdiscord⟩ := h.account
  simp [barred, h.converts, husers, hprofile, barredFrom, hdiscord]

theorem Sits.rowIn_eq (h : Sits st g userId row channel discordUser) :
    rowIn st₁ g' row = st₁.replica.inGuild g' channel := by
  simp [rowIn, h.converts]

/-- After a guild sweep, whoever stays in a room that resolves to the guild may
join it. -/
theorem mayJoin_of_stays_guild (h : Sits st g userId row channel discordUser)
    (husers : st₁.users = st.users)
    (hstays : (sweepGuild g' st₁).presence.lookup userId = some row)
    (hin : st₁.replica.inGuild g' channel = true) :
    (sweepGuild g' st₁).replica.mayJoin discordUser channel = true := by
  obtain ⟨hsame, hlookup⟩ := sweepGuild_spec g' st₁
  rw [hlookup, Option.filter_eq_some_iff] at hstays
  have hkept := hstays.2
  rw [h.rowIn_eq, h.barred_iff husers, hin] at hkept
  rw [hsame.replica_eq]
  simpa using hkept

/-- A guild sweep passes over a room that resolves to no guild or another one. -/
theorem stays_of_not_inGuild (h : Sits st g userId row channel discordUser)
    (hpresence : st₁.presence = st.presence) (hout : st₁.replica.inGuild g' channel = false) :
    (sweepGuild g' st₁).presence.lookup userId = some row := by
  rw [(sweepGuild_spec g' st₁).2, hpresence, h.present]
  exact Option.filter_some_pos (by simp [h.rowIn_eq, hout])

/-- After a room sweep, whoever stays in the room may join it. -/
theorem mayJoin_of_stays_channel (h : Sits st g userId row channel discordUser)
    (husers : st₁.users = st.users)
    (hstays : (sweepChannel (i64OrDefault channel) st₁).presence.lookup userId = some row) :
    (sweepChannel (i64OrDefault channel) st₁).replica.mayJoin discordUser channel = true := by
  obtain ⟨hsame, hlookup⟩ := sweepChannel_spec (i64OrDefault channel) st₁
  rw [hlookup, Option.filter_eq_some_iff] at hstays
  have hkept := hstays.2
  rw [h.barred_iff husers, ← i64OrDefault_of_u64TryFrom h.converts] at hkept
  rw [hsame.replica_eq]
  simpa using hkept

/-- A write that changes access in the rooms of one guild only, followed by the
sweep of that guild. -/
theorem nobodyLeft_sweepGuild (f : Replica → Replica)
    (hother : ∀ c d, (f st.replica).inGuild g' c = false →
      st.replica.mayJoin d c = true → (f st.replica).mayJoin d c = true) :
    NobodyLeft g st (sweepGuild g' (onReplica f st)) := by
  intro userId row channel discordUser h hmay hstays
  -- the sweep rechecks the room exactly if it resolves to the guild
  cases hin : (f st.replica).inGuild g' channel with
  | true => exact mayJoin_of_stays_guild h rfl hstays hin
  | false =>
      rw [(sweepGuild_spec g' (onReplica f st)).1.replica_eq]
      exact hother channel discordUser hin hmay

/-- A write that changes access to one channel only, followed by its sweep. -/
theorem nobodyLeft_sweepChannel (f : Replica → Replica) (c : UInt64)
    (hother : ∀ c' d, c' ≠ c → (f st.replica).mayJoin d c' = st.replica.mayJoin d c') :
    NobodyLeft g st (sweepChannel (i64OrDefault c) (onReplica f st)) := by
  intro userId row channel discordUser h hmay hstays
  by_cases hc : channel = c
  · subst hc
    exact mayJoin_of_stays_channel h rfl hstays
  · rw [(sweepChannel_spec _ (onReplica f st)).1.replica_eq]
    exact (hother channel discordUser hc).trans hmay

/-! ## The events -/

theorem nobodyLeft_modifyGuild (guildId : UInt64) (f : GuildData → GuildData)
    (hf : ∀ guild, (f guild).channels = guild.channels) :
    NobodyLeft g st (sweepGuild guildId (onReplica (Replica.modifyGuild guildId f) st)) := by
  refine nobodyLeft_sweepGuild _ fun c d hout hmay => ?_
  rw [Replica.inGuild_modifyGuild hf] at hout
  rwa [Replica.mayJoin_modifyGuild_of_not_inGuild hf hout]

theorem nobodyLeft_refreshChannel (c : GuildChannel) :
    NobodyLeft g st (refreshChannel c st) := by
  unfold refreshChannel
  split
  · refine nobodyLeft_sweepChannel _ c.id fun c' d hne => ?_
    have hother : c' ≠ (channelData c).id := hne
    exact Replica.mayJoin_upsertChannel hother
  · exact fun _ _ _ _ _ hmay _ => hmay

theorem nobodyLeft_channelDelete (c : GuildChannel) :
    NobodyLeft g st (channelDelete c st) :=
  nobodyLeft_sweepChannel _ c.id fun _ _ hne => Replica.mayJoin_removeChannel hne

/-- A channel that resolves to nothing admits nobody. -/
private theorem mayJoin_of_locate_none {r : Replica} {c d : UInt64} (h : r.locate c = none) :
    r.mayJoin d c = false := by
  simp [Replica.mayJoin, Replica.permissions, h]

private theorem inGuild_of_locate_none {r : Replica} {c : UInt64} (h : r.locate c = none)
    (g : UInt64) : r.inGuild g c = false := by
  simp [Replica.inGuild, Replica.channelInfo_eq_none h]

theorem nobodyLeft_guildDelete_iff (id : UInt64) :
    NobodyLeft g st (guildDelete id false st) ↔
      ∀ channel, Occupied st g channel → ¬ (false = false ∧ id = g) := by
  have hreplica : (guildDelete id false st).replica = Replica.removeGuild id st.replica :=
    (sweepGuild_spec id _).1.replica_eq
  constructor
  · -- the sweep asks the index after the write, so it passes over the room
    rintro hleft channel ⟨userId, row, discordUser, h, hmay⟩ ⟨-, rfl⟩
    have hgone := Replica.locate_removeGuild h.inGuild
    have hstays : (sweepGuild id (onReplica (Replica.removeGuild id) st)).presence.lookup userId =
        some row := stays_of_not_inGuild h rfl (inGuild_of_locate_none hgone id)
    have hafter := hleft userId row channel discordUser h hmay hstays
    rw [hreplica, mayJoin_of_locate_none hgone] at hafter
    cases hafter
  · intro hempty userId row channel discordUser h hmay _
    have hne : g ≠ id := fun heq =>
      hempty channel ⟨userId, row, discordUser, h, hmay⟩ ⟨rfl, heq.symm⟩
    rw [hreplica, Replica.mayJoin_of_locate (Replica.locate_removeGuild_of_ne hne h.inGuild)]
    exact hmay

/-- The backfill moves no channel, and touches the access of one guild only. -/
theorem backfillMembers_spec (guildId : UInt64) (fetched : List Member) (r : Replica)
    (c : UInt64) :
    (∀ g, (backfillMembers guildId fetched r).inGuild g c = r.inGuild g c) ∧
      (r.inGuild guildId c = false →
        ∀ d, (backfillMembers guildId fetched r).mayJoin d c = r.mayJoin d c) := by
  induction fetched generalizing r with
  | nil => exact ⟨fun _ => rfl, fun _ _ => rfl⟩
  | cons member fetched ih =>
      obtain ⟨hin, hmay⟩ := ih (Replica.upsertMember guildId member.userId member.roles r)
      have hone : ∀ g, (Replica.upsertMember guildId member.userId member.roles r).inGuild g c =
          r.inGuild g c := fun g => Replica.inGuild_modifyGuild fun _ => rfl
      constructor
      · exact fun g => (hin g).trans (hone g)
      · intro hout d
        refine (hmay ((hone guildId).trans hout) d).trans ?_
        exact Replica.mayJoin_modifyGuild_of_not_inGuild (fun _ => rfl) hout

theorem installGuild_spec (guild : Guild) (fetched : List Member) (r : Replica) (c : UInt64) :
    (∀ g, (installGuild guild fetched r).inGuild g c =
        (Replica.replaceGuild (guildData guild) r).inGuild g c) ∧
      ((Replica.replaceGuild (guildData guild) r).inGuild guild.id c = false →
        ∀ d, (installGuild guild fetched r).mayJoin d c =
          (Replica.replaceGuild (guildData guild) r).mayJoin d c) := by
  unfold installGuild
  dsimp only
  split
  · exact backfillMembers_spec guild.id fetched _ c
  · exact ⟨fun _ => rfl, fun _ _ => rfl⟩

/-- A channel of the snapshot resolves to the guild of the snapshot. -/
theorem inGuild_installGuild {guild : Guild} {fetched : List Member} {r : Replica} {c : UInt64}
    (hmem : c ∈ (guildData guild).channels) :
    (installGuild guild fetched r).inGuild guild.id c = true := by
  rw [(installGuild_spec guild fetched r c).1]
  obtain ⟨data, hloc⟩ := Replica.locate_replaceGuild_of_mem (r := r) hmem
  exact Replica.inGuild_iff.mpr ⟨guildData guild, data, hloc⟩

/-- A channel of the guild that the snapshot lacks resolves to nothing and admits
nobody. -/
theorem installGuild_drops {guild : Guild} (fetched : List Member) {r : Replica} {c : UInt64}
    (hmem : c ∉ (guildData guild).channels) (hin : r.inGuild guild.id c = true) :
    (installGuild guild fetched r).inGuild guild.id c = false ∧
      ∀ d, (installGuild guild fetched r).mayJoin d c = false := by
  obtain ⟨hguild, hmay⟩ := installGuild_spec guild fetched r c
  have hgone : (Replica.replaceGuild (guildData guild) r).locate c = none :=
    Replica.locate_replaceGuild_of_not_mem hmem hin
  have hout := inGuild_of_locate_none hgone guild.id
  exact ⟨(hguild guild.id).trans hout,
    fun d => (hmay hout d).trans (mayJoin_of_locate_none hgone)⟩

/-- A channel of another guild that the snapshot does not list is left alone. -/
theorem installGuild_other {guild : Guild} {fetched : List Member} {r : Replica} {c : UInt64}
    (hmem : c ∉ (guildData guild).channels) (hne : g ≠ guild.id)
    (hin : r.inGuild g c = true) (d : UInt64) :
    (installGuild guild fetched r).mayJoin d c = r.mayJoin d c := by
  have hloc : (Replica.replaceGuild (guildData guild) r).locate c = r.locate c :=
    Replica.locate_replaceGuild_of_ne hmem hne hin
  have hout : r.inGuild guild.id c = false := by
    obtain ⟨data, channel, hfound⟩ := Replica.inGuild_iff.mp hin
    simp [Replica.inGuild, Replica.channelInfo, hfound, hne]
  rw [(installGuild_spec guild fetched r c).2
    ((Replica.inGuild_of_locate hloc guild.id).trans hout)]
  exact Replica.mayJoin_of_locate hloc

theorem nobodyLeft_guildCreate_iff (guild : Guild) (fetched : List Member) :
    NobodyLeft g st (guildCreate guild fetched st) ↔
      ∀ channel, Occupied st g channel →
        ¬ (serves st guild.id = true ∧ guild.id = g ∧
          channel ∉ (guildData guild).channels) := by
  unfold guildCreate
  split
  · next hserves =>
      have hreplica : (sweepGuild guild.id (onReplica (installGuild guild fetched) st)).replica =
          installGuild guild fetched st.replica := (sweepGuild_spec guild.id _).1.replica_eq
      constructor
      · -- the channel left the index with the snapshot, and its row stays
        rintro hleft channel ⟨userId, row, discordUser, h, hmay⟩ ⟨-, rfl, hmem⟩
        obtain ⟨hout, hbarred⟩ := installGuild_drops fetched hmem h.inGuild
        have hstays : (sweepGuild guild.id
            (onReplica (installGuild guild fetched) st)).presence.lookup userId = some row :=
          stays_of_not_inGuild h rfl hout
        have hafter := hleft userId row channel discordUser h hmay hstays
        rw [hreplica, hbarred] at hafter
        cases hafter
      · -- a room of the snapshot is swept; one of another guild was not written to
        intro hkept userId row channel discordUser h hmay hstays
        by_cases hmem : channel ∈ (guildData guild).channels
        · exact mayJoin_of_stays_guild h rfl hstays (inGuild_installGuild hmem)
        · have hne : g ≠ guild.id := fun heq =>
            hkept channel ⟨userId, row, discordUser, h, hmay⟩ ⟨hserves, heq.symm, hmem⟩
          rw [hreplica, installGuild_other hmem hne h.inGuild]
          exact hmay
  · next hserves =>
      refine iff_of_true (fun _ _ _ _ _ hmay _ => hmay) ?_
      exact fun _ _ hdrops => hserves hdrops.1

/-- After an event and its sweep, nobody who lost their access is left in a room
of the guild if and only if the event drops no occupied channel of the guild from
the mirror. -/
theorem nobodyLeft_iff (g : UInt64) (st : AppState) (event : AccessEvent) :
    NobodyLeft g st (handle st event) ↔
      ∀ channel, Occupied st g channel → ¬ Drops st g channel event := by
  have hnone : (∀ channel, Occupied st g channel → ¬ False) := fun _ _ h => h
  cases event with
  | guildCreate guild fetched => exact nobodyLeft_guildCreate_iff guild fetched
  | guildDelete id unavailable =>
      cases unavailable with
      | true =>
          refine iff_of_true (fun _ _ _ _ _ hmay _ => hmay) ?_
          exact fun _ _ hdrops => Bool.noConfusion hdrops.1
      | false => exact nobodyLeft_guildDelete_iff id
  | guildMemberUpdate new =>
      cases new with
      | none => exact iff_of_true (fun _ _ _ _ _ hmay _ => hmay) hnone
      | some member =>
          exact iff_of_true (nobodyLeft_modifyGuild member.guildId _ fun _ => rfl) hnone
  | guildMemberRemoval guildId userId =>
      exact iff_of_true (nobodyLeft_modifyGuild guildId _ fun _ => rfl) hnone
  | guildRoleUpdate role =>
      exact iff_of_true (nobodyLeft_modifyGuild role.guildId _ fun _ => rfl) hnone
  | guildRoleDelete guildId roleId =>
      exact iff_of_true (nobodyLeft_modifyGuild guildId _ fun _ => rfl) hnone
  | channelCreate channel => exact iff_of_true (nobodyLeft_refreshChannel channel) hnone
  | channelUpdate new => exact iff_of_true (nobodyLeft_refreshChannel new) hnone
  | channelDelete channel => exact iff_of_true (nobodyLeft_channelDelete channel) hnone

/-- A guild of one member who sits in its only voice channel. -/
private def occupiedGuild : AppState where
  replica := Replica.replaceGuild
    { id := 100
      ownerId := 1
      roles := [⟨100, DiscordPermissions.viewChannel ||| DiscordPermissions.connect⟩]
      members := (∅ : Table UInt64 (List UInt64)).insert 30 []
      channels := (∅ : Table UInt64 ChannelData).insert 5 ⟨5, "sala", []⟩
      voice := ∅ } (Replica.new 60)
  users := (∅ : Users).insert 3 ⟨30, "ana", none, none⟩
  presence := Presence.join 10 3 5 ∅
  allowedGuilds := none
  removals := []
  published := []

/-- The bot is removed from the guild: the channel leaves the index, the sweep
looks for the rooms of the guild and finds none, and the member stays. -/
theorem guildDelete_leaves_member :
    ¬ ∀ (g : UInt64) (st : AppState) (event : AccessEvent), NobodyLeft g st (handle st event) := by
  intro h
  have hsits : Sits occupiedGuild 100 3 ⟨5, false, 10, none, none⟩ 5 30 :=
    { present := by decide
      converts := by decide
      account := ⟨⟨30, "ana", none, none⟩, by decide, by decide⟩
      inGuild := by decide }
  have hafter := h 100 occupiedGuild (.guildDelete 100 false) 3 _ 5 30 hsits (by decide) (by decide)
  exact absurd hafter (by decide)

end Handler

end Bot
end Ldktela
