import Ldktela.Api.Permissions

/-!
# What the room guards say to a caller who sees nothing

`room_access` and `publish_access` of `crates/api/src/permissions.rs`.  A caller may see
nothing of a channel for several reasons, `Unseen`.  `refusal` is the answer to all of them;
of the replica it asks the staleness only, so it tells the reasons apart in no two states.
-/

namespace Ldktela
namespace Api

open Protocol
open Db
open Discord

/-! ## The accounts of the callers -/

/-- `upsert_from_discord` of `crates/db/src/repo/users.rs`, which keeps the id of an account
it knows.  An id that is taken by another account fails. -/
def upsertFromDiscord (id : Uuid) (profile : UserRow) (users : Users) : Users :=
  match users.entries.find? (fun entry => entry.2.discordUserId = profile.discordUserId) with
  | some entry => users.insert entry.1 profile
  | none => if id ∈ users then users else users.insert id profile

/-- The account behind a `/pair` command, with the id that Discord gives. -/
def register (id : Uuid) (discordUser : UInt64) (username : String)
    (displayName avatarUrl : Option String) (users : Users) : Users :=
  match i64TryFrom discordUser with
  | none => users
  | some discordUserId =>
      upsertFromDiscord id ⟨discordUserId, username, displayName, avatarUrl⟩ users

/-- Every row has the id of a Discord account. -/
def OfDiscord (users : Users) : Prop :=
  ∀ id row, users.lookup id = some row → (u64TryFrom row.discordUserId).isSome

theorem ofDiscord_insert {users : Users} (h : OfDiscord users) {profile : UserRow}
    (hprofile : (u64TryFrom profile.discordUserId).isSome) (id : Uuid) :
    OfDiscord (users.insert id profile) := by
  intro v row hrow
  rw [AList.lookup_insert_ite] at hrow
  split at hrow
  · rw [← Option.some.inj hrow]
    exact hprofile
  · exact h v row hrow

theorem ofDiscord_upsertFromDiscord {users : Users} (h : OfDiscord users) {profile : UserRow}
    (hprofile : (u64TryFrom profile.discordUserId).isSome) (id : Uuid) :
    OfDiscord (upsertFromDiscord id profile users) := by
  unfold upsertFromDiscord
  generalize users.entries.find? _ = found
  cases found with
  | some entry => exact ofDiscord_insert h hprofile entry.1
  | none =>
      dsimp only
      split
      · exact h
      · exact ofDiscord_insert h hprofile id

/-- No other statement writes to the ids of the table. -/
theorem ofDiscord_register {users : Users} (h : OfDiscord users) (id : Uuid)
    (discordUser : UInt64) (username : String) (displayName avatarUrl : Option String) :
    OfDiscord (register id discordUser username displayName avatarUrl users) := by
  unfold register
  cases hid : i64TryFrom discordUser with
  | none => exact h
  | some discordUserId =>
      refine ofDiscord_upsertFromDiscord h ?_ id
      change (u64TryFrom discordUserId).isSome
      rw [u64TryFrom_of_i64TryFrom hid]
      rfl

/-! ## Nothing to see -/

/-- The reasons for which an account sees nothing of a channel. -/
inductive Unseen (replica : Replica) (account : UInt64) (channel : Snowflake) : Prop where
  | noSnowflake (hneg : u64TryFrom channel = none)
  | unknownChannel (c : UInt64) (hc : u64TryFrom channel = some c)
      (hindex : replica.channelIndex.lookup c = none)
  | unknownGuild (c g : UInt64) (hc : u64TryFrom channel = some c)
      (hindex : replica.channelIndex.lookup c = some g) (hguild : replica.guilds.lookup g = none)
  | goneChannel (c g : UInt64) (guild : GuildData) (hc : u64TryFrom channel = some c)
      (hindex : replica.channelIndex.lookup c = some g)
      (hguild : replica.guilds.lookup g = some guild) (hchannel : guild.channels.lookup c = none)
  | stranger (c g : UInt64) (guild : GuildData) (hc : u64TryFrom channel = some c)
      (hindex : replica.channelIndex.lookup c = some g)
      (hguild : replica.guilds.lookup g = some guild)
      (hmember : guild.members.lookup account = none)
  | hidden (c : UInt64) (hc : u64TryFrom channel = some c)
      (permissions : Domain.DiscordPermissions)
      (hresolved : replica.permissions account c = some permissions)
      (hview : permissions.canView = false)

/-- What the replica answers then. -/
theorem Unseen.permissions {replica : Replica} {account c : UInt64} {channel : Snowflake}
    (h : Unseen replica account channel) (hc : u64TryFrom channel = some c) :
    ∀ p, replica.permissions account c = some p → p.canView = false := by
  intro p hp
  cases h with
  | noSnowflake hneg => rw [hneg] at hc; cases hc
  | unknownChannel c' hc' hindex =>
      obtain rfl := Option.some.inj (hc'.symm.trans hc)
      simp [Replica.permissions, Replica.locate, hindex] at hp
  | unknownGuild c' g hc' hindex hguild =>
      obtain rfl := Option.some.inj (hc'.symm.trans hc)
      simp [Replica.permissions, Replica.locate, hindex, hguild] at hp
  | goneChannel c' g guild hc' hindex hguild hchannel =>
      obtain rfl := Option.some.inj (hc'.symm.trans hc)
      simp [Replica.permissions, Replica.locate, hindex, hguild, hchannel] at hp
  | stranger c' g guild hc' hindex hguild hmember =>
      obtain rfl := Option.some.inj (hc'.symm.trans hc)
      rw [Replica.permissions, Replica.locate, hindex, Option.bind_some, hguild,
        Option.bind_some] at hp
      cases hchannel : guild.channels.lookup c' with
      | none => simp [hchannel] at hp
      | some data => simp [hchannel, hmember] at hp
  | hidden c' hc' permissions hresolved hview =>
      obtain rfl := Option.some.inj (hc'.symm.trans hc)
      rw [← Option.some.inj (hresolved.symm.trans hp)]
      exact hview

/-! ## The answer -/

/-- The refusal of a caller who sees nothing. -/
def refusal (staleness : Staleness) (users : Users) (caller : Uuid) (channel : Snowflake) :
    AppError :=
  if staleness = .stale then
    .replicaStale
  else
    match users.lookup caller with
    | none => .notFound "user"
    | some user =>
        if (u64TryFrom channel).isSome ∧ u64TryFrom user.discordUserId = none then
          .internal
        else
          .notFound "room"

/-- The caller's account, if they have one, sees nothing of the channel. -/
def Blind (replica : Replica) (users : Users) (caller : Uuid) (channel : Snowflake) : Prop :=
  ∀ user account, users.lookup caller = some user →
    u64TryFrom user.discordUserId = some account → Unseen replica account channel

section Refusal

variable {now : Timestamp} {replica : Replica} {users : Users} {caller : Uuid}
  {channel : Snowflake}

theorem roomAccess_of_blind (h : Blind replica users caller channel) :
    roomAccess now replica users caller channel =
      .error (refusal (replica.staleness now) users caller channel) := by
  unfold roomAccess refusal
  split
  · rfl
  · cases hrow : users.lookup caller with
    | none => rfl
    | some user =>
        dsimp only
        cases hc : u64TryFrom channel with
        | none => simp
        | some c =>
            cases haccount : u64TryFrom user.discordUserId with
            | none => simp
            | some account =>
                have hsees := (h user account hrow haccount).permissions hc
                cases hp : replica.permissions account c with
                | none => simp [hp]
                | some p => simp [hp, hsees p hp]

theorem publishAccess_of_blind (h : Blind replica users caller channel) :
    publishAccess now replica users caller channel =
      .error (refusal (replica.staleness now) users caller channel) := by
  rw [publishAccess, roomAccess_of_blind h]

/-- The invisible one. -/
theorem refusal_of_fresh (husers : OfDiscord users) :
    refusal .fresh users caller channel =
      .notFound (if caller ∈ users then "room" else "user") := by
  rw [refusal, if_neg (by decide)]
  cases hrow : users.lookup caller with
  | none => rw [if_neg (AList.lookup_eq_none.mp hrow)]
  | some user =>
      have hmem : caller ∈ users := AList.lookup_isSome.mp (by rw [hrow]; rfl)
      have haccount := husers caller user hrow
      rw [if_pos hmem]
      dsimp only
      rw [if_neg]
      rintro ⟨-, hnone⟩
      rw [hnone] at haccount
      cases haccount

end Refusal

/-- Two replicas in which the caller sees nothing answer alike, whatever the reason in each. -/
theorem guards_conceal {now now' : Timestamp} {replica replica' : Replica} {users : Users}
    {caller : Uuid} {channel : Snowflake}
    (hstaleness : replica'.staleness now' = replica.staleness now)
    (hblind : Blind replica users caller channel)
    (hblind' : Blind replica' users caller channel) (husers : OfDiscord users) :
    ∃ e : AppError,
      roomAccess now replica users caller channel = .error e ∧
      roomAccess now' replica' users caller channel = .error e ∧
      publishAccess now replica users caller channel = .error e ∧
      publishAccess now' replica' users caller channel = .error e ∧
      (replica.staleness now ≠ .stale →
        e = .notFound (if caller ∈ users then "room" else "user")) := by
  refine ⟨refusal (replica.staleness now) users caller channel, roomAccess_of_blind hblind, ?_,
    publishAccess_of_blind hblind, ?_, fun hfresh => ?_⟩
  · rw [roomAccess_of_blind hblind', hstaleness]
  · rw [publishAccess_of_blind hblind', hstaleness]
  · cases hnow : replica.staleness now with
    | stale => exact absurd hnow hfresh
    | fresh => exact refusal_of_fresh husers

/-- A replica without guilds. -/
def emptyReplica : Replica := Replica.setConnected 0 true (Replica.new 30)

/-- A replica with a channel that `@everyone` does not see. -/
def hiddenChannel : Replica :=
  Replica.replaceGuild
    ⟨100, 1, [⟨100, 0⟩], (∅ : Table UInt64 (List UInt64)).insert 7 [],
      (∅ : Table UInt64 ChannelData).insert 10 ⟨10, "staff", []⟩, ∅⟩ emptyReplica

def oneMember : Users := register 1 7 "ana" none none ∅

theorem hiddenChannel_concealed :
    ∃ e : AppError,
      roomAccess 5 emptyReplica oneMember 1 10 = .error e ∧
      roomAccess 5 hiddenChannel oneMember 1 10 = .error e ∧
      publishAccess 5 emptyReplica oneMember 1 10 = .error e ∧
      publishAccess 5 hiddenChannel oneMember 1 10 = .error e ∧
      (emptyReplica.staleness 5 ≠ .stale →
        e = .notFound (if 1 ∈ oneMember then "room" else "user")) := by
  have haccount : ∀ user account, oneMember.lookup 1 = some user →
      u64TryFrom user.discordUserId = some account → account = 7 := by
    intro user account huser haccount
    have hrow : oneMember.lookup 1 = some ⟨7, "ana", none, none⟩ := by decide
    obtain rfl := Option.some.inj (hrow.symm.trans huser)
    exact (Option.some.inj haccount).symm
  refine guards_conceal (by decide) (fun user account huser hid => ?_)
    (fun user account huser hid => ?_) (ofDiscord_register (fun _ _ h => by cases h) _ _ _ _ _)
  · exact .unknownChannel 10 (by decide) (by decide)
  · obtain rfl := haccount user account huser hid
    exact .hidden 10 (by decide) ⟨0⟩ (by decide) (by decide)

end Api
end Ldktela
