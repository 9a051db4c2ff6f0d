import Ldktela.Api.Rooms
import Ldktela.Discord.Replica

/-!
# Route-level authorization and the token route

`crates/api/src/permissions.rs`, and `token` of `crates/api/src/routes/rooms.rs`.
Every guard asks in the same order: whether the replica can still be trusted,
whether the caller sees the channel, whether they may do what they ask for.
-/

namespace Ldktela
namespace Api

open Protocol
open Db
open Discord

/-- The refusals of the room routes. -/
inductive AppError where
  | forbidden
  | notFound (resource : String)
  | roomCapacity
  | replicaStale
  | internal
deriving DecidableEq

/-- A room the caller may be in. -/
structure RoomAccess where
  user : UserRow
  permissions : Domain.DiscordPermissions
  discordGuildId : Snowflake
  channelName : String
deriving DecidableEq

/-- `503` when stale, `404` when invisible, `403` when visible but closed. -/
def roomAccess (now : Timestamp) (replica : Replica) (users : Users) (userId : Uuid)
    (discordChannelId : Snowflake) : Except AppError RoomAccess :=
  if replica.staleness now = .stale then
    .error .replicaStale
  else
    match users.lookup userId with
    | none => .error (.notFound "user")
    | some user =>
        match u64TryFrom discordChannelId, u64TryFrom user.discordUserId with
        | none, _ => .error (.notFound "room")
        | some _, none => .error .internal
        | some channel, some discordUser =>
            -- an unknown channel and a stranger to the guild look the same
            match replica.permissions discordUser channel with
            | none => .error (.notFound "room")
            | some permissions =>
                if permissions.canView = false then
                  .error (.notFound "room")
                else if permissions.canJoinRoom = false then
                  .error .forbidden
                else
                  match replica.channelInfo channel with
                  | none => .error (.notFound "room")
                  | some (guild, name) => .ok ⟨user, permissions, i64OrDefault guild, name⟩

/-- The same guard, plus Discord's own right to go live. -/
def publishAccess (now : Timestamp) (replica : Replica) (users : Users) (userId : Uuid)
    (discordChannelId : Snowflake) : Except AppError RoomAccess :=
  match roomAccess now replica users userId discordChannelId with
  | .error e => .error e
  | .ok access =>
      if access.permissions.canPublish = false then .error .forbidden else .ok access

/-- What a media token grants. -/
structure RoomToken where
  discordChannelId : Snowflake
  userId : Uuid
  /-- The name shown to the others. -/
  name : String
  /-- Issued to the publishing connection, which may publish. -/
  publish : Bool
deriving DecidableEq

namespace Rooms

/-- The guard in front of a token that asks for the sources `publish`. -/
def tokenAccess (now : Timestamp) (replica : Replica) (users : Users) (caller : Uuid)
    (discordChannelId : Snowflake) (publish : List PublicationSource) :
    Except AppError RoomAccess :=
  if publish.isEmpty then roomAccess now replica users caller discordChannelId
  else publishAccess now replica users caller discordChannelId

/-- Issues a token for the room.  The list is the whole intent of the caller: what
it leaves out is given back. -/
def token (now : Timestamp) (replica : Replica) (caller : Uuid) (discordChannelId : Snowflake)
    (publish : List PublicationSource) (st : ServerState) :
    ServerState × Except AppError RoomToken :=
  match tokenAccess now replica st.users caller discordChannelId publish with
  | .error e => (st, .error e)
  | .ok access =>
      match Grants.claimPublications st.config discordChannelId caller publish st.grants with
      | (grants, false) => ({ st with grants := grants }, .error .roomCapacity)
      | (grants, true) =>
          ({ st with grants := grants },
            .ok ⟨discordChannelId, caller, access.user.displayName.getD access.user.username,
              !publish.isEmpty⟩)

/-- The route answers with a token: the guard lets the caller through, and no
source they ask for is full. -/
def admits (now : Timestamp) (replica : Replica) (caller : Uuid) (discordChannelId : Snowflake)
    (publish : List PublicationSource) (st : ServerState) : Bool :=
  (tokenAccess now replica st.users caller discordChannelId publish).isOk &&
    !publish.any (Grants.refuses st.config (st.grants.slots discordChannelId) caller)

section Token

variable {now : Timestamp} {replica : Replica} {caller v : Uuid} {channel c : Snowflake}
  {publish : List PublicationSource} {st : ServerState} {source : PublicationSource}

theorem claimPublications_granted (config : RoomConfig) (grants : Grants) :
    (Grants.claimPublications config channel caller publish grants).2 =
      !publish.any (Grants.refuses config (grants.slots channel) caller) := by
  unfold Grants.claimPublications Grants.slots
  dsimp only
  split
  · next hrefused => rw [hrefused]; rfl
  · next hfree => rw [Bool.eq_false_of_not_eq_true hfree]; rfl

theorem token_ok_iff :
    (token now replica caller channel publish st).2.isOk =
      admits now replica caller channel publish st := by
  unfold token admits
  rw [← claimPublications_granted]
  cases tokenAccess now replica st.users caller channel publish with
  | error e => rfl
  | ok access =>
      rcases Grants.claimPublications st.config channel caller publish st.grants with
        ⟨grants, granted⟩
      cases granted with
      | false => rfl
      | true => rfl

/-- A token makes the caller hold exactly what they asked for; a refusal moves no
slot. -/
theorem holds_token :
    (token now replica caller channel publish st).1.grants.Holds c v source ↔
      if admits now replica caller channel publish st = true ∧ c = channel ∧ v = caller then
        source ∈ publish
      else
        st.grants.Holds c v source := by
  have hclaim := @Grants.holds_claimPublications st.grants channel c caller v source st.config
    publish
  rw [claimPublications_granted] at hclaim
  unfold token admits
  cases tokenAccess now replica st.users caller channel publish with
  | error e => simp [Except.isOk, Except.toBool]
  | ok access =>
      simp only [Except.isOk, Except.toBool, Bool.true_and]
      rw [← hclaim]
      rcases Grants.claimPublications st.config channel caller publish st.grants with
        ⟨grants, granted⟩
      cases granted with
      | false => exact Iff.rfl
      | true => exact Iff.rfl

/-- The route writes to the ledger only. -/
theorem token_presence :
    (token now replica caller channel publish st).1.presence = st.presence := by
  unfold token
  cases tokenAccess now replica st.users caller channel publish with
  | error e => rfl
  | ok access =>
      rcases Grants.claimPublications st.config channel caller publish st.grants with
        ⟨grants, granted⟩
      cases granted with
      | false => rfl
      | true => rfl

end Token

end Rooms

end Api
end Ldktela
