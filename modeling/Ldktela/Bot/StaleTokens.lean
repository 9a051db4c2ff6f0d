import Ldktela.Api.Permissions
import Ldktela.Bot.Handler
import Ldktela.Lib.Runs

/-!
# The tokens that outlive a revocation

The token route asks the replica, and so do the sweeps; `on_join` does not.  In between
LiveKit lets in whoever shows a viewer token that has not expired, as often as they like.

The tables are shared by the routes and the handlers of Discord's events.
`permitted_of_spares` says when every row `on_join` writes is for somebody who may join
then, and `spares_iff` that an event which is not sparing is one join away from a row for
somebody who may not.
-/

namespace Ldktela
namespace Bot
namespace StaleTokens

open Protocol
open Db
open Discord
open Runs
open Api (AppError RoomAccess RoomToken ServerState)

/-- A viewer token, as LiveKit reads it. -/
structure Pass where
  discordChannelId : Snowflake
  userId : Uuid
  expiresAt : Timestamp
deriving DecidableEq

structure State where
  clock : Timestamp
  /-- The tables, and the ledger of the publishers. -/
  server : ServerState
  replica : Replica
  allowedGuilds : Option (List UInt64)
  removals : List (Snowflake × Uuid)
  notices : List (Uuid × DispatchEvent)
  passes : List Pass
  /-- The `participant_joined` that are on their way. -/
  joining : List (Snowflake × Uuid)

inductive Act where
  | tick (seconds : Nat)
  /-- `POST /rooms/{id}/token`. -/
  | token (caller : Uuid) (discordChannelId : Snowflake) (publish : List PublicationSource)
  /-- The holder of a token connects to LiveKit. -/
  | connect (discordChannelId : Snowflake) (userId : Uuid)
  /-- A `participant_joined` arrives. -/
  | joined (discordChannelId : Snowflake) (userId : Uuid)
  /-- Any other event of LiveKit. -/
  | webhook (action : Api.Rooms.Action)
  /-- An event of Discord, with its sweep. -/
  | discord (event : AccessEvent)

namespace State

/-- What the handlers of Discord's events work on. -/
def app (s : State) : AppState :=
  ⟨s.replica, s.server.users, s.server.presence, s.allowedGuilds, s.removals, s.notices⟩

def discord (event : AccessEvent) (s : State) : State :=
  let app := Handler.handle s.app event
  { s with
    server := { s.server with presence := app.presence }
    replica := app.replica
    removals := app.removals
    notices := app.published }

/-- `ttl` is `token_ttl_seconds()`.  Only a token without publications is one for the
identity that is a person in the room. -/
def token (ttl : Nat) (caller : Uuid) (discordChannelId : Snowflake)
    (publish : List PublicationSource) (s : State) : State :=
  let (server, answer) :=
    Api.Rooms.token s.clock s.replica caller discordChannelId publish s.server
  { s with
    server := server
    passes :=
      match answer with
      | .ok token =>
          if token.publish then s.passes
          else ⟨token.discordChannelId, token.userId, s.clock + ttl⟩ :: s.passes
      | .error _ => s.passes }

/-- LiveKit looks at the token alone. -/
def connect (discordChannelId : Snowflake) (userId : Uuid) (s : State) : State :=
  if ∃ pass ∈ s.passes, pass.discordChannelId = discordChannelId ∧ pass.userId = userId ∧
      s.clock < pass.expiresAt then
    { s with joining := (discordChannelId, userId) :: s.joining }
  else
    s

def joined (discordChannelId : Snowflake) (userId : Uuid) (s : State) : State :=
  if (discordChannelId, userId) ∈ s.joining then
    { s with
      joining := s.joining.erase (discordChannelId, userId)
      server := Api.Rooms.onJoin s.clock discordChannelId userId s.server }
  else
    s

def webhook (action : Api.Rooms.Action) (s : State) : State :=
  match action with
  | .joined _ _ => s
  | action => { s with server := Api.Rooms.perform s.clock s.server action }

def step (ttl : Nat) (s : State) : Act → State
  | .tick seconds => { s with clock := s.clock + seconds }
  | .token caller discordChannelId publish => s.token ttl caller discordChannelId publish
  | .connect discordChannelId userId => s.connect discordChannelId userId
  | .joined discordChannelId userId => s.joined discordChannelId userId
  | .webhook action => s.webhook action
  | .discord event => s.discord event

/-- Nobody has asked for a token yet. -/
def started (clock : Timestamp) (server : ServerState) (replica : Replica)
    (allowedGuilds : Option (List UInt64)) : State :=
  ⟨clock, server, replica, allowedGuilds, [], [], [], []⟩

/-! ## Who may join -/

/-- The replica grants `can_join_room` on the channel to the account of the user. -/
def grants (s : State) (discordChannelId : Snowflake) (userId : Uuid) : Bool :=
  match s.server.users.lookup userId with
  | none => false
  | some profile =>
      match u64TryFrom discordChannelId, u64TryFrom profile.discordUserId with
      | some channel, some discordUser => s.replica.mayJoin discordUser channel
      | _, _ => false

/-- Every row `on_join` writes is for somebody who may join; it writes none for a user the
table does not know. -/
def Permitted (s : State) : Act → Prop
  | .joined discordChannelId userId =>
      (discordChannelId, userId) ∈ s.joining → (s.server.users.lookup userId).isSome = true →
        s.grants discordChannelId userId = true
  | _ => True

/-- The user can still get a row in the channel, with a token they have or with a join that
is on its way. -/
def Holds (s : State) (discordChannelId : Snowflake) (userId : Uuid) : Prop :=
  (∃ pass ∈ s.passes, pass.discordChannelId = discordChannelId ∧ pass.userId = userId ∧
      s.clock < pass.expiresAt) ∨
    (discordChannelId, userId) ∈ s.joining

/-- The event takes nothing away from whoever can still get a row. -/
def Spares (s : State) : Act → Prop
  | .discord event =>
      ∀ discordChannelId userId, s.Holds discordChannelId userId →
        s.grants discordChannelId userId = true →
        (s.discord event).grants discordChannelId userId = true
  | _ => True

/-- Whoever can still get a row may join. -/
def Inv (s : State) : Prop :=
  ∀ discordChannelId userId, s.Holds discordChannelId userId →
    s.grants discordChannelId userId = true

section

variable {s : State} {ttl : Nat} {c : Snowflake} {u : Uuid}

/-- The guard of the token route. -/
theorem grants_of_roomAccess {now : Timestamp} {access : RoomAccess}
    (h : Api.roomAccess now s.replica s.server.users u c = .ok access) : s.grants c u = true := by
  unfold Api.roomAccess at h
  split at h
  · cases h
  · split at h
    · cases h
    · next user huser =>
        split at h
        · cases h
        · cases h
        · next channel discordUser hchannel hdiscord =>
            split at h
            · cases h
            · next permissions hpermissions =>
                split at h
                · cases h
                · split at h
                  · cases h
                  · next hjoin =>
                      simp only [grants, huser, hchannel, hdiscord, Replica.mayJoin, hpermissions]
                      simpa using hjoin

/-- What the answer of the route says about the caller. -/
theorem of_token {now : Timestamp} {publish : List PublicationSource} {token : RoomToken}
    (h : (Api.Rooms.token now s.replica u c publish s.server).2 = .ok token)
    (hviewer : token.publish = false) :
    token.discordChannelId = c ∧ token.userId = u ∧ s.grants c u = true := by
  unfold Api.Rooms.token at h
  split at h
  · cases h
  · next access haccess =>
      split at h
      · cases h
      · cases h
        have hempty : publish.isEmpty = true := by simpa using hviewer
        rw [Api.Rooms.tokenAccess, if_pos hempty] at haccess
        exact ⟨rfl, rfl, grants_of_roomAccess haccess⟩

/-! ### The users stay -/

theorem users_token (publish : List PublicationSource) :
    (s.token ttl u c publish).server.users = s.server.users := by
  show (Api.Rooms.token s.clock s.replica u c publish s.server).1.users = _
  unfold Api.Rooms.token
  split
  · rfl
  · split
    · rfl
    · rfl

theorem users_perform (now : Timestamp) (server : ServerState) (action : Api.Rooms.Action) :
    (Api.Rooms.perform now server action).users = server.users := by
  cases action with
  | joined c u =>
      cases huser : server.users.lookup u with
      | none => exact congrArg ServerState.users (Api.Rooms.onJoin_unknown huser)
      | some profile => exact (Api.Rooms.onJoin_effect huser).users
  | left c u => exact Api.Rooms.onLeave_effect.users
  | publisherGone c u =>
      cases hrow : server.presence.lookup u with
      | none => exact congrArg ServerState.users (Api.Rooms.onPublisherGone_absent hrow)
      | some row => exact (Api.Rooms.onPublisherGone_effect hrow).users
  | shareStarted c u source =>
      cases hrow : server.presence.lookup u with
      | none => exact congrArg ServerState.users (Api.Rooms.onShareStart_absent hrow)
      | some row => exact (Api.Rooms.onShareStart_effect hrow).users
  | shareStopped c u source =>
      cases hrow : server.presence.lookup u with
      | none => exact congrArg ServerState.users (Api.Rooms.onShareStop_absent hrow)
      | some row => exact (Api.Rooms.onShareStop_effect hrow).users
  | finished c => exact Api.Rooms.roomFinished_effect.users

/-- Who may join is decided by the users and the replica. -/
theorem grants_congr {s' : State} (husers : s'.server.users = s.server.users)
    (hreplica : s'.replica = s.replica) : s'.grants c u = s.grants c u := by
  rw [grants, grants, husers, hreplica]

/-! ### The steps -/

theorem inv_started (clock : Timestamp) (server : ServerState) (replica : Replica)
    (allowedGuilds : Option (List UInt64)) :
    (started clock server replica allowedGuilds).Inv := by
  intro c u hholds
  cases hholds with
  | inl hpass =>
      obtain ⟨pass, hmem, -⟩ := hpass
      cases hmem
  | inr hjoining => cases hjoining

/-- A step that lets nobody in and asks the same of the same replica. -/
theorem Inv.mono {s' : State} (h : s.Inv) (husers : s'.server.users = s.server.users)
    (hreplica : s'.replica = s.replica) (hholds : ∀ c u, s'.Holds c u → s.Holds c u) :
    s'.Inv := by
  intro c u hc
  rw [grants_congr husers hreplica]
  exact h c u (hholds c u hc)

theorem Inv.token (h : s.Inv) (publish : List PublicationSource) :
    (s.token ttl u c publish).Inv := by
  intro c' u' hholds
  rw [grants_congr (s := s) (users_token publish) rfl]
  cases hanswer : (Api.Rooms.token s.clock s.replica u c publish s.server).2 with
  | error e =>
      apply h c' u'
      simpa [Holds, State.token, hanswer] using hholds
  | ok token =>
      cases hpublish : token.publish with
      | true =>
          apply h c' u'
          simpa [Holds, State.token, hanswer, hpublish] using hholds
      | false =>
          obtain ⟨hchannel, huser, hgrants⟩ := of_token hanswer hpublish
          cases hholds with
          | inl hpass =>
              obtain ⟨pass, hmem, hc', hu', hlive⟩ := hpass
              simp only [State.token, hanswer, hpublish] at hmem
              cases hmem with
              | head =>
                  rw [← hc', ← hu', hchannel, huser]
                  exact hgrants
              | tail _ hmem => exact h c' u' (.inl ⟨pass, hmem, hc', hu', hlive⟩)
          | inr hjoining => exact h c' u' (.inr hjoining)

theorem Inv.connect (h : s.Inv) : (s.connect c u).Inv := by
  unfold State.connect
  split
  · next hpass =>
      apply h.mono
      · rfl
      · rfl
      · intro c' u' hholds
        cases hholds with
        | inl hpass' => exact .inl hpass'
        | inr hjoining =>
            cases hjoining with
            | head => exact .inl hpass
            | tail _ hjoining => exact .inr hjoining
  · exact h

theorem Inv.joined (h : s.Inv) : (s.joined c u).Inv := by
  unfold State.joined
  split
  · apply h.mono
    · exact users_perform s.clock s.server (.joined c u)
    · rfl
    · intro c' u' hholds
      cases hholds with
      | inl hpass => exact .inl hpass
      | inr hjoining => exact .inr (List.mem_of_mem_erase hjoining)
  · exact h

theorem Inv.webhook (h : s.Inv) (action : Api.Rooms.Action) : (s.webhook action).Inv := by
  unfold State.webhook
  split
  · exact h
  · exact h.mono (users_perform _ _ _) rfl fun c' u' hholds => hholds

theorem Inv.step (h : s.Inv) (act : Act) (hspares : s.Spares act) : (s.step ttl act).Inv := by
  cases act with
  | tick seconds =>
      apply h.mono
      · rfl
      · rfl
      · intro c' u' hholds
        cases hholds with
        | inl hpass =>
            obtain ⟨pass, hmem, hc', hu', hlive⟩ := hpass
            exact .inl ⟨pass, hmem, hc', hu', Nat.lt_of_le_of_lt (Nat.le_add_right _ _) hlive⟩
        | inr hjoining => exact .inr hjoining
  | token caller channel publish => exact h.token publish
  | connect channel user => exact h.connect
  | joined channel user => exact h.joined
  | webhook action => exact h.webhook action
  | discord event => exact fun c' u' hholds => hspares c' u' hholds (h c' u' hholds)

theorem Inv.permitted (h : s.Inv) (act : Act) : s.Permitted act := by
  cases act with
  | joined channel user => exact fun hjoining _ => h channel user (.inr hjoining)
  | tick seconds => trivial
  | token caller channel publish => trivial
  | connect channel user => trivial
  | webhook action => trivial
  | discord event => trivial

/-- An event that is not sparing is one join away from a row for somebody who may not
join. -/
theorem spares_iff (h : s.Inv) (event : AccessEvent) :
    s.Spares (.discord event) ↔ ∀ discordChannelId userId,
      EachStep (step ttl) Permitted s
        [.discord event, .connect discordChannelId userId, .joined discordChannelId userId] := by
  constructor
  · intro hspares c u
    have hafter : (s.step ttl (.discord event)).Inv := h.step (.discord event) hspares
    exact ⟨trivial, trivial, (hafter.connect.permitted (.joined c u)), trivial⟩
  · intro hpermitted c u hholds hgrants
    obtain ⟨-, -, hjoined, -⟩ := hpermitted c u
    have hsame : ((s.discord event).connect c u).grants c u = (s.discord event).grants c u := by
      unfold connect
      split
      · rfl
      · rfl
    -- with a pass they connect now; without one the join was already on its way
    have hjoining : (c, u) ∈ ((s.discord event).connect c u).joining := by
      cases hholds with
      | inl hpass =>
          have hlive : ∃ pass ∈ (s.discord event).passes, pass.discordChannelId = c ∧
              pass.userId = u ∧ (s.discord event).clock < pass.expiresAt := hpass
          rw [connect, if_pos hlive]
          exact List.mem_cons_self
      | inr hjoining =>
          unfold connect
          split
          · exact List.mem_cons_of_mem _ hjoining
          · exact hjoining
    have hknown : (((s.discord event).connect c u).server.users.lookup u).isSome = true := by
      have husers : ((s.discord event).connect c u).server.users = s.server.users := by
        unfold connect
        split
        · rfl
        · rfl
      rw [husers]
      unfold grants at hgrants
      split at hgrants
      · cases hgrants
      · next profile hprofile => rw [hprofile]; rfl
    rw [← hsame]
    exact hjoined hjoining hknown

/-- As long as no event of Discord takes `can_join_room` away from somebody who holds a
viewer token that has not expired, or whose join is on its way, every row `on_join` writes
is for somebody who may join. -/
theorem permitted_of_spares {clock : Timestamp} {server : ServerState} {replica : Replica}
    {allowedGuilds : Option (List UInt64)} {acts : List Act}
    (h : EachStep (step ttl) Spares (started clock server replica allowedGuilds) acts) :
    EachStep (step ttl) Permitted (started clock server replica allowedGuilds) acts :=
  EachStep.imp (fun _ act hinv _ => hinv.permitted act)
    (fun _ act hinv hspares => hinv.step act hspares) (inv_started _ _ _ _) h

end

/-- A guild of one member, who may join its only voice channel. -/
def oneMember : State :=
  started 0
    (ServerState.started ⟨1, 1⟩ ((∅ : Users).insert 3 ⟨30, "ana", none, none⟩))
    (Replica.setConnected 0 true (Replica.replaceGuild
      { id := 100
        ownerId := 1
        roles := [⟨100,
          Domain.DiscordPermissions.viewChannel ||| Domain.DiscordPermissions.connect⟩]
        members := (∅ : Table UInt64 (List UInt64)).insert 30 []
        channels := (∅ : Table UInt64 ChannelData).insert 5 ⟨5, "sala", []⟩
        voice := ∅ } (Replica.new 60)))
    none

/-- The token expires before the member is removed. -/
theorem permitted_of_spares_expired :
    EachStep (step 3600) Permitted oneMember
      [.token 3 5 [], .connect 5 3, .joined 5 3, .tick 3600,
        .discord (.guildMemberRemoval 100 30), .connect 5 3, .joined 5 3] := by
  have hpasses : (run (step 3600) oneMember
      [.token 3 5 [], .connect 5 3, .joined 5 3, .tick 3600]).passes = [⟨5, 3, 3600⟩] := by
    decide
  have hjoining : (run (step 3600) oneMember
      [.token 3 5 [], .connect 5 3, .joined 5 3, .tick 3600]).joining = [] := by
    decide
  have hspares : (run (step 3600) oneMember
      [.token 3 5 [], .connect 5 3, .joined 5 3, .tick 3600]).Spares
        (.discord (.guildMemberRemoval 100 30)) := by
    intro c u hholds
    unfold Holds at hholds
    rw [hpasses, hjoining] at hholds
    cases hholds with
    | inl hpass =>
        obtain ⟨pass, hmem, -, -, hlive⟩ := hpass
        rw [List.mem_singleton.mp hmem] at hlive
        exact absurd hlive (by decide)
    | inr hjoining => cases hjoining
  exact permitted_of_spares
    ⟨trivial, trivial, trivial, trivial, hspares, trivial, trivial, trivial⟩

/-- The member is removed while they hold a token: no sweep finds them, and they join. -/
theorem removed_member_joins :
    ¬ ∀ ttl clock server replica allowedGuilds acts,
      EachStep (step ttl) Permitted (started clock server replica allowedGuilds) acts := by
  intro hall
  have hrun : EachStep (step 3600) Permitted oneMember
      [.token 3 5 [], .discord (.guildMemberRemoval 100 30), .connect 5 3, .joined 5 3] :=
    hall _ _ _ _ _ _
  have hjoined := hrun.2.2.2.1 (by decide) (by decide)
  revert hjoined
  decide

end State

end StaleTokens
end Bot
end Ldktela
