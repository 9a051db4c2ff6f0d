import Ldktela.Api.Livekit
import Ldktela.Db.Presence
import Ldktela.Db.ShareSessions

/-!
# The webhook of the SFU

`crates/api/src/routes/rooms.rs`: the handlers behind
`/internal/livekit/webhook`.  They are the only writers of the presence and of
the share sessions, and they give publish slots back.

Each handler is followed by one theorem that says what it does to the three
tables, in terms of what a lookup sees; the properties of the handlers are proved
from these alone.  Database calls succeed, except that a foreign key refuses the
presence of an unknown user.
-/

namespace Ldktela
namespace Api

open Protocol
open Db

/-- The public state of one room, for the Discord side. -/
structure RoomBroadcast where
  discordChannelId : Snowflake
  /-- Discord ids of whoever is publishing, in join order. -/
  publishers : List Snowflake
  /-- People in the room who are not publishing. -/
  viewers : Nat
deriving DecidableEq

structure ServerState where
  config : RoomConfig
  users : Users
  presence : Presence
  sessions : ShareSessions
  grants : Grants
  /-- Snapshots announced to the bot. -/
  announced : List RoomBroadcast
  /-- Events published, each with its recipients. -/
  published : List (List Uuid × DispatchEvent)

/-- The server before its first event: nobody is in a room. -/
def ServerState.started (config : RoomConfig) (users : Users) : ServerState where
  config := config
  users := users
  presence := ∅
  sessions := ∅
  grants := ∅
  announced := []
  published := []

namespace Rooms

def userSummary (userId : Uuid) (profile : UserRow) : UserSummary :=
  ⟨userId, profile.discordUserId, profile.username, profile.displayName, profile.avatarUrl⟩

def participants (channel : Snowflake) (st : ServerState) : List ParticipantRow :=
  Presence.listByChannel st.users channel st.presence

/-- Everyone currently in the room. -/
def roomMembers (channel : Snowflake) (st : ServerState) : List Uuid :=
  (participants channel st).map fun p => p.userId

def publishToUsers (recipients : List Uuid) (event : DispatchEvent) (st : ServerState) :
    ServerState :=
  { st with published := st.published ++ [(recipients, event)] }

/-- Sends to whoever is currently in the room. -/
def publishToRoom (channel : Snowflake) (event : DispatchEvent) (st : ServerState) :
    ServerState :=
  publishToUsers (roomMembers channel st) event st

/-- Feeds `peak_viewers` and tells the Discord side what the room looks like now.
A viewer is someone in the room who is not publishing. -/
def observeRoom (channel : Snowflake) (st : ServerState) : ServerState :=
  let rows := participants channel st
  let viewers := (rows.filter fun p => !p.row.publishing).length
  { st with
    sessions := ShareSessions.observeViewers channel viewers st.sessions
    announced := st.announced ++
      [{ discordChannelId := channel
         publishers := (rows.filter fun p => p.row.publishing).map
           fun p => p.profile.discordUserId
         viewers := viewers }] }

def onJoin (now : Timestamp) (channel : Snowflake) (userId : Uuid) (st : ServerState) :
    ServerState :=
  match st.users.lookup userId with
  | none => st
  | some profile =>
      let st := { st with presence := Presence.join now userId channel st.presence }
      -- whoever has just come in publishes nothing yet
      publishToRoom channel (.roomParticipantAdd ⟨channel, ⟨userSummary userId profile, []⟩⟩)
        (observeRoom channel st)

def onLeave (now : Timestamp) (channel : Snowflake) (userId : Uuid) (st : ServerState) :
    ServerState :=
  -- whoever leaves has to get the event too
  let members := roomMembers channel st
  let recipients := if userId ∈ members then members else members ++ [userId]
  let st := { st with
    presence := (Presence.leave userId st.presence).1
    sessions := ShareSessions.close now channel userId st.sessions
    grants := Grants.releasePublisher channel userId st.grants }
  publishToUsers recipients (.roomParticipantRemove ⟨channel, userId⟩) (observeRoom channel st)

def onShareStart (now : Timestamp) (channel : Snowflake) (userId : Uuid)
    (source : PublicationSource) (st : ServerState) : ServerState :=
  match Presence.startPublication now userId source st.presence with
  | (_, none) => st
  | (presence, some started) =>
      let st := { st with
        presence := presence
        sessions := ShareSessions.openSession now channel userId st.sessions }
      publishToRoom channel (.shareStart ⟨channel, userId, source, started.since⟩)
        (observeRoom channel st)

/-- The publishing connection went away, taking every source with it. -/
def onPublisherGone (now : Timestamp) (channel : Snowflake) (userId : Uuid)
    (st : ServerState) : ServerState :=
  match Presence.clearPublications userId st.presence with
  | (_, none) => st
  | (presence, some cleared) =>
      let st := { st with
        presence := presence
        sessions := ShareSessions.close now channel userId st.sessions
        grants := Grants.releasePublisher channel userId st.grants }
      cleared.sources.foldl
        (fun st source => publishToRoom channel (.shareStop ⟨channel, userId, source⟩) st)
        (observeRoom channel st)

def onShareStop (now : Timestamp) (channel : Snowflake) (userId : Uuid)
    (source : PublicationSource) (st : ServerState) : ServerState :=
  match Presence.stopPublication userId source st.presence with
  | (_, none) => st
  | (presence, some stopped) =>
      let st := { st with
        presence := presence
        -- the session covers the person, not the publication
        sessions :=
          if stopped.stillPublishing then st.sessions
          else ShareSessions.close now channel userId st.sessions
        grants := Grants.releasePublication channel userId source st.grants }
      publishToRoom channel (.shareStop ⟨channel, userId, source⟩) (observeRoom channel st)

def roomFinished (channel : Snowflake) (st : ServerState) : ServerState :=
  { st with
    presence := Presence.clearChannel channel st.presence
    grants := Grants.forgetRoom channel st.grants
    announced := st.announced ++ [⟨channel, [], 0⟩] }

/-- Handles one verified event. -/
def webhook (now : Timestamp) (st : ServerState) (event : WebhookEvent) : ServerState :=
  match event.channel with
  | none => st
  | some channel =>
      match event.kind with
      | .participantJoined =>
          if event.isPublisherConnection then
            st
          else
            match event.user with
            | none => st
            | some user => onJoin now channel user st
      | .participantLeft =>
          match event.user with
          | none => st
          | some user =>
              if event.isPublisherConnection then onPublisherGone now channel user st
              else onLeave now channel user st
      | .trackPublished =>
          match event.user, event.publishedSource with
          | some user, some source => onShareStart now channel user source st
          | _, _ => st
      | .trackUnpublished =>
          match event.user, event.publishedSource with
          | some user, some source => onShareStop now channel user source st
          | _, _ => st
      | .roomFinished => roomFinished channel st
      | .other => st

/-! ## The handler an event reaches -/

/-- The handler of an event, with its arguments. -/
inductive Action where
  | joined (channel : Snowflake) (userId : Uuid)
  | left (channel : Snowflake) (userId : Uuid)
  | publisherGone (channel : Snowflake) (userId : Uuid)
  | shareStarted (channel : Snowflake) (userId : Uuid) (source : PublicationSource)
  | shareStopped (channel : Snowflake) (userId : Uuid) (source : PublicationSource)
  | finished (channel : Snowflake)
deriving DecidableEq

/-- Which handler the event reaches; `none` when it is dropped. -/
def action (event : WebhookEvent) : Option Action :=
  event.channel.bind fun channel =>
    match event.kind with
    | .participantJoined =>
        if event.isPublisherConnection then none
        else event.user.map fun user => .joined channel user
    | .participantLeft =>
        event.user.map fun user =>
          if event.isPublisherConnection then .publisherGone channel user else .left channel user
    | .trackPublished =>
        event.user.bind fun user =>
          event.publishedSource.map fun source => .shareStarted channel user source
    | .trackUnpublished =>
        event.user.bind fun user =>
          event.publishedSource.map fun source => .shareStopped channel user source
    | .roomFinished => some (.finished channel)
    | .other => none

def perform (now : Timestamp) (st : ServerState) : Action → ServerState
  | .joined channel userId => onJoin now channel userId st
  | .left channel userId => onLeave now channel userId st
  | .publisherGone channel userId => onPublisherGone now channel userId st
  | .shareStarted channel userId source => onShareStart now channel userId source st
  | .shareStopped channel userId source => onShareStop now channel userId source st
  | .finished channel => roomFinished channel st

theorem webhook_eq (now : Timestamp) (st : ServerState) (event : WebhookEvent) :
    webhook now st event =
      match action event with
      | none => st
      | some a => perform now st a := by
  unfold webhook action
  cases event.channel with
  | none => rfl
  | some channel =>
      rw [Option.bind_some]
      dsimp only
      cases event.kind with
      | participantJoined =>
          cases event.isPublisherConnection with
          | true => rfl
          | false => cases event.user with
              | none => rfl
              | some user => rfl
      | participantLeft =>
          cases event.user with
          | none => rfl
          | some user => cases event.isPublisherConnection with
              | true => rfl
              | false => rfl
      | trackPublished =>
          cases event.user with
          | none => rfl
          | some user => cases event.publishedSource with
              | none => rfl
              | some source => rfl
      | trackUnpublished =>
          cases event.user with
          | none => rfl
          | some user => cases event.publishedSource with
              | none => rfl
              | some source => rfl
      | roomFinished => rfl
      | other => rfl

/-! ## What the handlers do to the tables -/

/-- How the tables after an event of the channel `c` compare with the ones
before: the presence of each person, the open sessions, the publish slots, and
the rows of the other channels. -/
structure Effect (c : Snowflake) (st st' : ServerState)
    (row : Uuid → Option PresenceRow) (isOpen : Snowflake → Uuid → Prop)
    (holds : Snowflake → Uuid → PublicationSource → Prop) : Prop where
  presence : ∀ v, st'.presence.lookup v = row v
  openFor : ∀ c' v, st'.sessions.OpenFor c' v ↔ isOpen c' v
  oneOpen : st.sessions.OneOpen → st'.sessions.OneOpen
  elsewhere : ShareSessions.SameElsewhere c st.sessions st'.sessions
  holds : ∀ c' v s, st'.grants.Holds c' v s ↔ holds c' v s
  users : st'.users = st.users

/-- An event that is not handled. -/
theorem Effect.none (c : Snowflake) (st : ServerState) :
    Effect c st st (fun v => st.presence.lookup v) (fun c' v => st.sessions.OpenFor c' v)
      (fun c' v s => st.grants.Holds c' v s) where
  presence _ := rfl
  openFor _ _ := Iff.rfl
  oneOpen h := h
  elsewhere := ShareSessions.SameElsewhere.refl c st.sessions
  holds _ _ _ := Iff.rfl
  users := rfl

section Handlers

variable {st st' : ServerState} {c : Snowflake} {u : Uuid} {source : PublicationSource}
  {now : Timestamp} {row : PresenceRow} {rows : Uuid → Option PresenceRow}
  {isOpen : Snowflake → Uuid → Prop} {holds : Snowflake → Uuid → PublicationSource → Prop}

theorem Effect.publishToUsers (h : Effect c st st' rows isOpen holds) (recipients : List Uuid)
    (event : DispatchEvent) :
    Effect c st (publishToUsers recipients event st') rows isOpen holds :=
  ⟨h.presence, h.openFor, h.oneOpen, h.elsewhere, h.holds, h.users⟩

theorem Effect.publishToRoom (h : Effect c st st' rows isOpen holds) (channel : Snowflake)
    (event : DispatchEvent) :
    Effect c st (publishToRoom channel event st') rows isOpen holds :=
  h.publishToUsers _ event

/-- Observing the room opens and closes nothing. -/
theorem Effect.observeRoom (h : Effect c st st' rows isOpen holds) :
    Effect c st (observeRoom c st') rows isOpen holds where
  presence := h.presence
  openFor c' v := (ShareSessions.openFor_observeViewers _).trans (h.openFor c' v)
  oneOpen hone := ShareSessions.oneOpen_observeViewers _ (h.oneOpen hone)
  elsewhere := h.elsewhere.trans (ShareSessions.sameElsewhere_observeViewers _)
  holds := h.holds
  users := h.users

theorem onJoin_effect {profile : UserRow} (huser : st.users.lookup u = some profile) :
    Effect c st (onJoin now c u st)
      (fun v => if v = u then some ⟨c, false, now, none, none⟩ else st.presence.lookup v)
      (fun c' v => st.sessions.OpenFor c' v) (fun c' v s => st.grants.Holds c' v s) := by
  have hwritten : Effect c st { st with presence := Presence.join now u c st.presence }
      (fun v => if v = u then some ⟨c, false, now, none, none⟩ else st.presence.lookup v)
      (fun c' v => st.sessions.OpenFor c' v) (fun c' v s => st.grants.Holds c' v s) :=
    { Effect.none c st with presence := fun v => Presence.lookup_join now }
  have hhandled := hwritten.observeRoom.publishToRoom c
    (.roomParticipantAdd ⟨c, ⟨userSummary u profile, []⟩⟩)
  simpa only [onJoin, huser] using hhandled

/-- A person unknown to the database is refused by the foreign key. -/
theorem onJoin_unknown (huser : st.users.lookup u = none) : onJoin now c u st = st := by
  simp [onJoin, huser]

theorem onLeave_effect :
    Effect c st (onLeave now c u st)
      (fun v => if v = u then none else st.presence.lookup v)
      (fun c' v => st.sessions.OpenFor c' v ∧ ¬ (c' = c ∧ v = u))
      (fun c' v s => st.grants.Holds c' v s ∧ ¬ (c' = c ∧ v = u)) := by
  have hwritten : Effect c st
      { st with
        presence := (Presence.leave u st.presence).1
        sessions := ShareSessions.close now c u st.sessions
        grants := Grants.releasePublisher c u st.grants }
      (fun v => if v = u then none else st.presence.lookup v)
      (fun c' v => st.sessions.OpenFor c' v ∧ ¬ (c' = c ∧ v = u))
      (fun c' v s => st.grants.Holds c' v s ∧ ¬ (c' = c ∧ v = u)) :=
    { presence := fun _ => Presence.lookup_leave
      openFor := fun _ _ => ShareSessions.openFor_close
      oneOpen := ShareSessions.oneOpen_close
      elsewhere := ShareSessions.sameElsewhere_close
      holds := fun _ _ _ => Grants.holds_releasePublisher
      users := rfl }
  exact hwritten.observeRoom.publishToUsers _ _

/-- A track event about somebody who has no row is not handled. -/
theorem onShareStart_absent (habsent : st.presence.lookup u = none) :
    onShareStart now c u source st = st := by
  simp [onShareStart, Presence.startPublication, habsent]

theorem onShareStart_effect (hrow : st.presence.lookup u = some row) :
    Effect c st (onShareStart now c u source st)
      (fun v => if v = u then some (row.start now source) else st.presence.lookup v)
      (fun c' v => (c' = c ∧ v = u) ∨ st.sessions.OpenFor c' v)
      (fun c' v s => st.grants.Holds c' v s) := by
  have hwritten : Effect c st
      { st with
        presence := (Presence.startPublication now u source st.presence).1
        sessions := ShareSessions.openSession now c u st.sessions }
      (fun v => if v = u then some (row.start now source) else st.presence.lookup v)
      (fun c' v => (c' = c ∧ v = u) ∨ st.sessions.OpenFor c' v)
      (fun c' v s => st.grants.Holds c' v s) :=
    { presence := fun _ =>
        (Presence.lookup_startPublication now source).trans (Presence.lookup_rewritten hrow _)
      openFor := fun _ _ => ShareSessions.openFor_open
      oneOpen := ShareSessions.oneOpen_open
      elsewhere := ShareSessions.sameElsewhere_open
      holds := fun _ _ _ => Iff.rfl
      users := rfl }
  have hstarted : (Presence.startPublication now u source st.presence).2 =
      some ⟨row.discordChannelId, (row.since source).getD now⟩ := by
    simp [Presence.startPublication, hrow]
  have hhandled := hwritten.observeRoom.publishToRoom c
    (.shareStart ⟨c, u, source, (row.since source).getD now⟩)
  unfold onShareStart
  rw [← Prod.mk.eta (p := Presence.startPublication now u source st.presence), hstarted]
  exact hhandled

theorem onPublisherGone_absent (habsent : st.presence.lookup u = none) :
    onPublisherGone now c u st = st := by
  simp [onPublisherGone, Presence.clearPublications, habsent]

theorem onPublisherGone_effect (hrow : st.presence.lookup u = some row) :
    Effect c st (onPublisherGone now c u st)
      (fun v => if v = u then some row.clear else st.presence.lookup v)
      (fun c' v => st.sessions.OpenFor c' v ∧ ¬ (c' = c ∧ v = u))
      (fun c' v s => st.grants.Holds c' v s ∧ ¬ (c' = c ∧ v = u)) := by
  have hwritten : Effect c st
      { st with
        presence := (Presence.clearPublications u st.presence).1
        sessions := ShareSessions.close now c u st.sessions
        grants := Grants.releasePublisher c u st.grants }
      (fun v => if v = u then some row.clear else st.presence.lookup v)
      (fun c' v => st.sessions.OpenFor c' v ∧ ¬ (c' = c ∧ v = u))
      (fun c' v s => st.grants.Holds c' v s ∧ ¬ (c' = c ∧ v = u)) :=
    { presence := fun _ =>
        Presence.lookup_clearPublications.trans (Presence.lookup_rewritten hrow _)
      openFor := fun _ _ => ShareSessions.openFor_close
      oneOpen := ShareSessions.oneOpen_close
      elsewhere := ShareSessions.sameElsewhere_close
      holds := fun _ _ _ => Grants.holds_releasePublisher
      users := rfl }
  have hcleared : (Presence.clearPublications u st.presence).2 =
      some ⟨row.discordChannelId, row.screenSince.isSome, row.cameraSince.isSome⟩ := by
    simp [Presence.clearPublications, hrow]
  -- one event for each source that was on the air
  have hannounced : ∀ (sources : List PublicationSource) (st' : ServerState),
      Effect c st st' (fun v => if v = u then some row.clear else st.presence.lookup v)
        (fun c' v => st.sessions.OpenFor c' v ∧ ¬ (c' = c ∧ v = u))
        (fun c' v s => st.grants.Holds c' v s ∧ ¬ (c' = c ∧ v = u)) →
      Effect c st
        (sources.foldl
          (fun st source => Rooms.publishToRoom c (.shareStop ⟨c, u, source⟩) st) st')
        (fun v => if v = u then some row.clear else st.presence.lookup v)
        (fun c' v => st.sessions.OpenFor c' v ∧ ¬ (c' = c ∧ v = u))
        (fun c' v s => st.grants.Holds c' v s ∧ ¬ (c' = c ∧ v = u)) := by
    intro sources
    induction sources with
    | nil => exact fun st' h => h
    | cons source sources ih => exact fun st' h => ih _ (h.publishToRoom c _)
  unfold onPublisherGone
  rw [← Prod.mk.eta (p := Presence.clearPublications u st.presence), hcleared]
  exact hannounced _ _ hwritten.observeRoom

theorem onShareStop_absent (habsent : st.presence.lookup u = none) :
    onShareStop now c u source st = st := by
  simp [onShareStop, Presence.stopPublication, habsent]

/-- The session closes when nothing else is on the air. -/
theorem onShareStop_effect (hrow : st.presence.lookup u = some row) :
    Effect c st (onShareStop now c u source st)
      (fun v => if v = u then some (row.stop source) else st.presence.lookup v)
      (fun c' v => st.sessions.OpenFor c' v ∧
        ¬ ((row.since (other source)).isSome = false ∧ c' = c ∧ v = u))
      (fun c' v s => st.grants.Holds c' v s ∧ ¬ (c' = c ∧ v = u ∧ s = source)) := by
  have hwritten : Effect c st
      { st with
        presence := (Presence.stopPublication u source st.presence).1
        sessions :=
          if (row.since (other source)).isSome then st.sessions
          else ShareSessions.close now c u st.sessions
        grants := Grants.releasePublication c u source st.grants }
      (fun v => if v = u then some (row.stop source) else st.presence.lookup v)
      (fun c' v => st.sessions.OpenFor c' v ∧
        ¬ ((row.since (other source)).isSome = false ∧ c' = c ∧ v = u))
      (fun c' v s => st.grants.Holds c' v s ∧ ¬ (c' = c ∧ v = u ∧ s = source)) :=
    { presence := fun _ =>
        (Presence.lookup_stopPublication source).trans (Presence.lookup_rewritten hrow _)
      openFor := fun c' v => by
        cases (row.since (other source)).isSome with
        | true => simp
        | false => simpa using ShareSessions.openFor_close
      oneOpen := fun hone => by
        dsimp only
        split
        · exact hone
        · exact ShareSessions.oneOpen_close hone
      elsewhere := by
        dsimp only
        split
        · exact ShareSessions.SameElsewhere.refl c st.sessions
        · exact ShareSessions.sameElsewhere_close
      holds := fun _ _ _ => Grants.holds_releasePublication
      users := rfl }
  have hstopped : (Presence.stopPublication u source st.presence).2 =
      some ⟨row.discordChannelId, (row.since (other source)).isSome⟩ := by
    simp [Presence.stopPublication, hrow]
  unfold onShareStop
  rw [← Prod.mk.eta (p := Presence.stopPublication u source st.presence), hstopped]
  exact hwritten.observeRoom.publishToRoom c _

theorem roomFinished_effect :
    Effect c st (roomFinished c st)
      (fun v => (st.presence.lookup v).filter fun row => row.discordChannelId ≠ c)
      (fun c' v => st.sessions.OpenFor c' v)
      (fun c' v s => st.grants.Holds c' v s ∧ c' ≠ c) where
  presence _ := Presence.lookup_clearChannel
  openFor _ _ := Iff.rfl
  oneOpen h := h
  elsewhere := ShareSessions.SameElsewhere.refl c st.sessions
  holds _ _ _ := Grants.holds_forgetRoom
  users := rfl

end Handlers

end Rooms

end Api
end Ldktela
